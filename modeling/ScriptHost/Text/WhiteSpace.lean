import ScriptHost.Text.CodeSet

/- White space (the Unicode property White_Space) and trimming.
   Lines and arguments are trimmed as lists of characters, so that what is cut
   off can be counted; `trim` does the same for a whole text. -/
namespace ScriptHost.Text

/-- The characters with the property White_Space. -/
def whiteSpace : CodeSet := ⟨[
    0x9, 0xE, 0x20, 0x21, 0x85, 0x86, 0xA0, 0xA1, 0x1680, 0x1681, 0x2000, 0x200B, 0x2028, 0x202A,
    0x202F, 0x2030, 0x205F, 0x2060, 0x3000, 0x3001]⟩

def isWhiteSpace (c : Char) : Bool :=
  whiteSpace.contains c

/-- What is left after the white space at the front. -/
def trimStart (cs : List Char) : List Char :=
  cs.dropWhile isWhiteSpace

/-- What is left before the white space at the end. -/
def trimEnd (cs : List Char) : List Char :=
  (cs.reverse.dropWhile isWhiteSpace).reverse

def trim (s : String) : String :=
  String.ofList (trimEnd (trimStart s.toList))

theorem trimStart_trimStart (cs : List Char) : trimStart (trimStart cs) = trimStart cs := by
  induction cs with
  | nil => rfl
  | cons c rest ih =>
    by_cases h : isWhiteSpace c
    · simpa [trimStart, h] using ih
    · simp [trimStart, h]

theorem trimStart_split (cs : List Char) :
    ∃ blank, cs = blank ++ trimStart cs ∧ ∀ c ∈ blank, isWhiteSpace c := by
  refine ⟨cs.takeWhile isWhiteSpace, (List.takeWhile_append_dropWhile).symm, ?_⟩
  intro c hc
  have h := List.all_takeWhile (p := isWhiteSpace) (l := cs)
  exact List.all_eq_true.1 h c hc

end ScriptHost.Text

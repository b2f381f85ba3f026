import Mathlib.Data.List.TakeWhile
import ScriptHost.Text.WhiteSpace

/- White space at the ends of a text. Trimming takes off what is blank, at the front or at
   the end, and stops at the first character that is not.

   What is proved: what each kind of trimming leaves (`trimStart_append`, `trimEnd_append` and
   the lemmas on `FrontTrimmed` and `BackTrimmed`), and `toList_trim_eq_iff` — a text trimmed at
   both ends is the word that stands in it between blanks. -/
namespace ScriptHost.Text

theorem isWhiteSpace_of_graphic {c : Char} (hlow : 0x21 ≤ c.toNat) (hhigh : c.toNat < 0x85) :
    isWhiteSpace c = false := by
  have h1 : ¬ c.toNat < 0x9 := by omega
  have h2 : ¬ c.toNat < 0xE := by omega
  have h3 : ¬ c.toNat < 0x20 := by omega
  have h4 : ¬ c.toNat < 0x21 := by omega
  simp [isWhiteSpace, CodeSet.contains, whiteSpace, CodeSet.member, h1, h2, h3, h4, hhigh]

def Blank (cs : List Char) : Prop := ∀ c ∈ cs, isWhiteSpace c = true

def FrontTrimmed (cs : List Char) : Prop := ∀ c ∈ cs.head?, isWhiteSpace c = false

def BackTrimmed (cs : List Char) : Prop := ∀ c ∈ cs.getLast?, isWhiteSpace c = false

theorem frontTrimmed_nil : FrontTrimmed [] := nofun

theorem frontTrimmed_cons {c : Char} {cs : List Char} :
    FrontTrimmed (c :: cs) ↔ isWhiteSpace c = false := by
  simp [FrontTrimmed]

theorem Blank.reverse {cs : List Char} (h : Blank cs) : Blank cs.reverse := by
  intro c hc
  exact h c (List.mem_reverse.1 hc)

theorem FrontTrimmed.reverse {cs : List Char} (h : BackTrimmed cs) : FrontTrimmed cs.reverse := by
  intro c hc
  rw [List.head?_reverse] at hc
  exact h c hc

theorem trimStart_of_frontTrimmed {cs : List Char} (h : FrontTrimmed cs) : trimStart cs = cs := by
  cases cs with
  | nil => rfl
  | cons c rest =>
    have hc := frontTrimmed_cons.1 h
    simp [trimStart, hc]

theorem trimStart_append {blank : List Char} (hblank : Blank blank) (cs : List Char) :
    trimStart (blank ++ cs) = trimStart cs :=
  List.dropWhile_append_of_pos hblank

theorem frontTrimmed_trimStart (cs : List Char) : FrontTrimmed (trimStart cs) := by
  induction cs with
  | nil => exact frontTrimmed_nil
  | cons c rest ih =>
    by_cases hc : isWhiteSpace c = true
    · simpa [trimStart, hc] using ih
    · have hc : isWhiteSpace c = false := by simpa using hc
      simpa [trimStart, hc] using frontTrimmed_cons.2 hc

theorem trimStart_eq_nil_iff {cs : List Char} : trimStart cs = [] ↔ Blank cs := by
  rw [trimStart, List.dropWhile_eq_nil_iff]
  exact Iff.rfl

theorem trimEnd_eq (cs : List Char) : trimEnd cs = (trimStart cs.reverse).reverse := rfl

theorem trimEnd_of_backTrimmed {cs : List Char} (h : BackTrimmed cs) : trimEnd cs = cs := by
  rw [trimEnd_eq, trimStart_of_frontTrimmed (.reverse h), List.reverse_reverse]

theorem trimEnd_append {trail : List Char} (cs : List Char) (htrail : Blank trail) :
    trimEnd (cs ++ trail) = trimEnd cs := by
  rw [trimEnd_eq, List.reverse_append, trimStart_append htrail.reverse, ← trimEnd_eq]

theorem backTrimmed_trimEnd (cs : List Char) : BackTrimmed (trimEnd cs) := by
  intro c hc
  rw [trimEnd_eq, List.getLast?_reverse] at hc
  exact frontTrimmed_trimStart cs.reverse c hc

theorem trimEnd_split (cs : List Char) : ∃ trail, cs = trimEnd cs ++ trail ∧ Blank trail := by
  obtain ⟨blank, heq, hblank⟩ := trimStart_split cs.reverse
  refine ⟨blank.reverse, ?_, Blank.reverse hblank⟩
  rw [trimEnd_eq, ← List.reverse_append, ← heq, List.reverse_reverse]

/-- A word stands in a text, with blanks on either side and none at its own ends. -/
structure Encloses (text : String) (word : List Char) : Prop where
  parts : ∃ front back, text.toList = front ++ word ++ back ∧ Blank front ∧ Blank back
  front : FrontTrimmed word
  back : BackTrimmed word

theorem FrontTrimmed.append {cs : List Char} (h : FrontTrimmed cs) (hne : cs ≠ [])
    (rest : List Char) : FrontTrimmed (cs ++ rest) := by
  cases cs with
  | nil => exact absurd rfl hne
  | cons c cs => exact frontTrimmed_cons.2 (frontTrimmed_cons.1 h)

theorem FrontTrimmed.of_append {cs rest : List Char} (h : FrontTrimmed (cs ++ rest)) :
    FrontTrimmed cs := by
  cases cs with
  | nil => exact frontTrimmed_nil
  | cons c cs => exact frontTrimmed_cons.2 (frontTrimmed_cons.1 h)

theorem toList_trim_eq_iff {text : String} {word : List Char} :
    (trim text).toList = word ↔ Encloses text word := by
  rw [trim, String.toList_ofList]
  constructor
  · rintro rfl
    obtain ⟨front, hfront, hblank⟩ := trimStart_split text.toList
    obtain ⟨back, hback, htrail⟩ := trimEnd_split (trimStart text.toList)
    have hparts : text.toList = front ++ trimEnd (trimStart text.toList) ++ back := by
      rw [List.append_assoc, ← hback]
      exact hfront
    have htrimmed := frontTrimmed_trimStart text.toList
    rw [hback] at htrimmed
    exact ⟨⟨front, back, hparts, hblank, htrail⟩, htrimmed.of_append, backTrimmed_trimEnd _⟩
  · rintro ⟨⟨front, back, hparts, hfront, hback⟩, htrimmed, hend⟩
    rw [hparts, List.append_assoc, trimStart_append hfront]
    by_cases hnil : word = []
    · rw [hnil, List.nil_append, trimStart_eq_nil_iff.2 hback]
      rfl
    · rw [trimStart_of_frontTrimmed (htrimmed.append hnil back), trimEnd_append _ hback,
        trimEnd_of_backTrimmed hend]

theorem encloses_toList {text : String} (h : ∀ c ∈ text.toList, isWhiteSpace c = false) :
    Encloses text text.toList where
  parts := ⟨[], [], by rw [List.nil_append, List.append_nil], nofun, nofun⟩
  front := fun c hc => h c (List.mem_of_mem_head? hc)
  back := fun c hc => h c (List.mem_of_getLast? hc)

end ScriptHost.Text

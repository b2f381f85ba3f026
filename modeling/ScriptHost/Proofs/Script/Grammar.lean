import Mathlib.Data.List.TakeWhile
import Mathlib.Data.Nat.Digits.Defs
import ScriptHost.Proofs.Script.Extent
import ScriptHost.Proofs.Text.Numerals
import ScriptHost.Proofs.Text.WhiteSpace

/- The grammar of scripts, apart from the parser. A line is blank, a comment or a
   statement; a statement is a keyword, and behind white space its argument; and the
   argument of a `defer` is a statement again, which begins so many bytes further on.
   Nothing here cuts or trims: a text is put together from its parts.

   What is proved:
     1. `Statement.parse_eq_ok_iff` — a text parses to the statements it spells.
     2. `parseLine_eq_ok_iff`, `parseLines_eq_ok_iff` — lines parse to what they hold.
     3. `parseLines_eq_error` — an error carries the number of the first line that
        holds nothing the grammar knows. -/
namespace ScriptHost

open Text

/-! The grammar. -/

/-- The white space behind a word and what comes after it. Without white space nothing does. -/
structure Gap (gap argument : List Char) : Prop where
  blank : Blank gap
  trimmed : FrontTrimmed argument
  apart : gap = [] → argument = []

/-- The digits of a hexadecimal numeral and its value. -/
def HexNumeral (digits : List Char) (value : Nat) : Prop :=
  ∃ ds : List Nat, ds ≠ [] ∧ digits.map (digit? 16) = ds.map some ∧
    value = Nat.ofDigits 16 ds.reverse

/-- A fault code: `0x` any number of times, a plus sign or none, and a hexadecimal numeral. -/
inductive FaultCode : List Char → UInt32 → Prop where
  | mark {cs : List Char} {code : UInt32} (h : FaultCode cs code) :
      FaultCode ('0' :: 'x' :: cs) code
  | plus {digits : List Char} {value : Nat} (h : HexNumeral digits value)
      (hsize : value < 0x100000000) : FaultCode ('+' :: digits) (UInt32.ofNat value)
  | plain {digits : List Char} {value : Nat} (h : HexNumeral digits value)
      (hsize : value < 0x100000000) : FaultCode digits (UInt32.ofNat value)

/-- The column of what has so many bytes before it on its line. -/
def columnAfter (offset : Nat) : UInt32 := UInt32.ofNat (offset + 1)

/-- The text of a statement that has so many bytes before it on its line. -/
inductive Spells : Nat → List Char → Statement → Prop where
  | print {offset : Nat} {gap argument : List Char} (hgap : Gap gap argument) :
      Spells offset (Keyword.print.chars ++ gap ++ argument)
        (.act (columnAfter offset) (.print (String.ofList argument)))
  | throw {offset : Nat} {gap argument : List Char} (hgap : Gap gap argument) :
      Spells offset (Keyword.throw.chars ++ gap ++ argument)
        (.act (columnAfter offset) (.throw (String.ofList argument)))
  | fault {offset : Nat} {gap argument : List Char} {code : UInt32} (hgap : Gap gap argument)
      (hcode : FaultCode argument code) :
      Spells offset (Keyword.fault.chars ++ gap ++ argument)
        (.act (columnAfter offset) (.fault code))
  | defer {offset : Nat} {gap argument : List Char} {inner : Statement} (hgap : Gap gap argument)
      (hinner : Spells (offset + utf8Length (Keyword.defer.chars ++ gap)) argument inner) :
      Spells offset (Keyword.defer.chars ++ gap ++ argument) (.defer (columnAfter offset) inner)

/-- What a line holds: nothing, if it is blank or a comment, or a statement. -/
inductive Holds : List Char → Option Statement → Prop where
  | blank {text : List Char} (h : Blank text) : Holds text none
  | comment {blank rest : List Char} (hblank : Blank blank) : Holds (blank ++ '#' :: rest) none
  | statement {blank body trail : List Char} {s : Statement} (hblank : Blank blank)
      (hbody : Spells (utf8Length blank) body s) (hend : BackTrimmed body)
      (htrail : Blank trail) (hdepth : s.depth ≤ maxDeferDepth) :
      Holds (blank ++ body ++ trail) (some s)

/-- The instructions of lines, of which the first has the 0-based number `index`. -/
inductive Lists : Nat → List (List Char) → Program → Prop where
  | nil {index : Nat} : Lists index [] []
  | cons {index : Nat} {text : List Char} {rest : List (List Char)} {held : Option Statement}
      {p : Program} (hline : Holds text held) (hrest : Lists (index + 1) rest p) :
      Lists index (text :: rest) ((held.map (⟨columnAfter index, ·⟩)).toList ++ p)

/-! Words. -/

theorem Keyword.isWord (k : Keyword) : ∀ c ∈ k.chars, (!isWhiteSpace c) = true := by
  have hall : k.chars.all (!isWhiteSpace ·) = true := by
    cases k <;> decide
  exact List.all_eq_true.1 hall

theorem firstWord_append {word gap argument : List Char}
    (hword : ∀ c ∈ word, (!isWhiteSpace c) = true) (hgap : Gap gap argument) :
    firstWord (word ++ gap ++ argument) = word := by
  rw [firstWord, List.append_assoc, List.takeWhile_append_of_pos hword]
  cases gap with
  | nil => rw [hgap.apart rfl, List.nil_append, List.takeWhile_nil, List.append_nil]
  | cons c rest =>
    have hc := hgap.blank c (List.mem_cons_self ..)
    simp [hc]

theorem afterWord_append {word gap argument : List Char}
    (hword : ∀ c ∈ word, (!isWhiteSpace c) = true) (hgap : Gap gap argument) :
    afterWord (word ++ gap ++ argument) = argument := by
  have hdrop : (gap ++ argument).dropWhile (!isWhiteSpace ·) = gap ++ argument := by
    cases gap with
    | nil => rw [hgap.apart rfl]; rfl
    | cons c rest =>
      have hc := hgap.blank c (List.mem_cons_self ..)
      simp [hc]
  rw [afterWord, List.append_assoc, List.dropWhile_append_of_pos hword, hdrop,
    trimStart_append hgap.blank, trimStart_of_frontTrimmed hgap.trimmed]

/-- Any text is its first word, a gap and the rest. -/
theorem exists_gap (text : List Char) :
    ∃ gap, text = firstWord text ++ gap ++ afterWord text ∧ Gap gap (afterWord text) := by
  obtain ⟨gap, heq, hblank⟩ := trimStart_split (text.dropWhile (!isWhiteSpace ·))
  refine ⟨gap, ?_, hblank, frontTrimmed_trimStart _, ?_⟩
  · rw [List.append_assoc, firstWord, afterWord, ← heq, List.takeWhile_append_dropWhile]
  · -- what stops the word is white space, so there is a gap unless the text is over
    rintro rfl
    rw [List.nil_append] at heq
    rw [afterWord, ← heq]
    have htrimmed : FrontTrimmed (text.dropWhile (!isWhiteSpace ·)) := by
      rw [heq]
      exact frontTrimmed_trimStart _
    cases hdrop : text.dropWhile (!isWhiteSpace ·) with
    | nil => rfl
    | cons c rest =>
      rw [hdrop] at htrimmed
      have hspace := List.head?_dropWhile_not (!isWhiteSpace ·) text
      rw [hdrop] at hspace
      have hc := frontTrimmed_cons.1 htrimmed
      simp [hc] at hspace

/-! Fault codes. -/

theorem hexNumeral_iff {digits : List Char} {n : Nat} :
    HexNumeral digits n ↔ digits ≠ [] ∧ digits? 16 0 digits = some n :=
  numeral_iff

theorem not_hexNumeral_mark {cs : List Char} {n : Nat} : ¬ HexNumeral ('0' :: 'x' :: cs) n := by
  intro h
  obtain ⟨-, hdigits⟩ := hexNumeral_iff.1 h
  cases hdigits

theorem faultCode_mark_iff {cs : List Char} {code : UInt32} :
    FaultCode ('0' :: 'x' :: cs) code ↔ FaultCode cs code := by
  constructor
  · intro h
    cases h with
    | mark h => exact h
    | plain h hsize => exact absurd h not_hexNumeral_mark
  · exact .mark

theorem faultCode_iff_of_no_mark {cs : List Char} {code : UInt32}
    (hmark : ∀ rest, cs ≠ '0' :: 'x' :: rest) :
    FaultCode cs code ↔
      ∃ n, (UnsignedNumeral 16 cs n ∧ n < 0x100000000) ∧ UInt32.ofNat n = code := by
  constructor
  · intro h
    cases h with
    | mark h => exact absurd rfl (hmark _)
    | plus h hsize => exact ⟨_, ⟨.plus h, hsize⟩, rfl⟩
    | plain h hsize => exact ⟨_, ⟨.plain h, hsize⟩, rfl⟩
  · rintro ⟨n, ⟨h, hsize⟩, rfl⟩
    cases h with
    | plus h => exact .plus h hsize
    | plain h => exact .plain h hsize

theorem faultCode?_eq_some_iff {argument : List Char} {code : UInt32} :
    faultCode? argument = some code ↔ FaultCode argument code := by
  simp only [faultCode?, Option.map_eq_some_iff, unsigned?_eq_some_iff]
  fun_induction dropHexMarks argument with
  | case1 rest ih => rw [ih, faultCode_mark_iff]
  | case2 cs hmark => exact (faultCode_iff_of_no_mark hmark).symm

/-! Statements. -/

theorem columnOf_columnAfter (offset : Nat) (front rest : List Char) :
    columnOf (columnAfter offset) (front ++ rest) rest =
      columnAfter (offset + utf8Length front) := by
  rw [columnOf, columnAfter, columnAfter, utf8Length_append, Nat.add_sub_cancel,
    ← UInt32.ofNat_add]
  congr 1
  omega

theorem Keyword.ofChars?_firstWord (k : Keyword) {gap argument : List Char}
    (hgap : Gap gap argument) : ofChars? (firstWord (k.chars ++ gap ++ argument)) = some k := by
  rw [firstWord_append k.isWord hgap, ofChars?_eq_some_iff]

theorem Keyword.exists_gap {k : Keyword} {text : List Char}
    (hk : ofChars? (firstWord text) = some k) :
    ∃ gap, text = k.chars ++ gap ++ afterWord text ∧ Gap gap (afterWord text) := by
  obtain ⟨gap, heq, hgap⟩ := ScriptHost.exists_gap text
  rw [(ofChars?_eq_some_iff _ _).1 hk] at heq
  exact ⟨gap, heq, hgap⟩

theorem Spells.ne_nil {offset : Nat} {text : List Char} {s : Statement} (h : Spells offset text s) :
    text ≠ [] := by
  cases h <;> nofun

namespace Statement

variable {line : UInt32} {s : Statement}

/-- A text that parses is spelt as the grammar says. -/
theorem spells_of_parse {allowance : Nat} {column : UInt32} {text : List Char} {offset : Nat}
    (hcolumn : column = columnAfter offset) (h : parse line allowance column text = .ok s) :
    Spells offset text s := by
  fun_induction parse line allowance column text generalizing s offset with
  | case1 allowance column text =>
    rename_i hk
    obtain ⟨gap, heq, hgap⟩ := Keyword.exists_gap hk
    cases h
    rw [heq, hcolumn]
    exact .print hgap
  | case2 allowance column text =>
    rename_i hk
    obtain ⟨gap, heq, hgap⟩ := Keyword.exists_gap hk
    cases h
    rw [heq, hcolumn]
    exact .throw hgap
  | case3 => cases h
  | case4 => cases h
  | case5 column text argument argumentColumn hk =>
    rename_i n ih
    obtain ⟨gap, heq, hgap⟩ := Keyword.exists_gap hk
    obtain ⟨inner, hinner, rfl⟩ := map_eq_ok_iff.1 h
    -- what is deferred is spelt behind the keyword and its gap, and so is its column
    have hinnerColumn : columnOf column text (afterWord text) =
        columnAfter (offset + utf8Length (Keyword.defer.chars ++ gap)) := by
      rw [← columnOf_columnAfter offset _ (afterWord text), ← heq, hcolumn]
    have hspelt := ih hinnerColumn hinner
    rw [heq, hcolumn]
    exact .defer hgap hspelt
  | case6 allowance column text =>
    rename_i hk code hcode
    obtain ⟨gap, heq, hgap⟩ := Keyword.exists_gap hk
    cases h
    rw [heq, hcolumn]
    exact .fault hgap (faultCode?_eq_some_iff.1 hcode)
  | case7 => cases h
  | case8 => cases h

/-- A text that is spelt as the grammar says parses, if it does not nest too deep. -/
theorem parse_of_spells {offset : Nat} {text : List Char} (h : Spells offset text s)
    {allowance : Nat} (hdepth : s.depth ≤ allowance) :
    parse line allowance (columnAfter offset) text = .ok s := by
  induction h generalizing allowance with
  | print hgap =>
    rw [parse.eq_def, Keyword.ofChars?_firstWord .print hgap,
      afterWord_append (Keyword.isWord .print) hgap]
  | throw hgap =>
    rw [parse.eq_def, Keyword.ofChars?_firstWord .throw hgap,
      afterWord_append (Keyword.isWord .throw) hgap]
  | fault hgap hcode =>
    rw [parse.eq_def, Keyword.ofChars?_firstWord .fault hgap,
      afterWord_append (Keyword.isWord .fault) hgap]
    dsimp only
    rw [faultCode?_eq_some_iff.2 hcode]
  | @defer offset gap argument inner hgap hinner ih =>
    rw [depth_defer] at hdepth
    obtain ⟨n, rfl⟩ := Nat.exists_eq_add_of_lt hdepth
    have hargument : argument.isEmpty = false := by
      simpa using hinner.ne_nil
    rw [parse.eq_def, Keyword.ofChars?_firstWord .defer hgap,
      afterWord_append (Keyword.isWord .defer) hgap]
    dsimp only
    rw [hargument, columnOf_columnAfter, ih (Nat.le_add_right _ _)]
    rfl

/-- **A text parses to the statements it spells**, of those that do not nest too deep. -/
theorem parse_eq_ok_iff {allowance offset : Nat} {text : List Char} :
    parse line allowance (columnAfter offset) text = .ok s ↔
      Spells offset text s ∧ s.depth ≤ allowance := by
  constructor
  · intro h
    exact ⟨spells_of_parse rfl h, depth_parse_le h⟩
  · rintro ⟨h, hdepth⟩
    exact parse_of_spells h hdepth

theorem line_of_parse_error {allowance : Nat} {column : UInt32} {text : List Char}
    {e : CompileError} (h : parse line allowance column text = .error e) : e.line = line := by
  fun_induction parse line allowance column text with
  | case1 => cases h
  | case2 => cases h
  | case3 => cases h; rfl
  | case4 => cases h; rfl
  | case5 column text argument argumentColumn hk hargument n ih =>
    rcases hinner : parse line _ _ _ with e' | s' <;> rw [hinner] at h <;> cases h
    exact ih hinner
  | case6 => cases h
  | case7 => cases h; rfl
  | case8 => cases h; rfl

end Statement

/-! Lines. -/

theorem Spells.frontTrimmed {offset : Nat} {text : List Char} {s : Statement}
    (h : Spells offset text s) : FrontTrimmed text ∧ text.head? ≠ some '#' := by
  cases h <;> exact ⟨frontTrimmed_cons.2 (by decide), by simp [Keyword.chars]⟩

theorem columnOf_one (front rest : List Char) :
    columnOf 1 (front ++ rest) rest = columnAfter (utf8Length front) := by
  rw [← Nat.zero_add (utf8Length front)]
  exact columnOf_columnAfter 0 front rest

theorem holds_of_parseLine {number : UInt32} {text : List Char} {found : Option Instruction}
    (h : parseLine number text = .ok found) :
    ∃ held, Holds text held ∧ found = held.map (⟨number, ·⟩) := by
  obtain ⟨blank, heq, hblank⟩ := trimStart_split text
  simp only [parseLine] at h
  split at h
  · rename_i hnone
    cases h
    refine ⟨none, ?_, rfl⟩
    rcases hnone with hempty | hcomment
    · exact .blank (trimStart_eq_nil_iff.1 (List.isEmpty_iff.1 hempty))
    · obtain ⟨rest, hrest⟩ := List.head?_eq_some_iff.1 hcomment
      rw [heq, hrest]
      exact .comment hblank
  · obtain ⟨s, hs, rfl⟩ := map_eq_ok_iff.1 h
    obtain ⟨trail, hcut, htrail⟩ := trimEnd_split (trimStart text)
    have hcolumn : columnOf 1 text (trimStart text) = columnAfter (utf8Length blank) := by
      conv_lhs => rw [heq]
      rw [trimStart_append hblank, trimStart_trimStart, columnOf_one]
    rw [hcolumn, Statement.parse_eq_ok_iff] at hs
    refine ⟨some s, ?_, rfl⟩
    rw [heq, hcut, ← List.append_assoc]
    exact .statement hblank hs.1 (backTrimmed_trimEnd _) htrail hs.2

theorem parseLine_of_holds {number : UInt32} {text : List Char} {held : Option Statement}
    (h : Holds text held) : parseLine number text = .ok (held.map (⟨number, ·⟩)) := by
  rw [parseLine]
  cases h with
  | blank hblank =>
    rw [trimStart_eq_nil_iff.2 hblank]
    rfl
  | comment hblank =>
    rw [trimStart_append hblank, trimStart_of_frontTrimmed (frontTrimmed_cons.2 (by decide))]
    rfl
  | @statement blank body trail s hblank hbody hend htrail hdepth =>
    obtain ⟨hfront, hcomment⟩ := hbody.frontTrimmed
    have hfront' : FrontTrimmed (body ++ trail) ∧ (body ++ trail).head? ≠ some '#' ∧
        (body ++ trail) ≠ [] := by
      cases body with
      | nil => exact absurd rfl hbody.ne_nil
      | cons c rest => exact ⟨hfront, hcomment, List.cons_ne_nil _ _⟩
    have hstart : trimStart (blank ++ body ++ trail) = body ++ trail := by
      rw [List.append_assoc, trimStart_append hblank, trimStart_of_frontTrimmed hfront'.1]
    have hstatement : ¬ ((body ++ trail).isEmpty = true ∨ (body ++ trail).head? = some '#') := by
      rw [List.isEmpty_iff]
      exact not_or.2 ⟨hfront'.2.2, hfront'.2.1⟩
    rw [hstart, if_neg hstatement, List.append_assoc, columnOf_one, trimEnd_append body htrail,
      trimEnd_of_backTrimmed hend, Statement.parse_of_spells hbody hdepth]
    rfl

/-- **A line parses to what it holds.** -/
theorem parseLine_eq_ok_iff {number : UInt32} {text : List Char} {found : Option Instruction} :
    parseLine number text = .ok found ↔
      ∃ held, Holds text held ∧ found = held.map (⟨number, ·⟩) := by
  constructor
  · exact holds_of_parseLine
  · rintro ⟨held, hheld, rfl⟩
    exact parseLine_of_holds hheld

theorem parseLine_eq_error {number : UInt32} {text : List Char} {e : CompileError}
    (h : parseLine number text = .error e) : e.line = number ∧ ∀ held, ¬ Holds text held := by
  constructor
  · simp only [parseLine] at h
    split at h
    · cases h
    · rcases hs : Statement.parse number maxDeferDepth (columnOf 1 text (trimStart text))
        (trimEnd (trimStart text)) with e' | s <;> rw [hs] at h <;> cases h
      exact Statement.line_of_parse_error hs
  · intro held hheld
    cases h.symm.trans (parseLine_eq_ok_iff.2 ⟨held, hheld, rfl⟩)

/-- Behind its `defer`s a statement spells its action, at the column it remembers. -/
theorem Spells.leaf {offset : Nat} {text : List Char} {s : Statement} (h : Spells offset text s) :
    ∃ front rest, text = front ++ rest ∧
      Spells (offset + utf8Length front) rest (.act s.actionColumn s.action) := by
  induction h with
  | print hgap => exact ⟨[], _, rfl, .print hgap⟩
  | throw hgap => exact ⟨[], _, rfl, .throw hgap⟩
  | fault hgap hcode => exact ⟨[], _, rfl, .fault hgap hcode⟩
  | @defer offset gap argument inner hgap hinner ih =>
    obtain ⟨front, rest, rfl, hleaf⟩ := ih
    refine ⟨Keyword.defer.chars ++ gap ++ front, rest, by simp only [List.append_assoc], ?_⟩
    rw [utf8Length_append, ← Nat.add_assoc]
    exact hleaf

/-! Programs. -/

theorem columnAfter_eq (index : Nat) : UInt32.ofNat index + 1 = columnAfter index :=
  (UInt32.ofNat_add index 1).symm

/-- **Lines parse to the instructions they hold.** -/
theorem parseLines_eq_ok_iff {index : Nat} {lines : List (List Char)} {p : Program} :
    parseLines index lines = .ok p ↔ Lists index lines p := by
  constructor
  · intro h
    fun_induction parseLines index lines generalizing p with
    | case1 =>
      cases h
      exact .nil
    | case2 => cases h
    | case3 => cases h
    | case4 index text rest found hfound later hlater ih =>
      cases h
      obtain ⟨held, hheld, rfl⟩ := parseLine_eq_ok_iff.1 hfound
      rw [columnAfter_eq]
      exact .cons hheld (ih hlater)
  · intro h
    induction h with
    | nil => rfl
    | cons hline hrest ih =>
      rw [parseLines, columnAfter_eq, parseLine_eq_ok_iff.2 ⟨_, hline, rfl⟩, ih]

theorem exists_line_of_parseLines_error {index : Nat} {lines : List (List Char)} {e : CompileError}
    (h : parseLines index lines = .error e) :
    ∃ before text after, lines = before ++ text :: after ∧
      (∀ t ∈ before, ∃ held, Holds t held) ∧
      parseLine (columnAfter (index + before.length)) text = .error e := by
  fun_induction parseLines index lines with
  | case1 => cases h
  | case2 index text rest e' htext =>
    cases h
    rw [columnAfter_eq] at htext
    exact ⟨[], text, rest, rfl, by simp, htext⟩
  | case3 index text rest found hfound e' hlater ih =>
    cases h
    obtain ⟨before, bad, after, rfl, hbefore, hbad⟩ := ih hlater
    obtain ⟨held, hheld, -⟩ := parseLine_eq_ok_iff.1 hfound
    refine ⟨text :: before, bad, after, rfl, List.forall_mem_cons.2 ⟨⟨held, hheld⟩, hbefore⟩, ?_⟩
    rw [List.length_cons, Nat.add_comm before.length 1, ← Nat.add_assoc]
    exact hbad
  | case4 => cases h

/-- **The first line that is not well-formed decides the error**: the lines before it hold what
    the grammar knows, it does not, and the error has its number. -/
theorem parseLines_eq_error {index : Nat} {lines : List (List Char)} {e : CompileError}
    (h : parseLines index lines = .error e) :
    ∃ before text after, lines = before ++ text :: after ∧
      (∀ t ∈ before, ∃ held, Holds t held) ∧ (∀ held, ¬ Holds text held) ∧
      e.line = columnAfter (index + before.length) := by
  obtain ⟨before, text, after, hlines, hbefore, htext⟩ := exists_line_of_parseLines_error h
  obtain ⟨hline, hnone⟩ := parseLine_eq_error htext
  exact ⟨before, text, after, hlines, hbefore, hnone, hline⟩

theorem Lists.exists_line {index : Nat} {lines : List (List Char)} {p : Program}
    (h : Lists index lines p) {i : Instruction} (hi : i ∈ p) :
    ∃ n text, lines[n]? = some text ∧ i.line = columnAfter (index + n) ∧
      Holds text (some i.statement) := by
  induction h with
  | nil => cases hi
  | @cons index text rest held p hline hrest ih =>
    rcases List.mem_append.1 hi with hi | hi
    · cases held with
      | none => cases hi
      | some s =>
        rw [List.mem_singleton.1 hi]
        exact ⟨0, text, rfl, rfl, hline⟩
    · obtain ⟨n, text', htext, hnumber, hholds⟩ := ih hi
      refine ⟨n + 1, text', htext, ?_, hholds⟩
      rw [hnumber]
      congr 1
      omega

end ScriptHost

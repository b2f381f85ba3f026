import ScriptHost.Script.Parser

/- How much a parsed program can hold. A source has no more lines than bytes, so a
   program has no more instructions; a text is cut out of one line, so it is no
   longer than the source; and a statement is read with an allowance of `defer`s
   that its depth never exceeds. -/
namespace ScriptHost

open Text

def Action.text? : Action → Option String
  | .print text => some text
  | .throw message => some message
  | .fault _ => none

/-! Lengths in bytes. -/

theorem length_utf8 (s : String) : (utf8 s).length = s.utf8ByteSize := by
  rw [utf8, Array.length_toList]
  rfl

theorem utf8Length_eq_size (cs : List Char) : utf8Length cs = cs.utf8Encode.size := by
  induction cs with
  | nil => rfl
  | cons c rest ih =>
    rw [utf8Length, ih, List.utf8Encode_cons, ByteArray.size_append]
    simp [List.utf8Encode]

theorem length_utf8_ofList (cs : List Char) :
    (utf8 (String.ofList cs)).length = utf8Length cs := by
  rw [length_utf8, ← String.size_toByteArray, String.toByteArray_ofList, utf8Length_eq_size]

theorem length_utf8_eq (s : String) : (utf8 s).length = utf8Length s.toList := by
  rw [← length_utf8_ofList, String.ofList_toList]

theorem utf8Length_le_of_sublist {as bs : List Char} (h : as.Sublist bs) :
    utf8Length as ≤ utf8Length bs := by
  induction h with
  | slnil => exact Nat.le_refl _
  | cons c _ ih => simp only [utf8Length]; omega
  | cons_cons c _ ih => simp only [utf8Length]; omega

theorem length_le_utf8Length (cs : List Char) : cs.length ≤ utf8Length cs := by
  induction cs with
  | nil => exact Nat.le_refl _
  | cons c rest ih =>
    have hc : 0 < c.utf8Size := c.utf8Size_pos
    rw [List.length_cons, utf8Length]
    omega

/-! Trimmed and cut texts are part of what they came from. -/

theorem trimStart_sublist (cs : List Char) : (trimStart cs).Sublist cs :=
  List.dropWhile_sublist _

theorem trimEnd_sublist (cs : List Char) : (trimEnd cs).Sublist cs := by
  have h := (List.dropWhile_sublist (l := cs.reverse) isWhiteSpace).reverse
  rwa [List.reverse_reverse] at h

theorem afterWord_sublist (text : List Char) : (afterWord text).Sublist text :=
  (trimStart_sublist _).trans (List.dropWhile_sublist _)

/-! Lines. -/

theorem length_sourceLines_le (cs : List Char) : (sourceLines cs).length ≤ cs.length := by
  fun_induction sourceLines cs with
  | case1 => exact Nat.le_refl _
  | case2 rest ih => simp only [List.length_cons]; omega
  | case3 rest ih => simp only [List.length_cons]; omega
  | case4 c rest _ _ hl ih => simp [List.length_cons]
  | case5 c rest _ _ line lines hl ih =>
    rw [hl] at ih
    simp only [List.length_cons] at ih ⊢
    omega

theorem sublist_of_mem_sourceLines {cs line : List Char} (h : line ∈ sourceLines cs) :
    line.Sublist cs := by
  fun_induction sourceLines cs generalizing line with
  | case1 => cases h
  | case2 rest ih =>
    rcases List.mem_cons.1 h with rfl | h
    · exact List.nil_sublist _
    · exact (ih h).cons _
  | case3 rest ih =>
    rcases List.mem_cons.1 h with rfl | h
    · exact List.nil_sublist _
    · exact ((ih h).cons _).cons _
  | case4 c rest _ _ hl ih =>
    rw [List.mem_singleton.1 h]
    exact (List.nil_sublist rest).cons_cons c
  | case5 c rest _ _ line' lines hl ih =>
    rw [hl] at ih
    rcases List.mem_cons.1 h with rfl | h
    · exact (ih List.mem_cons_self).cons_cons c
    · exact (ih (List.mem_cons_of_mem _ h)).cons _

/-! Statements, lines and programs. -/

theorem map_eq_ok_iff {ε α β : Type} {f : α → β} {r : Except ε α} {b : β} :
    r.map f = .ok b ↔ ∃ a, r = .ok a ∧ f a = b := by
  cases r <;> simp [Except.map]

namespace Statement

theorem depth_parse_le {line : UInt32} {allowance : Nat} {column : UInt32} {text : List Char}
    {s : Statement} (h : parse line allowance column text = .ok s) : s.depth ≤ allowance := by
  fun_induction parse line allowance column text generalizing s with
  | case1 => cases h; exact Nat.zero_le _
  | case2 => cases h; exact Nat.zero_le _
  | case3 => cases h
  | case4 => cases h
  | case5 =>
    rename_i n ih
    obtain ⟨inner, hinner, rfl⟩ := map_eq_ok_iff.1 h
    have hdepth := ih hinner
    rw [depth_defer]
    omega
  | case6 => cases h; exact Nat.zero_le _
  | case7 => cases h
  | case8 => cases h

theorem length_parse_text_le {line : UInt32} {allowance : Nat} {column : UInt32}
    {text : List Char} {s : Statement} (h : parse line allowance column text = .ok s)
    {t : String} (ht : s.action.text? = some t) : (utf8 t).length ≤ utf8Length text := by
  fun_induction parse line allowance column text generalizing s with
  | case1 =>
    cases h
    cases ht
    rw [length_utf8_ofList]
    exact utf8Length_le_of_sublist (afterWord_sublist _)
  | case2 =>
    cases h
    cases ht
    rw [length_utf8_ofList]
    exact utf8Length_le_of_sublist (afterWord_sublist _)
  | case3 => cases h
  | case4 => cases h
  | case5 =>
    rename_i n ih
    obtain ⟨inner, hinner, rfl⟩ := map_eq_ok_iff.1 h
    exact Nat.le_trans (ih hinner ht) (utf8Length_le_of_sublist (afterWord_sublist _))
  | case6 => cases h; cases ht
  | case7 => cases h
  | case8 => cases h

end Statement

theorem parseLine_eq_some {number : UInt32} {text : List Char} {i : Instruction}
    (h : parseLine number text = .ok (some i)) :
    i.line = number ∧ ∃ column body, body.Sublist text ∧
      Statement.parse number maxDeferDepth column body = .ok i.statement := by
  simp only [parseLine] at h
  split at h
  · cases h
  · obtain ⟨s, hs, hi⟩ := map_eq_ok_iff.1 h
    cases hi
    exact ⟨rfl, _, _, (trimEnd_sublist _).trans (trimStart_sublist _), hs⟩

/-- An instruction of a program comes from one of its lines, and there is at most one a line. -/
theorem parseLines_eq_ok {index : Nat} {lines : List (List Char)} {p : Program}
    (h : parseLines index lines = .ok p) :
    p.length ≤ lines.length ∧
      ∀ i ∈ p, ∃ number, ∃ text ∈ lines, parseLine number text = .ok (some i) := by
  fun_induction parseLines index lines generalizing p with
  | case1 => cases h; exact ⟨Nat.le_refl _, fun _ hi => by cases hi⟩
  | case2 => cases h
  | case3 => cases h
  | case4 index text rest found hfound later hlater ih =>
    -- a line gives one instruction or none
    cases h
    obtain ⟨hlength, hmem⟩ := ih hlater
    constructor
    · cases found <;> simp only [Option.toList, List.length_append, List.length_cons,
        List.length_nil] <;> omega
    · intro i hi
      rcases List.mem_append.1 hi with hi | hi
      · cases found with
        | none => cases hi
        | some j =>
          rw [List.mem_singleton.1 hi]
          exact ⟨_, text, List.mem_cons_self, hfound⟩
      · obtain ⟨number, text', htext, hline⟩ := hmem i hi
        exact ⟨number, text', List.mem_cons_of_mem _ htext, hline⟩

theorem Program.length_parse_le {source : String} {p : Program}
    (h : Program.parse source = .ok p) : p.length ≤ (utf8 source).length := by
  rw [length_utf8_eq]
  calc p.length ≤ (sourceLines source.toList).length := (parseLines_eq_ok h).1
    _ ≤ source.toList.length := length_sourceLines_le _
    _ ≤ utf8Length source.toList := length_le_utf8Length _

theorem Program.depth_parse_le {source : String} {p : Program}
    (h : Program.parse source = .ok p) : ∀ i ∈ p, i.statement.depth ≤ maxDeferDepth := by
  intro i hi
  obtain ⟨number, text, -, hline⟩ := (parseLines_eq_ok h).2 i hi
  obtain ⟨-, column, body, -, hbody⟩ := parseLine_eq_some hline
  exact Statement.depth_parse_le hbody

theorem Program.length_parse_text_le {source : String} {p : Program}
    (h : Program.parse source = .ok p) {i : Instruction} (hi : i ∈ p) {t : String}
    (ht : i.statement.action.text? = some t) : (utf8 t).length ≤ (utf8 source).length := by
  obtain ⟨number, text, htext, hline⟩ := (parseLines_eq_ok h).2 i hi
  obtain ⟨-, column, body, hsub, hbody⟩ := parseLine_eq_some hline
  calc (utf8 t).length ≤ utf8Length body := Statement.length_parse_text_le hbody ht
    _ ≤ utf8Length source.toList :=
      utf8Length_le_of_sublist (hsub.trans (sublist_of_mem_sourceLines htext))
    _ = (utf8 source).length := (length_utf8_eq source).symm

end ScriptHost

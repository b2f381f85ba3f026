import ScriptHost.Proofs.Script.Grammar
import ScriptHost.Proofs.Script.Plan

/- Where errors point. An exception of a program is that of one of its leaves, and a leaf
   remembers the number of its line and the column of its keyword; so the exception can
   be read off the source it points into. A compile error points at the first line that
   is not well-formed. Lines and columns are 32-bit words, which a source of fewer than
   2^32 - 1 bytes does not use up.

   What is proved:
     1. `Program.ending_eq_scriptError` — the exception a program ends with is a leaf's.
     2. `thrown_of_parse` — such an exception points at a `throw` and says what it throws.
     3. `refused_of_parse` — a compile error points at the first ill-formed line. -/
namespace ScriptHost

open Text

/-- An exception that points at a `throw` in a source: its line is that of the source with its
    number, from the byte before its column on that line goes on with the keyword, and its
    message is the rest of the line without the white space at its ends. -/
inductive Thrown (source : String) : ScriptException → Prop where
  | keyword {line column : UInt32} {front rest : List Char} (hline : 1 ≤ line.toNat)
      (htext : (sourceLines source.toList)[line.toNat - 1]? =
        some (front ++ Keyword.throw.chars ++ rest))
      (hcolumn : column.toNat = utf8Length front + 1)
      (hword : ∀ c ∈ rest.head?, isWhiteSpace c = true) :
      Thrown source ⟨trim (String.ofList rest), some line, some column⟩

/-- An exception that points at the first line of a source that is not well-formed. -/
inductive Refused (source : String) : ScriptException → Prop where
  | line {before after : List (List Char)} {text : List Char} {message : String}
      {number column : UInt32} (hlines : sourceLines source.toList = before ++ text :: after)
      (hbefore : ∀ t ∈ before, ∃ held, Holds t held) (hnone : ∀ held, ¬ Holds text held)
      (hline : number.toNat = before.length + 1) :
      Refused source ⟨message, some number, some column⟩

/-! The exceptions of a program. -/

theorem Program.exists_of_mem_deferred {p : Program} {l : Leaf} (h : l ∈ p.deferred) :
    ∃ i ∈ p, i.leaf = l := by
  obtain ⟨i, hi, hleaf⟩ := List.mem_map.1 h
  have hreached := List.mem_of_mem_filter (List.mem_mergeSort.1 hi)
  exact ⟨i, (List.takeWhile_sublist _).subset hreached, hleaf⟩

/-- A program that ends with an error of the script ends with the exception of a leaf. -/
theorem Program.ending_eq_scriptError {p : Program} {op op' : Operation} {code : ErrorCode}
    {x : Option ScriptException} (h : p.ending op = .ok (.scriptError op' code x)) :
    code = .scriptException ∧ ∃ i ∈ p, ∃ e, i.leaf.exception? = some e ∧ x = some e := by
  unfold Program.ending at h
  split at h
  · cases h
  · cases h
  split at h
  · rename_i e hmain
    cases h
    obtain ⟨l, hl, he⟩ := Option.bind_eq_some_iff.1 hmain
    obtain ⟨i, hi, rfl⟩ := Option.map_eq_some_iff.1 hl
    exact ⟨rfl, i, List.mem_of_find?_eq_some hi, e, he, rfl⟩
  · rename_i e _ hdeferred
    cases h
    obtain ⟨l, hl, he⟩ := Option.bind_eq_some_iff.1 hdeferred
    obtain ⟨i, hi, rfl⟩ := Program.exists_of_mem_deferred (List.mem_of_find?_eq_some hl)
    exact ⟨rfl, i, hi, e, he, rfl⟩
  · cases h

/-! Messages. -/

theorem Text.BackTrimmed.of_append {as bs : List Char} (h : BackTrimmed (as ++ bs)) :
    BackTrimmed bs := by
  intro c hc
  apply h c
  rw [List.getLast?_append, Option.mem_def.1 hc]
  rfl

theorem trim_argument {gap argument trail : List Char} (hgap : Gap gap argument)
    (hend : BackTrimmed argument) (htrail : Blank trail) :
    trim (String.ofList (gap ++ argument ++ trail)) = String.ofList argument := by
  rw [trim, String.toList_ofList, List.append_assoc, trimStart_append hgap.blank]
  cases argument with
  | nil =>
    rw [List.nil_append, trimStart_eq_nil_iff.2 htrail]
    rfl
  | cons c rest =>
    have hfront : FrontTrimmed (c :: rest ++ trail) := hgap.trimmed
    rw [trimStart_of_frontTrimmed hfront, trimEnd_append _ htrail, trimEnd_of_backTrimmed hend]

theorem Gap.isWhiteSpace_head {gap argument trail : List Char} (hgap : Gap gap argument)
    (htrail : Blank trail) : ∀ c ∈ (gap ++ argument ++ trail).head?, isWhiteSpace c = true := by
  intro c hc
  cases gap with
  | nil =>
    rw [hgap.apart rfl] at hc
    exact htrail c (List.mem_of_mem_head? hc)
  | cons d rest =>
    rw [List.cons_append, List.cons_append, List.head?_cons] at hc
    cases hc
    exact hgap.blank c (List.mem_cons_self ..)

/-! Sources. -/

theorem toNat_columnAfter {n : Nat} (h : n < UInt32.size - 1) : (columnAfter n).toNat = n + 1 := by
  rw [columnAfter, UInt32.toNat_ofNat_of_lt']
  have hsize : UInt32.size = 4294967296 := rfl
  omega

/-- Neither the lines nor the bytes before a column use up the words that number them. -/
theorem utf8Length_of_mem_sourceLines {source : String} {text : List Char}
    (h : text ∈ sourceLines source.toList) : utf8Length text ≤ (utf8 source).length := by
  rw [length_utf8_eq]
  exact utf8Length_le_of_sublist (sublist_of_mem_sourceLines h)

theorem length_sourceLines_le_utf8 (source : String) :
    (sourceLines source.toList).length ≤ (utf8 source).length := by
  rw [length_utf8_eq]
  calc (sourceLines source.toList).length ≤ source.toList.length := length_sourceLines_le _
    _ ≤ utf8Length source.toList := length_le_utf8Length _

variable {source : String}

/-- A `throw` on a line of a source is found where its exception points. -/
theorem thrown_of_holds (hsize : (utf8 source).length < UInt32.size - 1) {n : Nat}
    {text : List Char} (htext : (sourceLines source.toList)[n]? = some text) {s : Statement}
    (hholds : Holds text (some s)) {message : String} (haction : s.action = .throw message) :
    Thrown source ⟨message, some (columnAfter n), some s.actionColumn⟩ := by
  have hlength := utf8Length_of_mem_sourceLines (List.mem_of_getElem? htext)
  have hn : n < (sourceLines source.toList).length := (List.getElem?_eq_some_iff.1 htext).1
  have hlines := length_sourceLines_le_utf8 source
  have hline : (columnAfter n).toNat = n + 1 := toNat_columnAfter (by omega)
  cases hholds with
  | @statement blank body trail s hblank hbody hend htrail hdepth =>
    obtain ⟨front, word, rfl, hleaf⟩ := hbody.leaf
    rw [haction, ← utf8Length_append] at hleaf
    generalize hcolumn : s.actionColumn = column at hleaf
    cases hleaf with
    | @throw offset gap argument hgap =>
      rw [← trim_argument hgap hend.of_append.of_append htrail]
      refine @Thrown.keyword source _ _ (blank ++ front) _ (by omega) ?_ ?_
        (hgap.isWhiteSpace_head htrail)
      · rw [hline, Nat.add_sub_cancel, htext]
        simp only [List.append_assoc]
      · apply toNat_columnAfter
        simp only [utf8Length_append] at hlength ⊢
        omega

/-- **An exception thrown by a program points at the `throw` it comes from.** -/
theorem thrown_of_parse (hsize : (utf8 source).length < UInt32.size - 1) {p : Program}
    (hparse : Program.parse source = .ok p) {i : Instruction} (hi : i ∈ p) {e : ScriptException}
    (he : i.leaf.exception? = some e) : Thrown source e := by
  obtain ⟨n, text, htext, hnumber, hholds⟩ := (parseLines_eq_ok_iff.1 hparse).exists_line hi
  rw [Nat.zero_add] at hnumber
  cases haction : i.statement.action with
  | print text =>
    rw [Instruction.leaf, Statement.leaf, Leaf.exception?, haction] at he
    cases he
  | fault code =>
    rw [Instruction.leaf, Statement.leaf, Leaf.exception?, haction] at he
    cases he
  | throw message =>
    rw [Instruction.leaf, Statement.leaf, Leaf.exception?, haction] at he
    cases he
    rw [ScriptException.located, hnumber]
    exact thrown_of_holds hsize htext hholds haction

/-- **A compile error points at the first line that is not well-formed.** -/
theorem refused_of_parse (hsize : (utf8 source).length < UInt32.size - 1) {err : CompileError}
    (hparse : Program.parse source = .error err) : Refused source err.toException := by
  obtain ⟨before, text, after, hlines, hbefore, hnone, hline⟩ := parseLines_eq_error hparse
  refine .line hlines hbefore hnone ?_
  have hcount := length_sourceLines_le_utf8 source
  rw [hlines, List.length_append, List.length_cons] at hcount
  rw [hline, Nat.zero_add]
  apply toNat_columnAfter
  omega

end ScriptHost

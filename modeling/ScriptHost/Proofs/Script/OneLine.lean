import ScriptHost.Proofs.Script.Positions
import ScriptHost.Proofs.Text.OneLine

/- Programs of one-line texts. A source is cut at its line feeds and every text of its
   program is cut out of one line, as is every text that a compile error quotes. So what a
   source can print, throw or complain of never has a line feed; byte code, which can hold
   any text, is the only way to get one into a program.

   What is proved: `Program.oneLine_of_parse` and `CompileError.oneLine_of_parse`. -/
namespace ScriptHost

open Text

def Statement.OneLine (s : Statement) : Prop :=
  ∀ text, s.action.text? = some text → Text.OneLine text

def Program.OneLine (p : Program) : Prop := ∀ i ∈ p, i.statement.OneLine

def ScriptException.OneLine (x : ScriptException) : Prop := Text.OneLine x.message

/-- No line of a source has a line feed. -/
theorem not_mem_of_mem_sourceLines {cs line : List Char} (h : line ∈ sourceLines cs) :
    '\n' ∉ line := by
  fun_induction sourceLines cs generalizing line with
  | case1 => cases h
  | case2 rest ih =>
    rcases List.mem_cons.1 h with rfl | h
    · exact List.not_mem_nil
    · exact ih h
  | case3 rest ih =>
    rcases List.mem_cons.1 h with rfl | h
    · exact List.not_mem_nil
    · exact ih h
  | case4 c rest hfeed _ _ ih =>
    rw [List.mem_singleton.1 h]
    exact fun hc => hfeed (List.mem_singleton.1 hc).symm
  | case5 c rest hfeed _ first lines hlines ih =>
    rw [hlines] at ih
    rcases List.mem_cons.1 h with rfl | h
    · refine mt List.mem_cons.1 (not_or.2 ⟨fun hc => hfeed hc.symm, ih List.mem_cons_self⟩)
    · exact ih (List.mem_cons_of_mem _ h)

theorem Spells.oneLine {offset : Nat} {text : List Char} {s : Statement} (h : Spells offset text s)
    (htext : '\n' ∉ text) : s.OneLine := by
  induction h with
  | print hgap =>
    intro t ht
    cases ht
    exact oneLine_ofList.2 fun hmem => htext (List.mem_append_right _ hmem)
  | throw hgap =>
    intro t ht
    cases ht
    exact oneLine_ofList.2 fun hmem => htext (List.mem_append_right _ hmem)
  | fault hgap hcode =>
    intro t ht
    cases ht
  | defer hgap hinner ih => exact ih fun hmem => htext (List.mem_append_right _ hmem)

theorem Offends.oneLine {text : List Char} {n : Nat} {cause : CompileCause}
    (h : Offends text n cause) (htext : '\n' ∉ text) : Text.OneLine cause.message := by
  cases h with
  | @line blank rest trail spaces left before cause hblank hspaces hcount hamiss hend htrail =>
    have hrest : '\n' ∉ rest := fun hmem =>
      htext (List.mem_append_left _ (List.mem_append_right _ (List.mem_append_right _ hmem)))
    cases hamiss with
    | unknown hne hword hgap hunknown =>
      have hquoted : Text.OneLine _ := oneLine_ofList.2 fun hmem =>
        hrest (List.mem_append_left _ (List.mem_append_left _ hmem))
      exact (Text.OneLine.append (by decide) hquoted).append (by decide)
    | emptyDefer => decide
    | tooDeep hspace hargument => decide
    | missingCode => decide
    | badCode hspace hfront hcode =>
      have hquoted : Text.OneLine _ := oneLine_ofList.2 fun hmem =>
        hrest (List.mem_append_right _ hmem)
      exact (Text.OneLine.append (by decide) hquoted).append (by decide)

/-- The texts of a compiled source are lines. -/
theorem Program.oneLine_of_parse {source : String} {p : Program}
    (h : Program.parse source = .ok p) : p.OneLine := by
  intro i hi
  obtain ⟨n, text, htext, -, hholds⟩ := (parseLines_eq_ok_iff.1 h).exists_line hi
  have hline := not_mem_of_mem_sourceLines (List.mem_of_getElem? htext)
  cases hholds with
  | statement hblank hbody hend htrail hdepth =>
    exact hbody.oneLine fun hmem => hline (List.mem_append_left _ (List.mem_append_right _ hmem))

theorem CompileError.oneLine_of_parse {source : String} {err : CompileError}
    (h : Program.parse source = .error err) : err.toException.OneLine := by
  obtain ⟨before, text, after, hlines, -, htext⟩ := exists_line_of_parseLines_error h
  obtain ⟨n, hoffends, -⟩ := offends_of_parseLine_error htext
  have hmem : text ∈ sourceLines source.toList := by
    rw [hlines]
    exact List.mem_append_right _ List.mem_cons_self
  exact hoffends.oneLine (not_mem_of_mem_sourceLines hmem)

end ScriptHost

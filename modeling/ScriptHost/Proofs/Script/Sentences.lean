import Mathlib.Data.List.ReduceOption
import ScriptHost.Engine.Execution
import ScriptHost.Proofs.Script.Locations

/- The grammar of scripts once more, flat. `Spells` follows the parser down into the argument
   of each `defer`; here a line is read off from left to right, as a writer of scripts knows it:
   white space, some `defer`s, a command, white space. Nothing is said of columns.
   `Statement.behind` goes from one form to the other: it puts the `defer`s back around the
   command, each at the column that the ones in front of it leave.

   What is proved:
     1. `Spells.behind` and `Spells.exists_command` — a statement is a command behind `defer`s.
     2. `Holds.sentence` and `Sentence.holds` — the two grammars have the same lines.
     3. `Program.parse_accepts` — a source parses exactly when every line is a sentence, to what
        its sentences say; otherwise the first line that is none decides, and no engine compiles
        anything of it. -/
namespace ScriptHost

open Text

/-- White space between words: at least one character of it. -/
structure Space (cs : List Char) : Prop where
  nonempty : cs ≠ []
  blank : Blank cs

/-- `defer`s, each with the white space behind it. -/
def defers (spaces : List (List Char)) : List Char :=
  (spaces.map (Keyword.defer.chars ++ ·)).flatten

/-- The text of an action: `print` or `throw` with or without a text, `fault` with a code. -/
inductive Command : List Char → Action → Prop where
  | print : Command Keyword.print.chars (.print "")
  | printText {space text : List Char} (hspace : Space space) (htext : text ≠ [])
      (hfront : FrontTrimmed text) :
      Command (Keyword.print.chars ++ space ++ text) (.print (String.ofList text))
  | throw : Command Keyword.throw.chars (.throw "")
  | throwText {space text : List Char} (hspace : Space space) (htext : text ≠ [])
      (hfront : FrontTrimmed text) :
      Command (Keyword.throw.chars ++ space ++ text) (.throw (String.ofList text))
  | fault {space argument : List Char} {code : UInt32} (hspace : Space space)
      (hcode : FaultCode argument code) :
      Command (Keyword.fault.chars ++ space ++ argument) (.fault code)

/-- A line that is well-formed and what it says: nothing, or how often to defer what. -/
inductive Sentence : List Char → Option (Nat × Action) → Prop where
  | blank {text : List Char} (h : Blank text) : Sentence text none
  | comment {blank rest : List Char} (hblank : Blank blank) : Sentence (blank ++ '#' :: rest) none
  | statement {blank command trail : List Char} {spaces : List (List Char)} {action : Action}
      (hblank : Blank blank) (hspaces : ∀ space ∈ spaces, Space space)
      (hcount : spaces.length ≤ 64) (hcommand : Command command action)
      (hend : BackTrimmed command) (htrail : Blank trail) :
      Sentence (blank ++ (defers spaces ++ command) ++ trail) (some (spaces.length, action))

/-- How many `defer`s a statement has in front of which action. -/
def Statement.shape (s : Statement) : Nat × Action := (s.depth, s.action)

/-! Words and white space. -/

theorem FaultCode.frontTrimmed {argument : List Char} {code : UInt32}
    (h : FaultCode argument code) : argument ≠ [] ∧ FrontTrimmed argument := by
  cases h with
  | mark h => exact ⟨List.cons_ne_nil _ _, frontTrimmed_cons.2 (by decide)⟩
  | plus h hsize => exact ⟨List.cons_ne_nil _ _, frontTrimmed_cons.2 (by decide)⟩
  | plain h hsize =>
    obtain ⟨ds, hds, hdigits, -⟩ := h
    cases argument with
    | nil =>
      rw [List.map_nil, eq_comm, List.map_eq_nil_iff] at hdigits
      exact absurd hdigits hds
    | cons c rest =>
      cases ds with
      | nil => exact absurd rfl hds
      | cons d ds =>
        obtain ⟨hd, -⟩ := List.cons.inj hdigits
        exact ⟨List.cons_ne_nil _ _, frontTrimmed_cons.2 (isWhiteSpace_of_digit? hd)⟩

theorem Space.gap {space argument : List Char} (h : Space space) (hfront : FrontTrimmed argument) :
    Gap space argument :=
  ⟨h.blank, hfront, fun hnil => absurd hnil h.nonempty⟩

theorem Gap.space {gap argument : List Char} (h : Gap gap argument) (hargument : argument ≠ []) :
    Space gap :=
  ⟨fun hnil => hargument (h.apart hnil), h.blank⟩

/-- Where no white space is left at the end, a word stands alone or has an argument. -/
theorem Gap.alone_or_space {gap argument : List Char} (hgap : Gap gap argument)
    (hend : BackTrimmed (gap ++ argument)) :
    (gap = [] ∧ argument = []) ∨ (Space gap ∧ argument ≠ []) := by
  cases argument with
  | cons c rest => exact .inr ⟨hgap.space (List.cons_ne_nil _ _), List.cons_ne_nil _ _⟩
  | nil =>
    rw [List.append_nil] at hend
    refine .inl ⟨List.getLast?_eq_none_iff.1 (Option.eq_none_iff_forall_not_mem.2 ?_), rfl⟩
    intro c hc
    have hspace := hgap.blank c (List.mem_of_getLast? hc)
    rw [hend c hc] at hspace
    cases hspace

/-! Statements. -/

@[simp] theorem defers_nil : defers [] = [] := rfl

@[simp] theorem defers_cons (space : List Char) (spaces : List (List Char)) :
    defers (space :: spaces) = Keyword.defer.chars ++ space ++ defers spaces := rfl

/-- A statement behind `defer`s, the first of which has so many bytes before it on its line. -/
def Statement.behind (offset : Nat) : List (List Char) → Statement → Statement
  | [], s => s
  | space :: spaces, s =>
    .defer (columnAfter offset)
      (behind (offset + utf8Length (Keyword.defer.chars ++ space)) spaces s)

@[simp] theorem Statement.shape_act (column : UInt32) (action : Action) :
    (act column action).shape = (0, action) := rfl

theorem Statement.shape_behind (offset : Nat) (spaces : List (List Char)) (s : Statement) :
    (s.behind offset spaces).shape = (s.shape.1 + spaces.length, s.shape.2) := by
  induction spaces generalizing offset with
  | nil => rfl
  | cons space spaces ih =>
    have hinner := ih (offset + utf8Length (Keyword.defer.chars ++ space))
    simp only [shape, Prod.mk.injEq] at hinner ⊢
    rw [behind, depth_defer, hinner.1, List.length_cons]
    exact ⟨Nat.add_assoc .., hinner.2⟩

theorem Command.spells {command : List Char} {action : Action} (h : Command command action)
    (offset : Nat) : Spells offset command (.act (columnAfter offset) action) := by
  have halone : Gap [] [] := ⟨nofun, frontTrimmed_nil, fun _ => rfl⟩
  cases h with
  | print => exact .print halone
  | printText hspace htext hfront => exact .print (hspace.gap hfront)
  | throw => exact .throw halone
  | throwText hspace htext hfront => exact .throw (hspace.gap hfront)
  | fault hspace hcode => exact .fault (hspace.gap hcode.frontTrimmed.2) hcode

/-- `defer`s go in front of any statement. -/
theorem Spells.behind {offset : Nat} {spaces : List (List Char)} {text : List Char} {s : Statement}
    (hspaces : ∀ space ∈ spaces, Space space)
    (h : Spells (offset + utf8Length (defers spaces)) text s) :
    Spells offset (defers spaces ++ text) (s.behind offset spaces) := by
  induction spaces generalizing offset with
  | nil => exact h
  | cons space spaces ih =>
    have hspace := hspaces space (List.mem_cons_self ..)
    rw [defers_cons, utf8Length_append, ← Nat.add_assoc] at h
    have hinner := ih (fun x hx => hspaces x (List.mem_cons_of_mem _ hx)) h
    rw [defers_cons, List.append_assoc]
    exact .defer (hspace.gap hinner.frontTrimmed.1) hinner

theorem Spells.exists_command {offset : Nat} {text : List Char} {s : Statement}
    (h : Spells offset text s) (hend : BackTrimmed text) :
    ∃ spaces command, text = defers spaces ++ command ∧ (∀ space ∈ spaces, Space space) ∧
      Command command s.action ∧
      s = (Statement.act s.actionColumn s.action).behind offset spaces := by
  induction h with
  | @print offset gap argument hgap =>
    rw [List.append_assoc] at hend
    refine ⟨[], _, rfl, nofun, ?_, rfl⟩
    rcases hgap.alone_or_space hend.of_append with ⟨rfl, rfl⟩ | ⟨hspace, hargument⟩
    · exact .print
    · exact .printText hspace hargument hgap.trimmed
  | @throw offset gap argument hgap =>
    rw [List.append_assoc] at hend
    refine ⟨[], _, rfl, nofun, ?_, rfl⟩
    rcases hgap.alone_or_space hend.of_append with ⟨rfl, rfl⟩ | ⟨hspace, hargument⟩
    · exact .throw
    · exact .throwText hspace hargument hgap.trimmed
  | fault hgap hcode =>
    exact ⟨[], _, rfl, nofun, .fault (hgap.space hcode.frontTrimmed.1) hcode, rfl⟩
  | @defer offset gap argument inner hgap hinner ih =>
    obtain ⟨spaces, command, rfl, hspaces, hcommand, hs⟩ := ih hend.of_append
    refine ⟨gap :: spaces, command, by rw [defers_cons, List.append_assoc _ (defers spaces)], ?_,
      hcommand, ?_⟩
    · exact List.forall_mem_cons.2 ⟨hgap.space hinner.ne_nil, hspaces⟩
    · rw [Statement.behind, Statement.actionColumn, Statement.action, ← hs]

/-! Lines. -/

theorem Holds.sentence {text : List Char} {held : Option Statement} (h : Holds text held) :
    Sentence text (held.map Statement.shape) := by
  cases h with
  | blank h => exact .blank h
  | comment hblank => exact .comment hblank
  | @statement blank body trail s hblank hbody hend htrail hdepth =>
    obtain ⟨spaces, command, rfl, hspaces, hcommand, hs⟩ := hbody.exists_command hend
    have hshape : s.shape = (spaces.length, s.action) := by
      conv_lhs => rw [hs]
      rw [Statement.shape_behind, Statement.shape_act, Nat.zero_add]
    have hcount : spaces.length ≤ 64 := by
      rw [← (Prod.mk.inj hshape).1]
      exact hdepth
    rw [Option.map_some, hshape]
    exact .statement hblank hspaces hcount hcommand hend.of_append htrail

theorem Sentence.holds {text : List Char} {said : Option (Nat × Action)} (h : Sentence text said) :
    ∃ held, Holds text held ∧ held.map Statement.shape = said := by
  cases h with
  | blank h => exact ⟨none, .blank h, rfl⟩
  | comment hblank => exact ⟨none, .comment hblank, rfl⟩
  | @statement blank command trail spaces action hblank hspaces hcount hcommand hend htrail =>
    have hbody := Spells.behind hspaces
      (hcommand.spells (utf8Length blank + utf8Length (defers spaces)))
    have hshape := Statement.shape_behind (utf8Length blank) spaces
      (.act (columnAfter (utf8Length blank + utf8Length (defers spaces))) action)
    rw [Statement.shape_act, Nat.zero_add] at hshape
    refine ⟨some _, .statement hblank hbody ?_ htrail ?_, by rw [Option.map_some, hshape]⟩
    · intro c hc
      rw [List.getLast?_append_of_ne_nil _ (hcommand.spells 0).ne_nil] at hc
      exact hend c hc
    · exact (Prod.mk.inj hshape).1 ▸ hcount

/-! Programs. -/

/-- Lines with instructions are sentences, one instruction for each that says something. -/
theorem Lists.sentences {index : Nat} {lines : List (List Char)} {p : Program}
    (h : Lists index lines p) :
    ∃ said, List.Forall₂ Sentence lines said ∧ p.map (·.statement.shape) = said.reduceOption := by
  induction h with
  | nil => exact ⟨[], .nil, rfl⟩
  | @cons index text rest held p hline hrest ih =>
    obtain ⟨said, hsaid, hp⟩ := ih
    refine ⟨held.map Statement.shape :: said, .cons hline.sentence hsaid, ?_⟩
    rw [List.map_append, hp]
    cases held <;> rfl

theorem exists_lists_of_sentences {lines : List (List Char)} {said : List (Option (Nat × Action))}
    (h : List.Forall₂ Sentence lines said) (index : Nat) :
    ∃ p, Lists index lines p ∧ p.map (·.statement.shape) = said.reduceOption := by
  induction h generalizing index with
  | nil => exact ⟨[], .nil, rfl⟩
  | @cons text first rest said hfirst hrest ih =>
    obtain ⟨p, hlists, hp⟩ := ih (index + 1)
    obtain ⟨held, hheld, rfl⟩ := hfirst.holds
    refine ⟨_, .cons hheld hlists, ?_⟩
    rw [List.map_append, hp]
    cases held <;> rfl

theorem exists_forall₂_sentence {lines : List (List Char)} :
    (∃ said, List.Forall₂ Sentence lines said) ↔ ∀ text ∈ lines, ∃ said, Sentence text said := by
  induction lines with
  | nil => exact ⟨fun _ => nofun, fun _ => ⟨[], .nil⟩⟩
  | cons text rest ih =>
    rw [List.forall_mem_cons, ← ih]
    constructor
    · rintro ⟨said, h⟩
      cases h with
      | cons hfirst hrest => exact ⟨⟨_, hfirst⟩, _, hrest⟩
    · rintro ⟨⟨first, hfirst⟩, said, hrest⟩
      exact ⟨first :: said, .cons hfirst hrest⟩

/-- What an engine makes of a source it does not compile: its calls fail and give out no byte
    code, no statement of it has any effect, and only the pending exception may change, and the
    journal where a run was begun. -/
structure Engine.Rejects (e : Engine) (source : String) (x : ScriptException) : Prop where
  compiled : e.compile source = (.error .scriptCompile, { e with exception := some x })
  sized : ∃ code y, e.serializedSize source = (.error code, { e with exception := y })
  written : ∀ buffer, ∃ code y,
    e.serializeInto source buffer = (.error code, buffer, { e with exception := y })
  run : ∀ tag, ∃ code y j,
    e.runScript source tag = ⟨.error code, { e with exception := y, journal := j }, []⟩

theorem Engine.rejects_of_parse {source : String} {err : CompileError}
    (h : Program.parse source = .error err) (e : Engine) : e.Rejects source err.toException where
  compiled := by rw [compile, h]
  -- a call that is refused before it compiles fails as well, with the exception that was there
  sized := by
    unfold serializedSize whenCurrent compile
    rw [h]
    cases e.injected .serializeScript with
    | some code => exact ⟨code, e.exception, rfl⟩
    | none =>
      dsimp only
      split
      · exact ⟨_, e.exception, rfl⟩
      · exact ⟨_, _, rfl⟩
  written buffer := by
    unfold serializeInto whenCurrent compile
    rw [h]
    cases e.injected .serializeScript with
    | some code => exact ⟨code, e.exception, rfl⟩
    | none =>
      dsimp only
      split
      · exact ⟨_, e.exception, rfl⟩
      · exact ⟨_, _, rfl⟩
  run tag := by
    unfold runScript whenCurrent compile
    rw [h]
    cases e.injected .runScript with
    | some code => exact ⟨code, e.exception, e.journal, rfl⟩
    | none =>
      dsimp only
      split
      · exact ⟨_, e.exception, e.journal, rfl⟩
      · exact ⟨_, _, _, rfl⟩

namespace Program

/-- **The parser accepts exactly its grammar.** A source parses exactly when each of its lines is
    a sentence, and then to one instruction for each sentence that says something, with the
    `defer`s and the action it says. Otherwise the error is that of the first line which is no
    sentence, and no engine compiles anything of the source. -/
theorem parse_accepts {source : String} (hsize : (utf8 source).length < UInt32.size - 1) :
    ((∃ p, parse source = .ok p) ↔
      ∀ text ∈ sourceLines source.toList, ∃ said, Sentence text said) ∧
    (∀ p said, parse source = .ok p → List.Forall₂ Sentence (sourceLines source.toList) said →
      p.map (·.statement.shape) = said.reduceOption) ∧
    (∀ err, parse source = .error err →
      ∃ before text after, sourceLines source.toList = before ++ text :: after ∧
        (∀ t ∈ before, ∃ said, Sentence t said) ∧ (∀ said, ¬ Sentence text said) ∧
        err.line.toNat = before.length + 1 ∧ parseLine err.line text = .error err ∧
        ∀ e : Engine, e.Rejects source err.toException) := by
  refine ⟨?_, ?_, ?_⟩
  · rw [← exists_forall₂_sentence]
    constructor
    · rintro ⟨p, hp⟩
      obtain ⟨said, hsaid, -⟩ := (parseLines_eq_ok_iff.1 hp).sentences
      exact ⟨said, hsaid⟩
    · rintro ⟨said, hsaid⟩
      obtain ⟨p, hp, -⟩ := exists_lists_of_sentences hsaid 0
      exact ⟨p, parseLines_eq_ok_iff.2 hp⟩
  · intro p said hp hsaid
    obtain ⟨p', hp', hshapes⟩ := exists_lists_of_sentences hsaid 0
    cases hp.symm.trans (parseLines_eq_ok_iff.2 hp')
    exact hshapes
  · intro err herr
    obtain ⟨before, text, after, hlines, hbefore, htext⟩ := exists_line_of_parseLines_error herr
    obtain ⟨hline, hnone⟩ := parseLine_eq_error htext
    refine ⟨before, text, after, hlines, ?_, ?_, ?_, ?_, Engine.rejects_of_parse herr⟩
    · intro t ht
      obtain ⟨held, hheld⟩ := hbefore t ht
      exact ⟨_, hheld.sentence⟩
    · intro said hsaid
      obtain ⟨held, hheld, -⟩ := hsaid.holds
      exact hnone held hheld
    · have hcount := length_sourceLines_le_utf8 source
      rw [hlines, List.length_append, List.length_cons] at hcount
      rw [hline, Nat.zero_add]
      exact toNat_columnAfter (by omega)
    · rw [hline]
      exact htext

/-- Two `defer`s behind wide white space, a code with marks and a sign, and a word alone. -/
def spacedSource : String := "# note\n \u3000defer\tdefer  print a  b \n\nfault 0x0x+2A\r\nthrow"

/-- It parses, so all of its lines are sentences. -/
theorem parse_accepts_spaced :
    (∃ p, parse spacedSource = .ok p ∧
      p.map (·.statement.shape) = [(2, .print "a  b"), (0, .fault 0x2A), (0, .throw "")]) ∧
    ∀ text ∈ sourceLines spacedSource.toList, ∃ said, Sentence text said := by
  have hsize : (utf8 spacedSource).length < UInt32.size - 1 := by decide +kernel
  have hshapes : (parse spacedSource).map (List.map (·.statement.shape)) =
      .ok [(2, .print "a  b"), (0, .fault 0x2A), (0, .throw "")] := by decide +kernel
  obtain ⟨p, hp, hp'⟩ := map_eq_ok_iff.1 hshapes
  exact ⟨⟨p, hp, hp'⟩, (parse_accepts hsize).1.1 ⟨p, hp⟩⟩

end Program
end ScriptHost

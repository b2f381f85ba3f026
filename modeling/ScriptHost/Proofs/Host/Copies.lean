import ScriptHost.Proofs.Host.Keeps
import ScriptHost.Proofs.Script.LineEnds

/- Copies of a script. A copy with carriage returns in front of its line feeds, or with white
   space at the ends of its lines, has the same trimmed lines and so parses alike. Of the text
   of a script the engine and the supervisor see nothing but what it parses to; the bytes of
   the file, which do differ, are seen in a generated header only. So a run of the copy is a
   run of the script, state for state.

   What is proved:
     1. `trimmedLines_withReturns`, `map_trimEnd_of_extends` — the lines of a copy.
     2. `Supervised.run_congr` — scripts that parse alike run alike.
     3. `copy_behaves_alike` — both kinds of copies. -/
namespace ScriptHost

open Text

/-! Lines of copies. -/

/-- The source with a carriage return in front of each line feed. -/
def withReturns (source : String) : String :=
  String.ofList (source.toList.flatMap fun c => if c = '\n' then ['\r', '\n'] else [c])

/-- A line with white space at its end, behind the carriage return there or in front of it. -/
inductive Extends : List Char → List Char → Prop where
  | behind {line margin : List Char} (h : Blank margin) : Extends line (line ++ margin)
  | before {body margin : List Char} (h : Blank margin) :
      Extends (body ++ ['\r']) (body ++ margin ++ ['\r'])

/-- The source with white space at the ends of its lines, of some or of all. As the lines are cut
    at line feeds, the white space has none. -/
def Extended (copy source : String) : Prop :=
  List.Forall₂ Extends (source.toList.splitOn '\n') (copy.toList.splitOn '\n')

theorem trimmedLines_withReturns (source : String) :
    trimmedLines (withReturns source).toList = trimmedLines source.toList := by
  rw [withReturns, String.toList_ofList]
  induction source.toList with
  | nil => rfl
  | cons c rest ih =>
    rw [List.flatMap_cons]
    by_cases hc : c = '\n'
    · rw [if_pos hc, hc, trimmedLines_feed, ← ih]
      exact trimmedLines_returnFeed _
    · rw [if_neg hc]
      exact trimmedLines_cons_congr hc ih

theorem Extends.trimEnd_eq {line line' : List Char} (h : Extends line line') :
    trimEnd line' = trimEnd line := by
  have hreturn : Blank ['\r'] := by
    intro c hc
    rw [List.mem_singleton.1 hc]
    decide
  cases h with
  | behind hmargin => exact trimEnd_append line hmargin
  | before hmargin =>
    rw [trimEnd_append _ hreturn, trimEnd_append _ hreturn, trimEnd_append _ hmargin]

theorem map_trimEnd_of_extends {lines lines' : List (List Char)}
    (h : List.Forall₂ Extends lines lines') : lines'.map trimEnd = lines.map trimEnd := by
  induction h with
  | nil => rfl
  | cons hline _ ih => rw [List.map_cons, List.map_cons, hline.trimEnd_eq, ih]

theorem Program.parse_congr {copy source : String}
    (h : trimmedLines copy.toList = trimmedLines source.toList) :
    Program.parse copy = Program.parse source := by
  rw [parse_eq_parseLines, parse_eq_parseLines, h]

/-! Steps that do the same in some states. -/

namespace Step

variable {σ ε δ α β : Type} {P : σ → Prop} {m m' : Step σ ε α}

/-- From a state with `P` both steps do the same. -/
def SameOn (P : σ → Prop) (m m' : Step σ ε α) : Prop :=
  ∀ s, P s → m s = m' s

namespace SameOn

theorem refl (m : Step σ ε α) : SameOn P m m := fun _ _ => rfl

theorem bind {next next' : α → Step σ ε β} (hm : SameOn P m m') (hkeeps : Keeps P m)
    (hnext : ∀ a, SameOn P (next a) (next' a)) : SameOn P (m >>= next) (m' >>= next') := by
  intro s hs
  rw [bind_apply, bind_apply, ← hm s hs]
  rcases hstep : m s with ⟨a | e | payload, s'⟩
  · exact hnext a s' (Leads.value hkeeps hs hstep)
  · rfl
  · rfl

/-- What comes after is the same, so that nothing need be known of where it begins. -/
theorem bind_left (hm : SameOn P m m') (next : α → Step σ ε β) :
    SameOn P (m >>= next) (m' >>= next) := by
  intro s hs
  rw [bind_apply, bind_apply, hm s hs]

theorem attempt (hm : SameOn P m m') :
    SameOn P (m.attempt : Step σ δ (Except ε α)) m'.attempt := by
  intro s hs
  rw [Step.attempt, Step.attempt, hm s hs]

theorem onFault (hm : SameOn P m m') (f : σ → σ) : SameOn P (m.onFault f) (m'.onFault f) := by
  intro s hs
  rw [Step.onFault, Step.onFault, hm s hs]

end SameOn
end Step

/-! Sources that parse alike. -/

namespace Engine

variable {copy source : String}

theorem compile_congr (h : Program.parse copy = Program.parse source) (e : Engine) :
    e.compile copy = e.compile source := by
  rw [compile, h, ← compile]

theorem serializedSize_congr (h : Program.parse copy = Program.parse source) (e : Engine) :
    e.serializedSize copy = e.serializedSize source := by
  rw [serializedSize, compile_congr h, ← serializedSize]

theorem serializeInto_congr (h : Program.parse copy = Program.parse source) (e : Engine)
    (buffer : List UInt8) : e.serializeInto copy buffer = e.serializeInto source buffer := by
  rw [serializeInto, compile_congr h, ← serializeInto]

theorem runScript_congr (h : Program.parse copy = Program.parse source) (e : Engine)
    (tag : SourceContext) : e.runScript copy tag = e.runScript source tag := by
  rw [runScript, compile_congr h, ← runScript]

end Engine

namespace Host

theorem serialize_congr {copy source : String} (h : Program.parse copy = Program.parse source) :
    serialize copy = serialize source := by
  unfold serialize
  simp only [Engine.serializedSize_congr h, Engine.serializeInto_congr h]

theorem emitBytecode_congr {copy source : String}
    (h : Program.parse copy = Program.parse source) (output : Path) :
    emitBytecode copy output = emitBytecode source output := by
  rw [emitBytecode, serialize_congr h, ← emitBytecode]

theorem emitHeader_congr {script script' : Script}
    (h : Program.parse script.text = Program.parse script'.text) (hraw : script.raw = script'.raw)
    (output : Path) (symbol : String) :
    emitHeader script output symbol = emitHeader script' output symbol := by
  rw [emitHeader, serialize_congr h, hraw, ← emitHeader]

end Host

/-! Scripts that parse alike. -/

/-- The scripts differ in their text and their bytes only, and their texts parse alike. -/
structure Script.Alike (script script' : Script) : Prop where
  path : script.path = script'.path
  isUtf8 : script.isUtf8 = script'.isUtf8
  parse : Program.parse script.text = Program.parse script'.text

namespace Script.Alike

variable {script script' : Script} (h : script.Alike script')
include h

theorem displayName : script.displayName = script'.displayName := congrArg Path.display h.path

theorem symbol : script.symbol = script'.symbol := by
  rw [Script.symbol, h.path, ← Script.symbol]

theorem fullPath (workingDirectory : Location) :
    script.fullPath workingDirectory = script'.fullPath workingDirectory := by
  rw [Script.fullPath, h.path, ← Script.fullPath]

theorem checkUtf8 (feature : String) : script.checkUtf8 feature = script'.checkUtf8 feature := by
  rw [Script.checkUtf8, h.isUtf8, ← Script.checkUtf8]

end Script.Alike

namespace Supervised

variable {script script' : Script}

theorem runCall_congr (h : script.Alike script') (bytecode : Option (List UInt8))
    (tag : SourceContext) : runCall script bytecode tag = runCall script' bytecode tag := by
  cases bytecode with
  | none => simp only [runCall, Engine.runScript_congr h.parse]
  | some bytes => rfl

theorem runScript_congr (h : script.Alike script') (bytecode : Option (List UInt8)) :
    runScript script bytecode = runScript script' bytecode := by
  unfold runScript
  simp only [runCall_congr h, h.displayName]

theorem runInFreshRuntime_congr (h : script.Alike script') (bytecode : List UInt8) :
    runInFreshRuntime script bytecode = runInFreshRuntime script' bytecode := by
  unfold runInFreshRuntime
  simp only [runScript_congr h]

def InMode (mode : Mode) (s : Supervised) : Prop := s.supervisor.mode = mode

theorem keeps_inMode_onHost {ε α : Type} {mode : Mode} (m : Step Host ε α) :
    Step.Keeps (InMode mode) (onHost m) := .of_snd fun _ h => h

theorem keeps_inMode_transition {mode : Mode} (next : SupervisorState) :
    Step.Keeps (InMode mode) (transition next) := .of_snd fun _ h => h

/-- Only a header shows more of a script than what it parses to: its bytes. -/
theorem dispatch_congr {mode : Mode} (h : script.Alike script')
    (hraw : ∀ output, mode = .emitHeader output → script.raw = script'.raw) :
    Step.SameOn (InMode mode) (dispatch script) (dispatch script') := by
  intro s hmode
  have hstate : (Step.state : SupervisedStep Supervised) s = (.ok s, s) := rfl
  unfold dispatch
  rw [Step.bind_apply_of_ok _ hstate, Step.bind_apply_of_ok _ hstate, h.fullPath]
  refine congrArg (fun next => (Step.ofExcept _ >>= next) s) (funext fun _ => ?_)
  rw [InMode] at hmode
  rw [hmode]
  cases mode with
  | source => exact runScript_congr h none
  | preSerialized path => simp only [h.checkUtf8, runScript_congr h]
  | serialized =>
    simp only [h.checkUtf8, Host.serialize_congr h.parse, runInFreshRuntime_congr h]
  | emitHeader output =>
    simp only [h.checkUtf8, h.symbol, Host.emitHeader_congr h.parse (hraw output rfl)]
  | emitBytecode output => simp only [h.checkUtf8, Host.emitBytecode_congr h.parse]

theorem execute_congr {mode : Mode} (h : script.Alike script')
    (hraw : ∀ output, mode = .emitHeader output → script.raw = script'.raw) :
    Step.SameOn (InMode mode) (execute script) (execute script') := by
  unfold execute
  refine .bind (.refl _) .state fun s => ?_
  refine .bind (.refl _) (keeps_inMode_onHost _) fun runtime => ?_
  refine .bind (.refl _) (keeps_inMode_transition _) fun _ => ?_
  refine .bind (.refl _) (keeps_inMode_onHost _) fun scope => ?_
  refine .bind (.refl _) (keeps_inMode_transition _) fun _ => ?_
  exact .bind_left (.attempt (.onFault (dispatch_congr h hraw) _)) _

/-- **Scripts that parse alike run alike**, in every mode but that which shows their bytes. -/
theorem run_congr (h : script.Alike script') {s : Supervised}
    (hraw : ∀ output, s.supervisor.mode = .emitHeader output → script.raw = script'.raw) :
    run script s = run script' s := by
  have hresult : result script s = result script' s := by
    unfold result
    rw [Step.SameOn.attempt (execute_congr h hraw) s rfl]
  have hfinish : finish script = finish script' := by
    unfold finish
    rw [h.displayName]
  unfold run
  rw [Step.bind_apply, Step.bind_apply, hresult, hfinish]

end Supervised

/-- What a copy of a source has in common with it: what it parses to, what the engine answers,
    byte code and executions included, and every run under a supervisor from the same state. A
    generated header shows the bytes of the file, so there these are the same. -/
structure BehavesAs (copy source : String) : Prop where
  parse : Program.parse copy = Program.parse source
  size : ∀ e : Engine, e.serializedSize copy = e.serializedSize source
  bytecode : ∀ (e : Engine) (buffer : List UInt8),
    e.serializeInto copy buffer = e.serializeInto source buffer
  execution : ∀ (e : Engine) (tag : SourceContext), e.runScript copy tag = e.runScript source tag
  run : ∀ (path : Path) (raw raw' : List UInt8) (isUtf8 : Bool) (s : Supervised),
    (∀ output, s.supervisor.mode = .emitHeader output → raw' = raw) →
    Supervised.run ⟨path, copy, raw', isUtf8⟩ s = Supervised.run ⟨path, source, raw, isUtf8⟩ s

theorem behavesAs_of_parse {copy source : String}
    (h : Program.parse copy = Program.parse source) : BehavesAs copy source where
  parse := h
  size := Engine.serializedSize_congr h
  bytecode := Engine.serializeInto_congr h
  execution := Engine.runScript_congr h
  run := by
    intro path raw raw' isUtf8 s hraw
    have halike : Script.Alike ⟨path, copy, raw', isUtf8⟩ ⟨path, source, raw, isUtf8⟩ :=
      ⟨rfl, rfl, h⟩
    exact Supervised.run_congr halike hraw

/-- **A copy of a script with carriage returns in front of its line feeds behaves as the script
    does**, and so does a copy with white space at the ends of any of its lines. -/
theorem copy_behaves_alike (source : String) :
    BehavesAs (withReturns source) source ∧
      ∀ copy, Extended copy source → BehavesAs copy source := by
  constructor
  · exact behavesAs_of_parse (Program.parse_congr (trimmedLines_withReturns source))
  · intro copy h
    exact behavesAs_of_parse (Program.parse_congr (map_trimEnd_of_extends h))

/-- White space in front of a carriage return, and of two kinds behind the last line. -/
theorem copy_behaves_alike_spaced :
    Extended "# note \t\r\nthrow b\u3000 " "# note\r\nthrow b" ∧
      BehavesAs "# note \t\r\nthrow b\u3000 " "# note\r\nthrow b" := by
  have hextended : Extended "# note \t\r\nthrow b\u3000 " "# note\r\nthrow b" := by
    show List.Forall₂ Extends ("# note\r\nthrow b".toList.splitOn '\n')
      ("# note \t\r\nthrow b\u3000 ".toList.splitOn '\n')
    have hlines : "# note\r\nthrow b".toList.splitOn '\n' =
        ["# note".toList ++ ['\r'], "throw b".toList] := by decide +kernel
    have hlines' : "# note \t\r\nthrow b\u3000 ".toList.splitOn '\n' =
        ["# note".toList ++ " \t".toList ++ ['\r'], "throw b".toList ++ "\u3000 ".toList] := by
      decide +kernel
    rw [hlines, hlines']
    have hfront : Blank " \t".toList := List.all_eq_true.1 (by decide +kernel)
    have hback : Blank "\u3000 ".toList := List.all_eq_true.1 (by decide +kernel)
    exact .cons (.before hfront) (.cons (.behind hback) .nil)
  exact ⟨hextended, (copy_behaves_alike _).2 _ hextended⟩

end ScriptHost

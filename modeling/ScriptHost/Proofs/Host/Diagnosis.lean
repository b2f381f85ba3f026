import ScriptHost.Proofs.Host.Emission
import ScriptHost.Proofs.Host.Freeze
import ScriptHost.Proofs.Script.Locations

/- Diagnosis. Whichever way a script is run, the error that is reported of it is the one
   that its source gives: a source that does not compile is refused with its compile
   error before any statement is executed, and a program ends with the exception of one
   of its leaves, also when it went through byte code and a file. Both say where in the
   source they come from.

   What is proved:
     1. `executed_of_parse_error` — a source that does not compile executes nothing.
     2. `Way.ending_of_parse` and `Way.refused` — how a run ends, by what its source is.
     3. `errors_point_into_source` — where the error of a run points. -/
namespace ScriptHost

/-! Sources that do not compile. -/

namespace Engine

variable {source : String} {err : CompileError}

theorem statements_of_parse_error (hparse : Program.parse source = .error err) (e : Engine)
    (tag : SourceContext) : e.statements (.runScript source tag) = [] := by
  have hnone : e.program? (.runScript source tag) = none := by
    simp only [program?, whenCurrent, compile, hparse]
    split
    · rfl
    · exact ite_self _
  rw [statements, hnone]

theorem signals_of_parse_error (hparse : Program.parse source = .error err) (e : Engine)
    (tag : SourceContext) : (e.runScript source tag).signals = [] := by
  simp only [runScript, whenCurrent, compile, hparse]
  split
  · rfl
  · split <;> rfl

end Engine

namespace Traced

section
variable {A : Attempt → Prop} (hA : ∀ a : Attempt, ¬ a.act.Executes → A a) {mode : Mode}
include hA

theorem logs_drain_empty (hook : Hook) :
    Logs (fun s => s.supervisor.mode = mode) A (drain hook TaskQueue.empty) fun _ => True where
  attempts {s} _ a ha := by
    have hpop : TaskQueue.empty.pop? = none := rfl
    have hlog : (loggedDrain hook TaskQueue.empty s.host).state.2 = [] := by
      rw [loggedDrain, TaskQueue.settle_eq_settled, TaskQueue.drain_eq, hpop]
      rfl
    rcases List.mem_cons.1 ha with rfl | ha
    · exact hA _ id
    · rw [hlog] at ha
      cases ha
  keeps {s} hs := by
    show (Supervised.drain hook TaskQueue.empty s).2.supervisor.mode = mode
    unfold Supervised.drain
    dsimp only
    split <;> exact hs
  value _ _ := trivial

end

section
variable {script : Script} {err : CompileError} (hparse : Program.parse script.text = .error err)
  {mode : Mode}
include hparse

theorem logs_runCall_uncompiled (tag : SourceContext) :
    Logs (fun _ => True) (·.executed = []) (runCall script none tag) (·.2 = []) where
  attempts _ a ha := by
    rw [List.mem_singleton.1 ha]
    exact Engine.statements_of_parse_error hparse _ tag
  keeps _ := trivial
  value {h h' r} _ hm := by
    obtain ⟨hsignals, -⟩ := Host.performStep_ok hm
    rw [hsignals]
    exact Engine.signals_of_parse_error hparse _ tag

theorem logs_runScript_uncompiled :
    Logs (fun s => s.supervisor.mode = mode) (·.executed = []) (runScript script none)
      fun _ => True := by
  have hA := Attempt.executed_eq_nil
  refine .then_ (.onHost (R := fun u => u.mode = mode) (.quiet fun _ => id)) fun hook => ?_
  refine .then_ (.onHost (R := fun u => u.mode = mode)
    (.call fun _ => hA _ id)) fun _ => ?_
  refine .then_ (logs_transition _) fun _ => ?_
  refine .then_ (.onHost (R := fun u => u.mode = mode) (.quiet fun _ => id)) fun tag => ?_
  refine .bind (.onHost (R := fun u => u.mode = mode) (logs_runCall_uncompiled hparse tag))
    fun (ran, signals) hsignals => ?_
  dsimp only at hsignals
  subst hsignals
  refine .then_ (.quiet fun s hs => ?_) fun _ => ?_
  · cases ran <;> exact hs
  refine .then_ (logs_transition _) fun _ => ?_
  refine .then_ (logs_drain_empty hA hook) fun (drained, queue) => ?_
  refine .then_ (.quiet fun s hs => ?_) fun _ => ?_
  · cases drained <;> exact hs
  exact .then_ ((logs_clearHook queue fun _ => hA _ id).keeping fun _ hs => hs) fun _ => .settle _

theorem logs_dispatch_uncompiled (hmode : ∀ path, mode ≠ .preSerialized path) :
    Logs (fun s => s.supervisor.mode = mode) (·.executed = []) (dispatch script)
      fun _ => True := by
  have hA := Attempt.executed_eq_nil
  cases mode with
  | preSerialized path => exact absurd rfl (hmode path)
  | emitHeader output => exact (logs_dispatch rfl script).mono hA
  | emitBytecode output => exact (logs_dispatch rfl script).mono hA
  | source =>
    refine .bind .read fun s hs => .then_ (logs_ofExcept hA _) fun _ => ?_
    rw [hs]
    exact logs_runScript_uncompiled hparse
  | serialized =>
    refine .bind .read fun s hs => .then_ (logs_ofExcept hA _) fun _ => ?_
    rw [hs]
    refine .then_ (logs_ofExcept hA _) fun _ => .then_ (logs_transition _) fun _ => ?_
    refine .bind (.onHost (R := fun u => u.mode = _) (logs_serialize hA script.text))
      fun bytes ⟨p, hcompiled, _⟩ => ?_
    rw [hparse] at hcompiled
    cases hcompiled

end

end Traced

namespace Supervised

variable {script : Script} {s s₀ s₁ : Supervised} {mode : Mode} {path : Path} {p : Program}

/-- A source that does not compile executes nothing. -/
theorem executed_of_parse_error {err : CompileError}
    (hparse : Program.parse script.text = .error err)
    (hmode : ∀ path, s.supervisor.mode ≠ .preSerialized path) : executed script s = [] := by
  have hA := Attempt.executed_eq_nil
  refine List.flatMap_eq_nil_iff.2 fun a ha => ?_
  exact (Traced.logs_execute hA (Traced.logs_dispatch_uncompiled hparse hmode)).attempts rfl a ha

/-! Runs that end with an error of the host. -/

/-- Whether a run reports an error of the script. -/
def Diagnosed (ending : Ending Empty Outcome) : Prop :=
  ∃ op code x, ending = .ok (.scriptError op code x)

theorem not_diagnosed_success : ¬ Diagnosed (.ok .success) :=
  fun ⟨_, _, _, h⟩ => nomatch h

theorem not_diagnosed_hostError (e : HostError) : ¬ Diagnosed (.ok (.hostError e)) :=
  fun ⟨_, _, _, h⟩ => nomatch h

/-- A script without a path has no full path, which is an error of the host. -/
theorem Ready.not_diagnosed_of_no_path (h : Ready mode s) (hpath : script.path.isEmpty = true) :
    ¬ Diagnosed (run script s).1 := by
  obtain ⟨s₁, -, -, -, -, hending, -⟩ := h.run_of_dispatch script
  have hfull : script.path.full? s₁.host.files.workingDirectory = none := by
    rw [Path.full?_eq_none_iff, hpath]
  have hrefused : dispatch script s₁ =
      (.error (.system s!"cannot determine full path of {script.path.display}" .emptyPath), s₁) := by
    rw [dispatch, Step.bind_state_apply, Script.fullPath, hfull]
    rfl
  rw [hending, hrefused]
  exact not_diagnosed_hostError _

/-! The ways to run a script. -/

/-- The ways to run a script: from source, serialized, and through a file that its byte code is
    first emitted to. The engine is quiet each time, with nothing made to fail and sizes reported
    truthfully, and the run that reads the file finds the files that the emission left. -/
inductive Way (script : Script) : Supervised → Prop where
  | source {s : Supervised} (h : Ready .source s) : Way script s
  | serialized {s : Supervised} (h : Ready .serialized s) : Way script s
  | emitted {s : Supervised} {path : Path} (h : Ready (.emitBytecode path) s) : Way script s
  | loaded {s s₀ s₁ : Supervised} {path : Path} (h₀ : Ready (.emitBytecode path) s₀)
      (hemit : run script s₀ = (.ok .success, s₁)) (h : Ready (.preSerialized path) s)
      (hfiles : s.host.files = s₁.host.files) : Way script s

theorem Way.not_diagnosed_of_no_path (hway : Way script s) (hpath : script.path.isEmpty = true) :
    ¬ Diagnosed (run script s).1 := by
  cases hway with
  | source h => exact h.not_diagnosed_of_no_path hpath
  | serialized h => exact h.not_diagnosed_of_no_path hpath
  | emitted h => exact h.not_diagnosed_of_no_path hpath
  | loaded _ _ h _ => exact h.not_diagnosed_of_no_path hpath

theorem Ready.read_of_emitted (h₀ : Ready (.emitBytecode path) s₀)
    (hemit : run script s₀ = (.ok .success, s₁)) :
    ∃ p, Program.parse script.text = .ok p ∧
      ∀ content, s₁.host.files.read path = .ok content → content = Bytecode.encode p := by
  have hrun := run_of_idle h₀.idle script
  have hemits : s₀.supervisor.mode.emits = true := by
    rw [h₀.mode]
    rfl
  rcases execute_emits script hemits h₀.wellFormed (h₀.free _) with
    ⟨s', hexecute, hwritten⟩ | ⟨e, s', hexecute, -⟩ <;> rw [hexecute, hemit] at hrun
  · cases hrun
    rw [h₀.mode] at hwritten
    obtain ⟨p, output, content, hparse, hemission, hwrite⟩ := hwritten
    cases hemission
    exact ⟨p, hparse, fun content hread => FileSystem.read_write hwrite hread⟩
  · have hsuccess := Ending.ok.inj (congrArg Prod.fst hrun)
    exact absurd (congrArg Outcome.kind hsuccess.symm) (kind_ofError_ne e)

/-- A script that compiles is run as its program, or it is not run and nothing is reported
    of it. -/
theorem Way.ending_of_parse (hway : Way script s) (hutf8 : script.isUtf8 = true)
    (hsize : (Text.utf8 script.text).length < UInt32.size - 1)
    (hparse : Program.parse script.text = .ok p) :
    (∃ op, (run script s).1 = p.ending op) ∨ ¬ Diagnosed (run script s).1 := by
  have hdecode := Bytecode.decode_encode_of_parse hsize hparse
  cases hpath : script.path.isEmpty with
  | true => exact .inr (hway.not_diagnosed_of_no_path hpath)
  | false =>
    cases hway with
    | source h =>
      exact .inl ⟨_, (source_apply h.wellFormed h.quiet h.free h.idle h.mode hpath hparse).1⟩
    | serialized h => exact .inl ⟨_, (h.serialized hpath hutf8 hparse hdecode).1⟩
    | @emitted path h =>
      cases hwrite : s.host.files.write path (Bytecode.encode p) with
      | ok files =>
        rw [(h.emitBytecode hpath hutf8 hparse hwrite).1]
        exact .inr not_diagnosed_success
      | error reason =>
        obtain ⟨e, hending⟩ := h.emitBytecode_unwritable hpath hutf8 hparse hwrite
        exact .inr (hending ▸ not_diagnosed_hostError e)
    | @loaded _ _ path h₀ hemit h hfiles =>
      obtain ⟨p', hparse', hread⟩ := h₀.read_of_emitted hemit
      rw [hparse] at hparse'
      cases hparse'
      rw [← hfiles] at hread
      cases hcontent : s.host.files.read path with
      | ok content =>
        rw [hread content hcontent] at hcontent
        exact .inl ⟨_, (h.preSerialized hpath hutf8 hcontent hdecode).1⟩
      | error reason =>
        -- the system may refuse to read what it let be written
        obtain ⟨e, hending⟩ := h.preSerialized_unreadable hpath hutf8 hcontent
        exact .inr (hending ▸ not_diagnosed_hostError e)

/-- A script that does not compile is refused with its compile error and executes nothing, if it
    is looked at. -/
theorem Way.refused (hway : Way script s) (hutf8 : script.isUtf8 = true) {err : CompileError}
    (hparse : Program.parse script.text = .error err) :
    ((∃ op, (run script s).1 = compileError op err) ∧
        (run script s).2.host.engine.output = s.host.engine.output ∧ executed script s = []) ∨
      ¬ Diagnosed (run script s).1 := by
  have hsilent : ∀ {mode}, Ready mode s → (∀ path, mode ≠ .preSerialized path) →
      executed script s = [] := by
    intro mode h hmode
    refine executed_of_parse_error hparse fun path hpath => hmode path ?_
    rw [← h.mode, hpath]
  cases hpath : script.path.isEmpty with
  | true => exact .inr (hway.not_diagnosed_of_no_path hpath)
  | false =>
    cases hway with
    | source h =>
      obtain ⟨hending, houtput⟩ := h.source_error hpath hparse
      exact .inl ⟨⟨_, hending⟩, houtput, hsilent h nofun⟩
    | serialized h =>
      obtain ⟨hending, houtput⟩ := h.serialized_error hpath hutf8 hparse
      exact .inl ⟨⟨_, hending⟩, houtput, hsilent h nofun⟩
    | emitted h =>
      obtain ⟨hending, houtput⟩ := h.emitBytecode_error hpath hutf8 hparse
      exact .inl ⟨⟨_, hending⟩, houtput, hsilent h nofun⟩
    | loaded h₀ hemit _ _ =>
      -- there would be no byte code to read
      obtain ⟨p, hcompiled, -⟩ := h₀.read_of_emitted hemit
      rw [hparse] at hcompiled
      cases hcompiled

/-- **Errors point into the source.** The error of a script that is run from source, serialized or
    through emitted byte code is one of two. It is an exception that was thrown: then it points at
    a `throw` of the source and its message is what follows there. Or it is a compile error: then
    it points at the first line that is not well-formed, and no statement has been executed. -/
theorem errors_point_into_source {s' : Supervised} {op : Operation} {code : ErrorCode}
    {x : Option ScriptException} (hutf8 : script.isUtf8 = true)
    (hsize : (Text.utf8 script.text).length < UInt32.size - 1) (hway : Way script s)
    (hrun : run script s = (.ok (.scriptError op code x), s')) :
    (code = .scriptException ∧ ∃ e, x = some e ∧ Thrown script.text e) ∨
    (code = .scriptCompile ∧ (∃ e, x = some e ∧ Refused script.text e) ∧
      executed script s = [] ∧ s'.host.engine.output = s.host.engine.output) := by
  have hdiagnosed : Diagnosed (run script s).1 := by
    rw [hrun]
    exact ⟨_, _, _, rfl⟩
  cases hparse : Program.parse script.text with
  | ok p =>
    obtain ⟨op', hending⟩ := (hway.ending_of_parse hutf8 hsize hparse).resolve_right (· hdiagnosed)
    rw [hrun] at hending
    obtain ⟨hcode, i, hi, e, he, hx⟩ := Program.ending_eq_scriptError hending.symm
    exact .inl ⟨hcode, e, hx, thrown_of_parse hsize hparse hi he⟩
  | error err =>
    obtain ⟨⟨op', hending⟩, houtput, hsilent⟩ :=
      (hway.refused hutf8 hparse).resolve_right (· hdiagnosed)
    rw [hrun] at hending houtput
    cases hending
    exact .inr ⟨rfl, ⟨_, rfl, refused_of_parse hsize hparse⟩, hsilent, houtput⟩

/-- A script that throws in a task that a task has deferred. -/
def late : Script :=
  .ofText (.ofText "a.js") "print a\n  defer defer throw  late\nprint b"

/-- A supervisor that is to run the byte code that the script was emitted to. -/
def reloading (script : Script) : Supervised :=
  let emitted := run script (emptyHost.under (.emitBytecode (.ofText "a.bc")))
  { emptyHost with files := emitted.2.host.files }.under (.preSerialized (.ofText "a.bc"))

/-- The exception comes through byte code, a file and two tasks, and still points at its `throw`. -/
theorem errors_point_into_source_late :
    ∃ s' e, run late (reloading late) =
        (.ok (.scriptError .callTask .scriptException (some e)), s') ∧
      e = ⟨"late", some 2, some 15⟩ ∧ Thrown late.text e := by
  have hemitted : (run late (emptyHost.under (.emitBytecode (.ofText "a.bc")))).1 =
      .ok .success := by decide +kernel
  have hending : (run late (reloading late)).1 =
      .ok (.scriptError .callTask .scriptException (some ⟨"late", some 2, some 15⟩)) := by
    decide +kernel
  have ready : ∀ mode files, Ready mode ({ emptyHost with files := files }.under mode) :=
    fun _ _ => ⟨Engine.wellFormed_initial, rfl, fun _ => rfl, rfl, rfl, rfl⟩
  have hway : Way late (reloading late) := by
    unfold reloading
    rcases hemit : run late (emptyHost.under (.emitBytecode (.ofText "a.bc"))) with ⟨ending, s₁⟩
    rw [hemit] at hemitted
    cases hemitted
    exact .loaded (ready _ emptyHost.files) hemit (ready _ _) rfl
  rcases hrun : run late (reloading late) with ⟨ending, s'⟩
  rw [hrun] at hending
  cases hending
  rcases errors_point_into_source rfl (by decide +kernel) hway hrun with
    ⟨-, e, he, hthrown⟩ | ⟨hcode, -⟩
  · cases he
    exact ⟨s', _, rfl, rfl, hthrown⟩
  · cases hcode

end Supervised
end ScriptHost

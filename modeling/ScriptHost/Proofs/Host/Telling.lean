import ScriptHost.Proofs.Bytecode.RoundTrip
import ScriptHost.Proofs.Files.ReadWrite
import ScriptHost.Proofs.Host.Composition
import ScriptHost.Proofs.Host.History
import ScriptHost.Proofs.Host.Modes
import ScriptHost.Proofs.Host.OneLine

/- Telling on one line. `Step.Tells` says of a step that each error it ends with has one
   line, and what it leaves of the engine, so that later errors have one line too. An
   exception that is pending can be told of any later call that fails, and a statement
   that is deferred can be raised by any later drain; so both are carried along from
   step to step.

   What is proved: `one_diagnostic_line`, that a run which fails is told by one line,
   if the byte code that it reads from a file holds one-line texts and the system gives
   its reasons on one line. Without the first it is not (`diagnostic_of_two_lines`). -/
namespace ScriptHost

open Text

/-! Steps whose errors have one line. -/

/-- A result that is no error, or one that is told on one line. -/
def OneLineError (r : Except HostError Unit) : Prop := ∀ e, r = .error e → e.OneLine

theorem OneLineError.ok (u : Unit) : OneLineError (.ok u) := by
  intro e h
  cases h

theorem OneLineError.error {e : HostError} (h : e.OneLine) : OneLineError (.error e) := by
  intro e' he
  cases he
  exact h

theorem OneLineError.firstFailure {r r' : Except HostError Unit} (h : OneLineError r)
    (h' : OneLineError r') : OneLineError (firstFailure r r') := by
  cases r with
  | ok => exact h'
  | error e => exact h

open HasEngine (engine)

namespace Step

variable {σ α β : Type} [HasEngine σ] {F : σ → Prop} {P : Engine → Prop}

/-- From a state in a frame whose engine has `P`, the step stays in the frame and leaves `Q` of
    the engine beside a value. Beside an error the pending exception has one line, and so has the
    error itself. What a fault leaves is not asked. -/
def Tells (F : σ → Prop) (P : Engine → Prop) (m : Step σ HostError α) (Q : α → Engine → Prop) :
    Prop :=
  ∀ s, F s → P (engine s) → (m s).1.Leaves (fun a => F (m s).2 ∧ Q a (engine (m s).2))
    (fun e => e.OneLine ∧ F (m s).2 ∧ (engine (m s).2).PendsOneLine) fun _ => True

namespace Tells

variable {Q : α → Engine → Prop}

theorem pure {a : α} (h : ∀ e, P e → Q a e) : Tells F P (Pure.pure a) Q :=
  fun _ hF hP => ⟨hF, h _ hP⟩

theorem bind {m : Step σ HostError α} {next : α → Step σ HostError β} {R : β → Engine → Prop}
    (hm : Tells F P m Q) (hnext : ∀ a, Tells F (Q a) (next a) R) : Tells F P (m >>= next) R := by
  intro s hF hP
  have hfirst := hm s hF hP
  rw [bind_apply]
  rcases hs : m s with ⟨a | e | payload, t⟩ <;> rw [hs] at hfirst
  · exact hnext a t hfirst.1 hfirst.2
  · exact hfirst
  · trivial

theorem read {next : σ → Step σ HostError α}
    (hnext : ∀ s, F s → P (engine s) → Tells F P (next s) Q) :
    Tells F P (Step.state >>= next) Q :=
  fun s hF hP => hnext s hF hP s hF hP

theorem mono {P' : Engine → Prop} {Q' : α → Engine → Prop} {m : Step σ HostError α}
    (hm : Tells F P m Q) (hP : ∀ e, P' e → P e) (hQ : ∀ a e, Q a e → Q' a e) : Tells F P' m Q' := by
  intro s hF hs
  have hstep := hm s hF (hP _ hs)
  revert hstep
  rcases m s with ⟨a | e | payload, t⟩
  · exact And.imp_right (hQ a _)
  · exact id
  · exact id

/-- What is known of the values of a step is known of the value it leaves. -/
theorem returning {φ : α → Prop} {m : Step σ HostError α} (hm : Tells F P m Q)
    (hφ : ∀ {s a t}, m s = (.ok a, t) → φ a) : Tells F P m fun a e => φ a ∧ Q a e := by
  intro s hF hP
  have hstep := hm s hF hP
  rcases hs : m s with ⟨a | e | payload, t⟩ <;> rw [hs] at hstep
  · exact ⟨hstep.1, hφ hs, hstep.2⟩
  · exact hstep
  · trivial

theorem given {φ : Prop} {m : Step σ HostError α} (hm : φ → Tells F P m Q) :
    Tells F (fun e => φ ∧ P e) m Q :=
  fun s hF hP => hm hP.1 s hF hP.2

theorem ofExcept {r : Except HostError α} (h : ∀ e, r = .error e → e.OneLine)
    (hP : ∀ e, P e → e.PendsOneLine) :
    Tells F P (Step.ofExcept r) fun a e => r = .ok a ∧ P e := by
  intro s hF hs
  cases r with
  | ok a => exact ⟨hF, rfl, hs⟩
  | error e => exact ⟨h e rfl, hF, hP _ hs⟩

theorem fail {e : HostError} (he : e.OneLine) (hP : ∀ e, P e → e.PendsOneLine) :
    Tells F P (Step.fail e : Step σ HostError α) Q :=
  fun _ hF hs => ⟨he, hF, hP _ hs⟩

theorem change {f : σ → σ} {Q : Engine → Prop}
    (hf : ∀ s, F s → P (engine s) → F (f s) ∧ Q (engine (f s))) :
    Tells F P (Step.change f) fun _ => Q :=
  fun s hF hs => hf s hF hs

theorem onFault {m : Step σ HostError α} (hm : Tells F P m Q) (f : σ → σ) :
    Tells F P (m.onFault f) Q := by
  intro s hF hP
  have hstep := hm s hF hP
  unfold Step.onFault
  rcases hs : m s with ⟨a | e | payload, t⟩ <;> rw [hs] at hstep
  · exact hstep
  · exact hstep
  · trivial

theorem onError {m : Step σ HostError α} {f : σ → σ} (hm : Tells F P m Q)
    (hf : ∀ s, F s → (engine s).PendsOneLine → F (f s) ∧ (engine (f s)).PendsOneLine) :
    Tells F P (m.onError f) Q := by
  intro s hF hP
  have hstep := hm s hF hP
  unfold Step.onError
  rcases hs : m s with ⟨a | e | payload, t⟩ <;> rw [hs] at hstep
  · exact hstep
  · exact ⟨hstep.1, hf t hstep.2.1 hstep.2.2⟩
  · trivial

theorem attempt {m : Step σ HostError Unit} {Q : Unit → Engine → Prop} (hm : Tells F P m Q)
    (hQ : ∀ e, Q () e → e.PendsOneLine) :
    Tells F P m.attempt fun r e => OneLineError r ∧ e.PendsOneLine := by
  intro s hF hP
  have hstep := hm s hF hP
  unfold Step.attempt
  rcases hs : m s with ⟨⟨⟩ | e | payload, t⟩ <;> rw [hs] at hstep
  · exact ⟨hstep.1, .ok (), hQ _ hstep.2⟩
  · exact ⟨hstep.2.1, .error hstep.1, hstep.2.2⟩
  · trivial

end Tells
end Step

open Step (Tells)
open Engine (PendsOneLine)

/-! The host. -/

namespace Host

variable {F : FileSystem → Prop} {P : Engine → Prop} {h : Host}

/-- A failure is told on one line, and the exception it takes is told on one line. -/
theorem oneLine_failure (hpends : h.engine.PendsOneLine) (op : Operation) (code : ErrorCode) :
    (h.failure op code).1.OneLine ∧ (h.failure op code).2.engine.PendsOneLine := by
  refine ⟨?_, by rw [engine_failure]; exact hpends.handled _⟩
  unfold failure
  dsimp only
  split
  · exact hpends
  · exact .engine op code

theorem files_failure (h : Host) (op : Operation) (code : ErrorCode) :
    (h.failure op code).2.files = h.files := by
  unfold failure
  dsimp only
  split <;> rfl

theorem tells_debug (text : String) : Tells (F ·.files) P (debug text) fun _ => P :=
  .change fun _ hF hP => ⟨hF, hP⟩

/-- A call of the host tells what the engine's call leaves pending. -/
theorem tells_call {α : Type} (op : Operation) {f : Engine → Except ErrorCode α × Engine}
    {Q : α → Engine → Prop} (hpends : ∀ e, P e → (f e).2.PendsOneLine)
    (hok : ∀ e a, P e → (f e).1 = .ok a → Q a (f e).2) : Tells (F ·.files) P (call op f) Q := by
  intro h hF hP
  have hleft : (f h.engine).2.PendsOneLine := hpends _ hP
  rcases hf : f h.engine with ⟨code | a, e⟩
  · rw [hf] at hleft
    rw [call_of_error op hf]
    obtain ⟨hline, hhandled⟩ := oneLine_failure (h := { h with engine := e }) hleft op code
    exact ⟨hline, (congrArg F (files_failure _ op code)).mpr hF, hhandled⟩
  · have hvalue : Q a (f h.engine).2 := hok _ a hP (congrArg Prod.fst hf)
    rw [hf] at hvalue
    rw [call_of_ok op hf]
    exact ⟨hF, hvalue⟩

theorem oneLine_perform (op : Operation) {f : Engine → Execution}
    (hf : (f h.engine).engine.OneLine) :
    (h.perform op f).ending.Leaves (fun _ => True) HostError.OneLine (fun _ => True) ∧
      (h.perform op f).host.files = h.files ∧ (h.perform op f).host.engine.OneLine := by
  refine ⟨?_, ?_, by rw [engine_perform]; exact hf.handled _⟩ <;> unfold perform <;> dsimp only <;>
    split
  · trivial
  · exact (oneLine_failure (h := { h with engine := _ }) hf.pends op _).1
  · trivial
  · rfl
  · exact files_failure _ op _
  · rfl

theorem tells_performStep (op : Operation) {f : Engine → Execution}
    (hf : ∀ e : Engine, e.OneLine → (f e).engine.OneLine) :
    Tells (F ·.files) Engine.OneLine (performStep op f) fun r e =>
      OneLineError r.1 ∧ e.OneLine := by
  intro h hF hP
  obtain ⟨hending, hfiles, hengine⟩ := oneLine_perform op (hf _ hP)
  have hframe := (congrArg F hfiles).mpr hF
  unfold performStep
  dsimp only
  split
  · exact ⟨hframe, .ok (), hengine⟩
  · rename_i e herror
    rw [herror] at hending
    exact ⟨hframe, .error hending, hengine⟩
  · trivial

theorem tells_createRuntime (a : Attributes) :
    Tells (F ·.files) PendsOneLine (createRuntime a) fun _ => PendsOneLine := by
  have hpends : ∀ e : Engine, e.PendsOneLine → (e.createRuntime a).2.PendsOneLine := by
    intro e he
    unfold Engine.createRuntime Engine.unlessInjected
    split <;> exact he
  exact .bind (tells_call _ hpends fun e _ he _ => hpends e he) fun _ =>
    .bind (tells_debug _) fun _ => .pure fun _ he => he

/-- A context that is created can be entered, and nothing in it can be raised yet. -/
theorem tells_createContext (g : RuntimeGuard) :
    Tells (F ·.files) PendsOneLine (createContext g) fun id e =>
      (e.withCurrent (some id)).OneLine := by
  refine tells_call _ (fun e he => ?_) fun e id he hok => ?_
  · rcases e.createContext_cases g.runtime with ⟨code, heq⟩ | ⟨-, heq⟩ <;> rw [heq] <;> exact he
  · rcases e.createContext_cases g.runtime with ⟨code, heq⟩ | ⟨-, heq⟩ <;> rw [heq] at hok ⊢ <;>
      cases hok
    exact he.entered g.runtime

theorem tells_enter (id : ContextId) :
    Tells (F ·.files) (fun e => (e.withCurrent (some id)).OneLine) (enter id) fun _ =>
      Engine.OneLine := by
  refine .bind (Q := fun _ e => (e.withCurrent (some id)).OneLine) ?_ fun previous => ?_
  · refine tells_call _ (fun e he => ?_) fun e _ he _ => ?_ <;>
      rcases e.getCurrentContext_cases with ⟨code, heq⟩ | heq <;> rw [heq]
    · exact he.pends
    · exact he.pends
    · exact he
    · exact he
  refine .bind (Q := fun _ => Engine.OneLine) ?_ fun _ =>
    .bind (tells_debug _) fun _ => .pure fun _ he => he
  refine tells_call _ (fun e he => ?_) fun e _ he hok => ?_ <;>
    rcases e.setCurrentContext_cases (some id) with ⟨code, heq⟩ | ⟨-, -, heq⟩ <;> rw [heq]
  · exact he.pends
  · exact he.pends
  · rw [heq] at hok
    cases hok
  · exact he

theorem pends_drop (g : RuntimeGuard) (hpends : h.engine.PendsOneLine) :
    (g.drop h).files = h.files ∧ (g.drop h).engine.PendsOneLine := by
  unfold RuntimeGuard.drop
  rcases h.engine.disposeRuntime_cases g.runtime with ⟨code, heq⟩ | ⟨-, heq⟩ <;> rw [heq]
  · exact ⟨rfl, hpends⟩
  · exact ⟨rfl, hpends⟩

theorem tells_enterNew (g : RuntimeGuard) :
    Tells (F ·.files) PendsOneLine (enterNew g) fun _ => Engine.OneLine := by
  refine .onError (.bind (tells_createContext g) fun id => tells_enter id) fun h hF hP => ?_
  obtain ⟨hfiles, hpends⟩ := pends_drop g hP
  exact ⟨(congrArg F hfiles).mpr hF, hpends⟩

theorem tells_openContext (a : Attributes) :
    Tells (F ·.files) PendsOneLine (openContext a) fun _ => Engine.OneLine :=
  .bind (tells_createRuntime a) fun g => .bind (tells_enterNew g) fun _ => .pure fun _ he => he

theorem tells_exit (g : ContextScope) :
    Tells (F ·.files) PendsOneLine g.exit fun _ => PendsOneLine := by
  have hpends : ∀ e : Engine, e.PendsOneLine → (e.setCurrentContext g.previous).2.PendsOneLine := by
    intro e he
    rcases e.setCurrentContext_cases g.previous with ⟨code, heq⟩ | ⟨-, -, heq⟩ <;> rw [heq] <;>
      exact he
  exact .bind (tells_debug _) fun _ => tells_call _ hpends fun e _ he _ => hpends e he

theorem tells_dispose (g : RuntimeGuard) :
    Tells (F ·.files) PendsOneLine g.dispose fun _ => PendsOneLine := by
  have hpends : ∀ e : Engine, e.PendsOneLine → (e.disposeRuntime g.runtime).2.PendsOneLine := by
    intro e he
    rcases e.disposeRuntime_cases g.runtime with ⟨code, heq⟩ | ⟨-, heq⟩ <;> rw [heq] <;> exact he
  exact .bind (tells_debug _) fun _ => tells_call _ hpends fun e _ he _ => hpends e he

/-- The first failure of a teardown is told, and both are looked at. -/
theorem tells_close (g : ActiveContext) :
    Tells (F ·.files) PendsOneLine g.close fun _ => PendsOneLine := by
  refine .bind (.attempt (tells_exit g.scope) fun _ he => he) fun exited => .given fun hexited => ?_
  refine .bind (.attempt (tells_dispose g.runtime) fun _ he => he) fun disposed =>
    .given fun hdisposed => ?_
  exact .mono (.ofExcept (hexited.firstFailure hdisposed) fun _ he => he) (fun _ he => he)
    fun _ _ he => he.2

/-! Byte code and files. -/

theorem oneLine_of_brokenPromise {e : HostError} (h : Traced.BrokenPromise e) : e.OneLine := by
  cases h with
  | zero => exact .invariant (by decide)
  | changed required filled =>
    exact .invariant ((((OneLine.append (by decide) (oneLine_nat required)).append
      (by decide)).append (oneLine_nat filled)).append (by decide))

theorem judgement_tells :
    Traced.Judgement fun m => Tells (F ·.files) Engine.OneLine m.step fun _ => Engine.OneLine where
  pure _ := .pure fun _ he => he
  bind := .bind
  debug := tells_debug

theorem tells_serialize (source : String) :
    Tells (F ·.files) Engine.OneLine (serialize source) fun _ => Engine.OneLine := by
  refine judgement_tells.serialize (tells_call (f := (·.serializedSize source)) _
    (fun e he => (he.serializedSize source).pends) fun e _ he _ => he.serializedSize source)
    (fun buffer => ?_) fun hbroken => .fail (oneLine_of_brokenPromise hbroken) fun _ he => he.pends
  exact tells_call (f := Traced.filling source buffer) _
    (fun e he => (he.serializeInto source buffer).pends) fun e _ he _ => he.serializeInto source _

/-- What the system tells of files is one line, and so it is after what was written. -/
structure Framed (F : FileSystem → Prop) (output : Path) : Prop where
  refusals : ∀ fs, F fs → fs.refusals.OneLine
  wrote : ∀ fs fs' content, F fs → fs.Wrote output content fs' → F fs'

theorem tells_writeFile {output : Path} (hF : Framed F output) (houtput : lineFeed ∉ output.bytes)
    (content : List UInt8) :
    Tells (F ·.files) Engine.OneLine (writeFile output content) fun _ => Engine.OneLine := by
  intro h hfiles hP
  have hreason : ∀ {failure}, h.files.write output content = .error failure →
      Text.OneLine failure.reason.message := FileSystem.oneLine_of_write (hF.refusals _ hfiles)
  have hdisplay := Path.oneLine_display houtput
  have hwritten := written_writing output content h.files
  unfold writeFile onFiles
  generalize writing output content h.files = r at hwritten
  -- however it goes the frame is kept, for what is in the file is a front of the content
  cases hwritten with
  | done hwrite => exact ⟨hF.wrote _ _ _ hfiles (FileSystem.wrote_of_write hwrite), hP⟩
  | uncreated hwrite =>
    exact ⟨.system (OneLine.append (by decide) hdisplay) (hreason hwrite), hfiles, hP.pends⟩
  | cut hwrite =>
    obtain ⟨n, hwrote⟩ := FileSystem.wrote_of_cut hwrite
    exact ⟨.system (OneLine.append (by decide) hdisplay) (hreason hwrite),
      hF.wrote _ _ _ hfiles hwrote, hP.pends⟩

theorem tells_readBytecode (hF : ∀ fs, F fs → fs.refusals.OneLine) {path : Path}
    (hpath : lineFeed ∉ path.bytes) :
    Tells (F ·.files) Engine.OneLine (readBytecode path) fun content e =>
      (∃ fs : FileSystem, F fs ∧ fs.read path = .ok content) ∧ e.OneLine := by
  intro h hfiles hP
  cases hread : h.files.read path with
  | ok content =>
    rw [readBytecode_of_ok hread]
    exact ⟨hfiles, ⟨h.files, hfiles, hread⟩, hP⟩
  | error reason =>
    rw [readBytecode_of_error hread]
    refine ⟨.system (OneLine.append (by decide) (Path.oneLine_display hpath)) ?_, hfiles, hP.pends⟩
    exact FileSystem.oneLine_of_read (hF _ hfiles) hread

theorem tells_emitHeader {output : Path} (hF : Framed F output) (script : Script)
    (houtput : lineFeed ∉ output.bytes) {symbol : String} (hsymbol : Text.OneLine symbol) :
    Tells (F ·.files) Engine.OneLine (emitHeader script output symbol) fun _ => Engine.OneLine := by
  refine judgement_tells.emitHeader (.mono (.ofExcept (fun e he => ?_) fun _ he => he.pends)
    (fun _ he => he) fun _ _ he => he.2) (tells_serialize _) (tells_writeFile hF houtput)
  unfold checkSymbol at he
  split at he <;> cases he
  exact (OneLine.append (by decide) hsymbol).append (by decide)

theorem tells_emitBytecode {output : Path} (hF : Framed F output) (source : String)
    (houtput : lineFeed ∉ output.bytes) :
    Tells (F ·.files) Engine.OneLine (emitBytecode source output) fun _ => Engine.OneLine :=
  judgement_tells.emitBytecode (tells_serialize _) (tells_writeFile hF houtput)

end Host

/-! The supervisor. -/

theorem SupervisorState.oneLine_name (state : SupervisorState) : OneLine state.name := by
  cases state with
  | finished kind => cases kind <;> decide
  | _ => decide

/-- A mode without a line feed in its path, if it has one. -/
def Mode.OneLine : Mode → Prop
  | preSerialized path => lineFeed ∉ path.bytes
  | emitHeader output => lineFeed ∉ output.bytes
  | emitBytecode output => lineFeed ∉ output.bytes
  | _ => True

/-- What comes of the files are lines: the reasons that the system has of its own, and the texts of
    the programs that a mode reads. -/
structure Mode.ReadsLines (mode : Mode) (fs : FileSystem) : Prop where
  refusals : fs.refusals.OneLine
  programs : ∀ {path content p}, mode = .preSerialized path → fs.read path = .ok content →
    Bytecode.decode content = some p → p.OneLine

/-- A mode that writes a file reads none. -/
theorem Mode.framed_readsLines (mode : Mode) (hmode : ∀ path, mode ≠ .preSerialized path)
    (output : Path) : Host.Framed mode.ReadsLines output where
  refusals _ h := h.refusals
  wrote _ _ _ h hwrote :=
    ⟨hwrote.refusals ▸ h.refusals, fun hreads => absurd hreads (hmode _)⟩

namespace Supervised

/-- A supervisor in a mode that reads programs of one-line texts. -/
structure Reading (mode : Mode) (s : Supervised) : Prop where
  inMode : s.supervisor.mode = mode
  reads : mode.ReadsLines s.host.files

variable {mode : Mode} {P : Engine → Prop} {script : Script}

theorem tells_onHost {α : Type} {m : HostStep α} {Q : α → Engine → Prop}
    (hm : Tells (fun h : Host => mode.ReadsLines h.files) P m Q) :
    Tells (Reading mode) P (onHost m) Q := by
  intro s hs hP
  have hstep := hm s.host hs.reads hP
  unfold onHost Step.within
  rcases hh : m s.host with ⟨a | e | payload, h⟩ <;> rw [hh] at hstep
  · exact ⟨⟨hs.inMode, hstep.1⟩, hstep.2⟩
  · exact ⟨hstep.1, ⟨hs.inMode, hstep.2.1⟩, hstep.2.2⟩
  · trivial

theorem tells_transition (next : SupervisorState) :
    Tells (Reading mode) P (transition next) fun _ => P :=
  .change fun _ hs hP => ⟨⟨hs.inMode, hs.reads⟩, hP⟩

theorem tells_noteFailure (front : String) (r : Except HostError Unit) :
    Tells (Reading mode) P (noteFailure front r) fun _ => P := by
  cases r with
  | ok => exact fun _ hs hP => ⟨hs, hP⟩
  | error e => exact tells_onHost (Host.tells_debug _)

/-- A drain is told on one line: every task it calls was deferred with a one-line text. -/
theorem tells_drain (hook : Hook) (queue : TaskQueue) :
    Tells (Reading mode) Engine.OneLine (drain hook queue) fun r e =>
      OneLineError r.1 ∧ e.OneLine := by
  intro s hs hP
  -- what a call keeps: the engine can raise no more than lines, and the files are as they were
  have hcall : ∀ (h : Host) (t : Task), h.files = s.host.files ∧ h.engine.OneLine →
      ((Host.taskCallback hook).react h t).1.ending.Leaves
        (fun _ => ((Host.taskCallback hook).react h t).2.files = s.host.files ∧
          ((Host.taskCallback hook).react h t).2.engine.OneLine)
        (fun e => e.OneLine ∧ ((Host.taskCallback hook).react h t).2.files = s.host.files ∧
          ((Host.taskCallback hook).react h t).2.engine.OneLine)
        fun _ => True := by
    intro h t ⟨hfiles, hengine⟩
    obtain ⟨hending, hkept, hleft⟩ := Host.oneLine_perform (h := h) .callTask
      (f := (·.callTask t.callback)) (hengine.callTask t.callback)
    have hframe := hkept.trans hfiles
    revert hending
    show (h.perform .callTask (·.callTask t.callback)).ending.Leaves _ _ _ →
      (h.perform .callTask (·.callTask t.callback)).ending.Leaves _ _ _
    cases (h.perform .callTask (·.callTask t.callback)).ending with
    | ok => exact fun _ => ⟨hframe, hleft⟩
    | error e => exact fun he => ⟨he, hframe, hleft⟩
    | fault => exact id
  have hdrained := TaskQueue.settle_rule (Host.taskCallback hook)
    (P := fun h => h.files = s.host.files ∧ h.engine.OneLine)
    (R := fun e h => e.OneLine ∧ h.files = s.host.files ∧ h.engine.OneLine) (F := fun _ _ => True)
    hcall queue s.host ⟨rfl, hP⟩
  have hframe : ∀ h : Host, h.files = s.host.files → mode.ReadsLines h.files := fun h hfiles =>
    hfiles ▸ hs.reads
  unfold drain
  dsimp only
  revert hdrained
  generalize queue.settle (Host.taskCallback hook) s.host = d
  obtain ⟨passes, succeeded, ending, left, h⟩ := d
  cases ending with
  | ok =>
    rintro ⟨hfiles, hengine⟩
    exact ⟨⟨hs.inMode, hframe h hfiles⟩, .ok (), hengine⟩
  | error e =>
    rintro ⟨he, hfiles, hengine⟩
    exact ⟨⟨hs.inMode, hframe h hfiles⟩, .error he, hengine⟩
  | fault payload => exact id

theorem tells_clearHook (queue : TaskQueue) :
    Tells (Reading mode) Engine.OneLine
      (.change (changeHost fun h => noteUndrained queue (clearHook h))) fun _ =>
        Engine.OneLine := by
  refine .change fun s hs hP => ?_
  have hclear : (clearHook s.host).files = s.host.files ∧ (clearHook s.host).engine.OneLine := by
    have hset : (s.host.engine.setHook none).2.OneLine := Engine.OneLine.setHook hP none
    unfold clearHook
    revert hset
    generalize s.host.engine.setHook none = r
    obtain ⟨answer, e⟩ := r
    cases answer <;> exact fun he => ⟨rfl, he⟩
  obtain ⟨hfiles, hengine⟩ := hclear
  have hreads : mode.ReadsLines (clearHook s.host).files := hfiles ▸ hs.reads
  unfold changeHost noteUndrained
  split
  · exact ⟨⟨hs.inMode, hreads⟩, hengine⟩
  · exact ⟨⟨hs.inMode, hreads⟩, hengine⟩

/-- A run is told on one line, if its program has one-line texts: from source it has, whatever the
    source is. -/
theorem tells_runScript {bytecode : Option (List UInt8)}
    (hbytecode : ∀ {bytes p}, bytecode = some bytes → Bytecode.decode bytes = some p → p.OneLine) :
    Tells (Reading mode) Engine.OneLine (runScript script bytecode) fun _ e => e.PendsOneLine := by
  refine .bind (tells_onHost (Q := fun _ => Engine.OneLine) fun _ hF hP => ⟨hF, hP⟩) fun hook => ?_
  refine .bind (tells_onHost (Host.tells_call (Q := fun _ => Engine.OneLine) _
    (fun e he => (he.setHook _).pends) fun e _ he _ => he.setHook _)) fun _ => ?_
  refine .bind (tells_transition _) fun _ => ?_
  refine .bind (tells_onHost (Q := fun _ => Engine.OneLine) fun _ hF hP => ⟨hF, hP⟩) fun tag => ?_
  refine .bind (tells_onHost (Q := fun r e => OneLineError r.1 ∧ e.OneLine) ?_)
    fun (ran, signals) => .given fun hran => ?_
  · cases bytecode with
    | none => exact Host.tells_performStep _ fun e he => he.runScript script.text tag
    | some bytes =>
      exact Host.tells_performStep _ fun e he => he.runSerialized tag fun p => hbytecode rfl
  refine .bind (tells_noteFailure _ _) fun _ => .bind (tells_transition _) fun _ => ?_
  refine .bind (tells_drain hook _) fun (drained, queue) => .given fun hdrained => ?_
  refine .bind (tells_noteFailure _ _) fun _ => .bind (tells_clearHook queue) fun _ => ?_
  exact .mono (.ofExcept (hran.firstFailure hdrained) fun _ he => he.pends) (fun _ he => he)
    fun _ _ he => he.2.pends

theorem tells_runInFreshRuntime {bytecode : List UInt8}
    (hbytecode : ∀ {p}, Bytecode.decode bytecode = some p → p.OneLine) :
    Tells (Reading mode) Engine.OneLine (runInFreshRuntime script bytecode) fun _ e =>
      e.PendsOneLine := by
  refine .read fun s _ _ => ?_
  refine .bind (tells_onHost (.mono (Host.tells_openContext _) (fun _ he => he.pends)
    fun _ _ he => he)) fun active => .bind (tells_onHost (Host.tells_debug _)) fun _ => ?_
  have hrun : Tells (Reading mode) Engine.OneLine (runScript script (some bytecode)) fun _ e =>
      e.PendsOneLine := tells_runScript fun hbytes hdecode => by
    cases hbytes
    exact hbytecode hdecode
  refine .bind (.attempt (.onFault hrun _) fun _ he => he) fun ran => .given fun hran => ?_
  refine .bind (tells_onHost (.attempt (Host.tells_close active) fun _ he => he)) fun closed =>
    .given fun hclosed => ?_
  exact .mono (.ofExcept (hran.firstFailure hclosed) fun _ he => he) (fun _ he => he)
    fun _ _ he => he.2

/-- What a mode does is told on one line, one mode after the other. -/
theorem tells_dispatch (hpath : lineFeed ∉ script.path.bytes) (hmode : mode.OneLine)
    (hsize : mode = .serialized → (Text.utf8 script.text).length < UInt32.size - 1) :
    Tells (Reading mode) Engine.OneLine (dispatch script) fun _ e => e.PendsOneLine := by
  refine .read fun s hs _ => ?_
  refine .bind (.ofExcept (fun e he => Script.oneLine_of_fullPath hpath he) fun _ he => he.pends)
    fun _ => .given fun _ => ?_
  rw [hs.inMode]
  have hutf8 : ∀ {feature}, Text.OneLine feature → Tells (Reading mode) Engine.OneLine
      (.ofExcept (script.checkUtf8 feature)) fun _ => Engine.OneLine := fun hfeature =>
    .mono (.ofExcept (fun _ he => Script.oneLine_of_checkUtf8 hfeature he) fun _ he => he.pends)
      (fun _ he => he) fun _ _ he => he.2
  cases mode with
  | source => exact tells_runScript nofun
  | preSerialized path =>
    refine .bind (hutf8 (by decide)) fun _ => ?_
    refine .bind (tells_onHost (Host.tells_readBytecode (fun _ h => h.refusals) hmode))
      fun bytecode => .given fun ⟨fs, hreads, hread⟩ => ?_
    refine tells_runScript fun hbytes hdecode => ?_
    cases hbytes
    exact hreads.programs rfl hread hdecode
  | serialized =>
    refine .bind (hutf8 (by decide)) fun _ => .bind (tells_transition _) fun _ => ?_
    refine .bind (tells_onHost (.returning (Host.tells_serialize script.text) fun hstep =>
      (Host.serialize_eq_ok hstep).bytes)) fun bytecode => .given fun ⟨p, hparse, hbytes⟩ => ?_
    refine tells_runInFreshRuntime fun hdecode => ?_
    -- the byte code of a source that is not too long holds the program of the source
    rw [hbytes, Bytecode.decode_encode_of_parse (hsize rfl) hparse] at hdecode
    cases hdecode
    exact Program.oneLine_of_parse hparse
  | emitHeader output =>
    refine .bind (hutf8 (by decide)) fun _ => ?_
    refine .bind (.ofExcept (fun _ he => Script.oneLine_of_symbol_error hpath he)
      fun _ he => he.pends) fun symbol => .given fun hok => ?_
    have hframed := (Mode.emitHeader output).framed_readsLines nofun output
    refine .bind (tells_transition _) fun _ => tells_onHost ?_
    exact .mono (Host.tells_emitHeader hframed script hmode
      (Script.oneLine_of_symbol hpath hok)) (fun _ he => he) fun _ _ he => he.pends
  | emitBytecode output =>
    have hframed := (Mode.emitBytecode output).framed_readsLines nofun output
    refine .bind (hutf8 (by decide)) fun _ => .bind (tells_transition _) fun _ => tells_onHost ?_
    exact .mono (Host.tells_emitBytecode hframed script.text hmode) (fun _ he => he)
      fun _ _ he => he.pends

theorem tells_execute (hpath : lineFeed ∉ script.path.bytes) (hmode : mode.OneLine)
    (hsize : mode = .serialized → (Text.utf8 script.text).length < UInt32.size - 1) :
    Tells (Reading mode) PendsOneLine (execute script) fun _ => PendsOneLine := by
  refine .read fun s _ _ => .bind (tells_onHost (Host.tells_createRuntime _)) fun runtime => ?_
  refine .bind (tells_transition _) fun _ => .bind (tells_onHost (Host.tells_enterNew runtime))
    fun scope => .bind (tells_transition _) fun _ => ?_
  refine .bind (.attempt (.onFault (tells_dispatch hpath hmode hsize) _) fun _ he => he) fun ran =>
    .given fun hran => ?_
  refine .bind (tells_onHost (.attempt (Host.tells_exit scope) fun _ he => he)) fun exited =>
    .given fun hexited => ?_
  refine .bind (tells_onHost (.attempt (Host.tells_dispose runtime) fun _ he => he)) fun disposed =>
    .given fun hdisposed => ?_
  exact .mono (.ofExcept ((hran.firstFailure hexited).firstFailure hdisposed) fun _ he => he)
    (fun _ he => he) fun _ _ he => he.2

/-! Runs. -/

/-- A run without a line feed in what it is given: in the paths, the pending exception, the
    programs that it reads and the system's own reasons to refuse a file. In serialized mode the
    script is short enough that its byte code is that of its program. -/
structure Lined (script : Script) (s : Supervised) : Prop where
  path : lineFeed ∉ script.path.bytes
  mode : s.supervisor.mode.OneLine
  pends : s.host.engine.PendsOneLine
  reads : s.supervisor.mode.ReadsLines s.host.files
  size : s.supervisor.mode = .serialized → (Text.utf8 script.text).length < UInt32.size - 1

/-- The outcome of a run: what it returns, or what is recorded of the fault it ended with. -/
def CameTo (script : Script) (s : Supervised) (outcome : Outcome) : Prop :=
  (run script s).1 = .ok outcome ∨
    ∃ payload, (run script s).1 = .fault payload ∧
      outcome = (recordFault payload.code (run script s).2).1

theorem Lined.cameTo {script : Script} {s : Supervised} {outcome : Outcome} (h : Lined script s)
    (hrun : CameTo script s outcome) :
    outcome = .success ∨ (∃ code, outcome = .fault code) ∨
      ∃ e : HostError, e.OneLine ∧ outcome = .ofError e := by
  rcases hrun with hok | ⟨payload, -, rfl⟩
  · by_cases hidle : s.supervisor.state = .idle
    · have hexecute := tells_execute h.path h.mode h.size s ⟨rfl, h.reads⟩ h.pends
      rw [run_of_idle hidle] at hok
      rcases hs : execute script s with ⟨⟨⟩ | e | payload, s'⟩ <;> rw [hs] at hok hexecute <;>
        cases hok
      · exact .inl rfl
      · exact .inr (.inr ⟨e, hexecute.1, rfl⟩)
    · rw [run_of_left hidle] at hok
      cases hok
      refine .inr (.inr ⟨_, .invariant ?_, rfl⟩)
      exact OneLine.append (by decide) s.supervisor.state.oneLine_name
  · exact .inr (.inl ⟨payload.code, rfl⟩)

/-- **One diagnostic line.** Whatever the script, the mode, the engine and the files: the outcome
    of a run has a diagnostic exactly if it is neither success nor a fault, and the diagnostic is
    one line that begins with `ERROR: `. Required is that the paths are without line feeds, that
    no exception of several lines is pending, that byte code read from a file holds no text of
    several lines, that the system's own reasons to refuse a file are lines, and that a script
    whose byte code is run is not too long for it. -/
theorem one_diagnostic_line {script : Script} {s : Supervised} {outcome : Outcome}
    (h : Lined script s) (hrun : CameTo script s outcome) :
    (outcome.diagnostic script.displayName = none ↔
      outcome.kind = .success ∨ outcome.kind = .fault) ∧
    ∀ line, outcome.diagnostic script.displayName = some line → Outcome.IsDiagnostic line := by
  rcases h.cameTo hrun with rfl | ⟨code, rfl⟩ | ⟨e, he, rfl⟩
  · exact ⟨⟨fun _ => .inl rfl, fun _ => rfl⟩, nofun⟩
  · exact ⟨⟨fun _ => .inr rfl, fun _ => rfl⟩, nofun⟩
  · obtain ⟨line, hline, hdiagnostic⟩ := Outcome.isDiagnostic he (Path.oneLine_display h.path)
    have hname : (Outcome.ofError e).diagnostic script.displayName = some line := hline
    refine ⟨⟨fun hnone => ?_, fun hkind => ?_⟩, fun other hother => ?_⟩
    · cases hnone.symm.trans hname
    · cases e <;> rcases hkind with hkind | hkind <;> cases hkind
    · cases hname.symm.trans hother
      exact hdiagnostic

/-- The script that byte code is run for. -/
def caller : Script := .ofText (.ofText "/a.js") ""

/-- A supervisor that is to run the byte code of a program from a file. -/
def loading (p : Program) : Supervised :=
  { emptyHost with files :=
      { emptyHost.files with files := .insert .empty [Text.utf8 "a.bc"] (Bytecode.encode p) } }.under
    (.preSerialized (.ofText "a.bc"))

/-- A program with an exception of one line is run and told. -/
theorem one_diagnostic_line_late :
    ∃ outcome line, CameTo caller (loading [⟨7, .act 3 (.throw "late")⟩]) outcome ∧
      outcome.kind = .scriptError ∧ outcome.diagnostic caller.displayName = some line ∧
      Outcome.IsDiagnostic line := by
  let p : Program := [⟨7, .act 3 (.throw "late")⟩]
  have hp : p.OneLine := by
    intro i hi text htext
    cases List.mem_singleton.1 hi
    cases htext
    decide
  have hread : (loading p).host.files.read (.ofText "a.bc") = .ok (Bytecode.encode p) := by
    decide +kernel
  have hdecode : Bytecode.decode (Bytecode.encode p) = some p := by decide +kernel
  have hlined : Lined caller (loading p) :=
    { path := by decide
      mode := show lineFeed ∉ (Path.ofText "a.bc").bytes by decide
      pends := nofun
      reads := ⟨⟨nofun, nofun, nofun⟩, fun hmode hcontent hprogram => by
        cases hmode
        cases hread.symm.trans hcontent
        cases hdecode.symm.trans hprogram
        exact hp⟩
      size := nofun }
  have hrun : (run caller (loading p)).1 =
      .ok (.scriptError .runSerializedScript .scriptException (some ⟨"late", some 7, some 3⟩)) := by
    decide +kernel
  exact ⟨_, _, .inl hrun, rfl, rfl, (one_diagnostic_line hlined (.inl hrun)).2 _ rfl⟩

/-- Byte code can hold a text of two lines, and then the diagnostic of its exception has two
    lines as well, though there is no line feed in any path. -/
theorem diagnostic_of_two_lines :
    lineFeed ∉ caller.path.bytes ∧
    (loading [⟨1, .act 1 (.throw "a\nb")⟩]).supervisor.mode.OneLine ∧
    ∃ outcome line, CameTo caller (loading [⟨1, .act 1 (.throw "a\nb")⟩]) outcome ∧
      outcome.kind = .scriptError ∧ outcome.diagnostic caller.displayName = some line ∧
      ¬ OneLine line := by
  have hrun : (run caller (loading [⟨1, .act 1 (.throw "a\nb")⟩])).1 =
      .ok (.scriptError .runSerializedScript .scriptException (some ⟨"a\nb", some 1, some 1⟩)) := by
    decide +kernel
  refine ⟨by decide, show lineFeed ∉ (Path.ofText "a.bc").bytes by decide, ?_⟩
  exact ⟨_, _, .inl hrun, rfl, rfl, by decide +kernel⟩

end Supervised
end ScriptHost

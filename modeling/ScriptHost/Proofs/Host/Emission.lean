import ScriptHost.Proofs.Files.ReadWrite
import ScriptHost.Proofs.Host.History
import ScriptHost.Proofs.Host.Silence

/- Emission. In a mode that writes a file, everything that can still be refused comes
   before the write, and after the write nothing can fail. So a run that succeeds has
   written one file, a run that fails has touched none unless it was the write that the
   system cut off, and neither executes anything.

   What is proved:
     1. `leads_dispatch` — what a mode that emits leaves of the files.
     2. `execute_cases` — opening and closing leave the files alone.
     3. `logs_dispatch` — nothing that is attempted executes.
     4. `emission_writes_or_leaves` — a whole run, from every reachable engine, whatever
        is made to fail short of the disposals. -/
namespace ScriptHost

/-- What a mode that emits is to write where, given the byte code of a script. -/
inductive Emission (script : Script) (bytecode : List UInt8) :
    Mode → Path → List UInt8 → Prop where
  | header (output : Path) {stem : String} (hutf8 : script.isUtf8 = true)
      (hstem : script.path.fileStem?.bind (Text.ofUtf8? ·) = some stem)
      (hname : Text.isIdentifier (Text.lowercase stem) = true) :
      Emission script bytecode (.emitHeader output) output
        (Header.render bytecode script.raw (Text.lowercase stem))
  | bytecode (output : Path) (hutf8 : script.isUtf8 = true) :
      Emission script bytecode (.emitBytecode output) output bytecode

/-- The files after an emission that nothing refused. -/
def Emitted (script : Script) (mode : Mode) (before after : FileSystem) : Prop :=
  ∃ p output content, Program.parse script.text = .ok p ∧
    Emission script (Bytecode.encode p) mode output content ∧
    before.write output content = .ok after

/-- The files after an emission that failed: they are as they were, or the file was created and
    the system did not let all of its content be written. -/
inductive Abandoned (script : Script) (mode : Mode) (before : FileSystem) :
    HostError → FileSystem → Prop where
  | untouched (e : HostError) : Abandoned script mode before e before
  | cut {p : Program} {output : Path} {content : List UInt8} {reason : SystemError}
      {left : FileSystem} (hparse : Program.parse script.text = .ok p)
      (hemission : Emission script (Bytecode.encode p) mode output content)
      (hwrite : before.write output content = .error (.write reason left)) :
      Abandoned script mode before (.system s!"cannot write {output.display}" reason) left

/-! The files. -/

namespace Host

variable {fs : FileSystem}

abbrev Files (fs : FileSystem) (h : Host) : Prop := h.files = fs

theorem keeps_files_call {α : Type} (op : Operation)
    (f : Engine → Except ErrorCode α × Engine) : Step.Keeps (Files fs) (call op f) := by
  refine .of_snd fun h hh => ?_
  rcases hf : f h.engine with ⟨code | a, e⟩
  · rw [call_of_error op hf]
    unfold failure
    split <;> exact hh
  · rw [call_of_ok op hf]
    exact hh

/-- Only a request to the files changes them. -/
theorem keeps_files_calling :
    Traced.Calling (fun act => ∀ r, act ≠ .files r) fun m => Step.Keeps (Files fs) m.step where
  pure _ := .pure _
  bind hm hnext := .bind hm hnext
  debug _ := .change fun _ hh => hh
  call {_ _ op f} _ _ := keeps_files_call op f
  ofExcept r _ := .ofExcept r
  fail e _ := .fail e
  onFiles _ hother := absurd rfl (hother (.ok ()) (.ok ()))
  settle r := .ofExcept r
  attempt hm := .attempt hm
  orDrop {_ _ g} _ hm := .onError hm fun _ h hh => by
    unfold RuntimeGuard.drop
    dsimp only
    split <;> exact hh

theorem keeps_files_opening : Traced.Opening fun m => Step.Keeps (Files fs) m.step :=
  keeps_files_calling.opening (fun hkind _ hact => by subst hact; cases hkind)
    fun hkind _ hact => by subst hact; cases hkind

theorem leads_files_serialize {R : HostError → Host → Prop} (source : String)
    (hR : ∀ e h, Files fs h → R e h) :
    Step.Leads (Files fs) (serialize source)
      (fun bytes h => (∃ p, Program.parse source = .ok p ∧ bytes = Bytecode.encode p) ∧
        Files fs h) R := by
  have hkeeps : Step.Keeps (Files fs) (Traced.serialize source).step :=
    keeps_files_calling.serialize (keeps_files_call _ (·.serializedSize source))
      (fun buffer => keeps_files_call _ (Traced.filling source buffer)) fun _ => .fail _
  exact ⟨fun hh hstep => ⟨(serialize_eq_ok hstep).bytes, hkeeps.value hh hstep⟩,
    fun hh hstep => hR _ _ (hkeeps.error hh hstep)⟩

/-- A file is written, or it is abandoned. -/
theorem leads_files_writeFile {script : Script} {mode : Mode} {p : Program} {output : Path}
    {content : List UInt8} (hparse : Program.parse script.text = .ok p)
    (hemission : Emission script (Bytecode.encode p) mode output content) :
    Step.Leads (Files fs) (writeFile output content)
      (fun _ h => Emitted script mode fs h.files)
      (fun e h => Abandoned script mode fs e h.files) where
  value {h h' u} hh hstep := by
    have hwritten := writeFile_returns (r := .ok u) hstep
    rw [hh] at hwritten
    generalize h'.files = files at hwritten
    cases hwritten with
    | done hwrite => exact ⟨p, output, content, hparse, hemission, hwrite⟩
  error {h h' e} hh hstep := by
    have hwritten := writeFile_returns (r := .error e) hstep
    rw [hh] at hwritten
    generalize h'.files = files at hwritten
    cases hwritten with
    | uncreated hwrite => exact .untouched _
    | cut hwrite => exact .cut hparse hemission hwrite

theorem leads_emitBytecode {script : Script} (hutf8 : script.isUtf8 = true) (output : Path) :
    Step.Leads (Files fs) (emitBytecode script.text output)
      (fun _ h => Emitted script (.emitBytecode output) fs h.files)
      (fun e h => Abandoned script (.emitBytecode output) fs e h.files) := by
  refine .bind (leads_files_serialize _ fun e h hh => hh ▸ .untouched e)
    fun bytes => .given fun ⟨p, hparse, hbytes⟩ => ?_
  subst hbytes
  exact .bind (leads_files_writeFile hparse (.bytecode output hutf8)) fun _ => .change fun _ => id

theorem leads_emitHeader {script : Script} (hutf8 : script.isUtf8 = true) (output : Path)
    {stem : String} (hstem : script.path.fileStem?.bind (Text.ofUtf8? ·) = some stem) :
    Step.Leads (Files fs) (emitHeader script output (Text.lowercase stem))
      (fun _ h => Emitted script (.emitHeader output) fs h.files)
      (fun e h => Abandoned script (.emitHeader output) fs e h.files) := by
  refine .bind (.ofExcept _ fun e h hh => hh ▸ .untouched e) fun _ => .given fun hsymbol => ?_
  have hname : Text.isIdentifier (Text.lowercase stem) = true := by
    unfold checkSymbol at hsymbol
    split at hsymbol
    · assumption
    · cases hsymbol
  refine .bind (leads_files_serialize _ fun e h hh => hh ▸ .untouched e)
    fun bytes => .given fun ⟨p, hparse, hbytes⟩ => ?_
  subst hbytes
  exact .bind (leads_files_writeFile hparse (.header output hutf8 hstem hname))
    fun _ => .change fun _ => id

end Host

theorem Script.isUtf8_of_checkUtf8 {script : Script} {feature : String} {u : Unit}
    (h : script.checkUtf8 feature = .ok u) : script.isUtf8 = true := by
  unfold checkUtf8 at h
  split at h
  · assumption
  · cases h

theorem Script.symbol_eq_ok {script : Script} {symbol : String} (h : script.symbol = .ok symbol) :
    ∃ stem, script.path.fileStem?.bind (Text.ofUtf8? ·) = some stem ∧
      symbol = Text.lowercase stem := by
  unfold Script.symbol at h
  split at h <;> cases h
  exact ⟨_, ‹_›, rfl⟩

namespace Supervised

open Step (Returns)
open Host (Files SameResults)

variable {fs : FileSystem} {mode : Mode} {script : Script}

theorem leads_files_transition {R : HostError → Supervised → Prop} (next : SupervisorState) :
    Step.Leads (fun s : Supervised => Files fs s.host) (transition next)
      (fun _ s => Files fs s.host) R :=
  .change fun _ hs => hs

/-- A mode that emits writes its file once everything was checked, and nothing before. -/
theorem leads_dispatch (hemits : mode.emits = true) (script : Script) :
    Step.Leads (fun s : Supervised => s.supervisor.mode = mode ∧ Files fs s.host)
      (dispatch script) (fun _ s => Emitted script mode fs s.host.files)
      (fun e s => Abandoned script mode fs e s.host.files) := by
  have hchecks : ∀ e (s : Supervised), Files fs s.host → Abandoned script mode fs e s.host.files :=
    fun e s hs => hs ▸ .untouched e
  refine .bind (Q := fun a s => a.supervisor.mode = mode ∧ Files fs s.host)
    ⟨fun hs h => by cases h; exact hs, fun _ h => by cases h⟩ fun a => .given fun hmode => ?_
  refine .bind (.ofExcept _ hchecks) fun _ => .given fun _ => ?_
  rw [hmode]
  cases mode with
  | source => cases hemits
  | preSerialized input => cases hemits
  | serialized => cases hemits
  | emitHeader output =>
    refine .bind (.ofExcept _ hchecks) fun _ => .given fun hchecked => ?_
    refine .bind (.ofExcept _ hchecks) fun symbol => .given fun hsymbol => ?_
    obtain ⟨stem, hstem, rfl⟩ := Script.symbol_eq_ok hsymbol
    refine .bind (leads_files_transition _) fun _ => ?_
    exact leads_host (Host.leads_emitHeader (Script.isUtf8_of_checkUtf8 hchecked) output hstem)
  | emitBytecode output =>
    refine .bind (.ofExcept _ hchecks) fun _ => .given fun hchecked => ?_
    refine .bind (leads_files_transition _) fun _ => ?_
    exact leads_host (Host.leads_emitBytecode (Script.isUtf8_of_checkUtf8 hchecked) output)

theorem fault?_dispatch {s : Supervised} (hemits : s.supervisor.mode.emits = true)
    (script : Script) : (dispatch script s).1.fault? = none := by
  rw [dispatch, Step.bind_state_apply]
  refine Returns.bind (.ofExcept _) (fun _ => ?_) s
  cases hmode : s.supervisor.mode with
  | source => rw [hmode] at hemits; cases hemits
  | preSerialized input => rw [hmode] at hemits; cases hemits
  | serialized => rw [hmode] at hemits; cases hemits
  | emitHeader output =>
    exact .bind (.ofExcept _) fun _ => .bind (.ofExcept _) fun symbol => .bind (.change _)
      fun _ => returns_onHost (Traced.returns_emitting.emitHeader script output symbol)
  | emitBytecode output =>
    exact .bind (.ofExcept _) fun _ => .bind (.change _)
      fun _ => returns_onHost (Traced.returns_emitting.emitBytecode script.text output)

theorem execute_cases {s : Supervised} (script : Script) (hbase : s.host.engine.WellFormed)
    (hfree : s.host.engine.injected .disposeRuntime = none) :
    (∃ e s', execute script s = (.error e, s') ∧ s'.host.files = s.host.files) ∨
    ∃ s₁, s₁.host.files = s.host.files ∧ s₁.supervisor.mode = s.supervisor.mode ∧
      (execute script s).1 = (dispatch script s₁).1 ∧
      SameResults (dispatch script s₁).2.host (execute script s).2.host := by
  rw [execute, Step.bind_state_apply]
  have hfiles : Step.Keeps (Files s.host.files) (Host.createRuntime s.supervisor.mode.attributes) :=
    Host.keeps_files_opening.createRuntime _
  -- each of the two openings fails before the mode is looked at, or is passed over
  rcases hruntime : Host.createRuntime s.supervisor.mode.attributes s.host with
    ⟨runtime | e | payload, h₁⟩
  · rw [Step.bind_apply_of_ok _ (onHost_of hruntime)]
    have he₁ := (Host.leads_createRuntime _).value (Engine.Restored.refl hbase) hruntime
    have hf₁ := hfiles.value rfl hruntime
    obtain ⟨s₂, hready, he₂, hf₂, hm₂⟩ : ∃ s₂,
        transition .runtimeReady { s with host := h₁ } = (.ok (), s₂) ∧
        s₂.host.engine = h₁.engine ∧ s₂.host.files = h₁.files ∧
        s₂.supervisor.mode = s.supervisor.mode := ⟨_, rfl, rfl, rfl, rfl⟩
    rw [Step.bind_apply_of_ok _ hready]
    rw [← he₂] at he₁
    have hfiles : Step.Keeps (Files s.host.files) (Host.enterNew runtime) :=
      Host.keeps_files_opening.enterNew runtime
    rcases hscope : Host.enterNew runtime s₂.host with ⟨scope | e | payload, h₃⟩
    · rw [Step.bind_apply_of_ok _ (onHost_of hscope)]
      obtain ⟨s₄, hnext, he₄, hf₄, hm₄⟩ : ∃ s₄,
          transition .contextEntered { s₂ with host := h₃ } = (.ok (), s₄) ∧
          s₄.host.engine = h₃.engine ∧ s₄.host.files = h₃.files ∧
          s₄.supervisor.mode = s₂.supervisor.mode := ⟨_, rfl, rfl, rfl, rfl⟩
      rw [Step.bind_apply_of_ok _ hnext]
      have he₃ := (Host.leads_enterNew hbase hfree runtime).value he₁ hscope
      rw [← he₄] at he₃
      refine .inr ⟨s₄, hf₄.trans (hfiles.value (hf₂.trans hf₁) hscope), hm₄.trans hm₂, ?_⟩
      exact inside_apply script hbase hfree he₃
    · rw [Step.bind_apply_of_error _ (onHost_of hscope)]
      exact .inl ⟨e, _, rfl, hfiles.error (hf₂.trans hf₁) hscope⟩
    · exact absurd hscope (Traced.returns_opening.enterNew runtime).ne_fault
  · rw [Step.bind_apply_of_error _ (onHost_of hruntime)]
    exact .inl ⟨e, _, rfl, hfiles.error rfl hruntime⟩
  · exact absurd hruntime (Traced.returns_opening.createRuntime _).ne_fault

/-- An execution in a mode that emits returns: the file is written beside a value, and it is
    abandoned beside an error. -/
theorem execute_emits {s : Supervised} (script : Script) (hemits : s.supervisor.mode.emits = true)
    (hbase : s.host.engine.WellFormed) (hfree : s.host.engine.injected .disposeRuntime = none) :
    (∃ s', execute script s = (.ok (), s') ∧
      Emitted script s.supervisor.mode s.host.files s'.host.files) ∨
    ∃ e s', execute script s = (.error e, s') ∧
      Abandoned script s.supervisor.mode s.host.files e s'.host.files := by
  rcases execute_cases script hbase hfree with
    ⟨e, s', hrefused, hfiles⟩ | ⟨s₁, hf₁, hm₁, hending, hsame⟩
  · exact .inr ⟨e, s', hrefused, hfiles ▸ .untouched e⟩
  have hnone := fault?_dispatch (s := s₁) (hm₁ ▸ hemits) script
  -- the files are what the mode leaves: opening and closing do not touch them
  have hleads : Step.Leads (fun t : Supervised =>
      t.supervisor.mode = s.supervisor.mode ∧ Files s.host.files t.host) (dispatch script)
      (fun _ t => Emitted script s.supervisor.mode s.host.files t.host.files)
      (fun e t => Abandoned script s.supervisor.mode s.host.files e t.host.files) :=
    leads_dispatch hemits script
  rcases hexecute : execute script s with ⟨ending, s'⟩
  rw [hexecute] at hending hsame
  rcases hdispatch : dispatch script s₁ with ⟨⟨⟩ | e | payload, s₂⟩ <;>
    rw [hdispatch] at hending hsame hnone
  · refine .inl ⟨s', by rw [show ending = _ from hending], ?_⟩
    rw [hsame.files]
    exact hleads.value ⟨hm₁, hf₁⟩ hdispatch
  · refine .inr ⟨e, s', by rw [show ending = _ from hending], ?_⟩
    rw [hsame.files]
    exact hleads.error ⟨hm₁, hf₁⟩ hdispatch
  · cases hnone

end Supervised

/-! The engine. -/

theorem Traced.logs_dispatch {mode : Mode} (hemits : mode.emits = true) (script : Script) :
    Traced.Logs (fun s => s.supervisor.mode = mode) (fun a => ¬ a.act.Executes)
      (Traced.dispatch script) fun _ => True := by
  have hA : ∀ a : Attempt, ¬ a.act.Executes → ¬ a.act.Executes := fun _ => id
  refine .bind .read fun s hmode => ?_
  refine .then_ (logs_ofExcept hA _) fun _ => ?_
  rw [hmode]
  cases mode with
  | source => cases hemits
  | preSerialized input => cases hemits
  | serialized => cases hemits
  | emitHeader output =>
    refine .then_ (logs_ofExcept hA _) fun _ => .then_ (logs_ofExcept hA _) fun symbol => ?_
    refine .then_ (logs_transition _) fun _ => ?_
    exact .onHost (R := fun u => u.mode = _)
      ((silent_emitting hA).emitHeader script output symbol)
  | emitBytecode output =>
    refine .then_ (logs_ofExcept hA _) fun _ => .then_ (logs_transition _) fun _ => ?_
    exact .onHost (R := fun u => u.mode = _)
      ((silent_emitting hA).emitBytecode script.text output)

namespace Supervised

/-- What a run attempts in a mode that emits executes nothing. -/
theorem not_executes_of_emits {s : Supervised} {script : Script}
    (hemits : s.supervisor.mode.emits = true) {a : Attempt} (ha : a ∈ attempts script s) :
    ¬ a.act.Executes :=
  (Traced.logs_execute (fun _ => id) (Traced.logs_dispatch hemits script)).attempts rfl a ha

theorem unexecuted_execute {s : Supervised} (script : Script)
    (hemits : s.supervisor.mode.emits = true) :
    Engine.Unexecuted s.host.engine (execute script s).2.host.engine := by
  have haccounts := (Traced.execute script).accounts s
  rw [Traced.execute_step] at haccounts
  exact haccounts.unexecuted fun a ha => not_executes_of_emits hemits ha

/-- **Emission writes the right file or none, and executes nothing.** From every reachable
    engine, whatever the script, the files, what the system refuses, the quirks of the serializer
    and the failures injected, short of failed disposals, a run in a mode that emits returns. It
    prints nothing, begins no run and gives no task a number or a place. If it succeeds, it has
    written one file and it is the right one. If it fails, no file has changed, unless the error
    is the system's that the file cannot be written: then the front of its content may be there. -/
theorem emission_writes_or_leaves {s : Supervised} (script : Script)
    (hemits : s.supervisor.mode.emits = true) (hreach : s.host.engine.Reachable)
    (hfree : s.host.engine.injected .disposeRuntime = none) :
    ∃ outcome s', run script s = (.ok outcome, s') ∧
      Engine.Unexecuted s.host.engine s'.host.engine ∧
      s'.host.engine.contexts = s.host.engine.contexts ∧
      (outcome = .success → ∃ p output content, Program.parse script.text = .ok p ∧
        Emission script (Bytecode.encode p) s.supervisor.mode output content ∧
        s.host.files.Wrote output content s'.host.files) ∧
      (outcome ≠ .success → (∀ context reason, outcome ≠ .hostError (.system context reason)) →
        s'.host.files = s.host.files) ∧
      (outcome ≠ .success → s'.host.files = s.host.files ∨
        ∃ p output content reason n, Program.parse script.text = .ok p ∧
          Emission script (Bytecode.encode p) s.supervisor.mode output content ∧
          outcome = .hostError (.system s!"cannot write {output.display}" reason) ∧
          s.host.files.Wrote output (content.take n) s'.host.files) := by
  have hbase := Engine.wellFormed_of_reachable hreach
  -- what executes nothing and gives the tables back holds of the run however it ends; the files
  -- depend on the ending
  by_cases hidle : s.supervisor.state = .idle
  · have hsilent := unexecuted_execute script hemits
    have hrun := run_of_idle hidle script
    rcases execute_emits script hemits hbase hfree with ⟨s', hexecute, hwritten⟩ |
      ⟨e, s', hexecute, habandoned⟩ <;> rw [hexecute] at hsilent hrun <;>
      have hcontexts := (run_restores hreach hfree hrun).2.1
    · obtain ⟨p, output, content, hparse, hemission, hwrite⟩ := hwritten
      refine ⟨_, _, hrun, hsilent, hcontexts, fun _ => ?_, fun hfailed => absurd rfl hfailed,
        fun hfailed => absurd rfl hfailed⟩
      exact ⟨p, output, content, hparse, hemission, FileSystem.wrote_of_write hwrite⟩
    · refine ⟨_, _, hrun, hsilent, hcontexts, fun hsuccess => ?_, fun _ hother => ?_, fun _ => ?_⟩
      · exact absurd (congrArg Outcome.kind hsuccess) (kind_ofError_ne e)
      · generalize hleft : s'.host.files = left at habandoned
        cases habandoned with
        | untouched => exact hleft
        | @cut _ output _ reason _ hparse hemission hwrite => exact absurd rfl (hother _ reason)
      · generalize hleft : s'.host.files = left at habandoned
        cases habandoned with
        | untouched => exact .inl hleft
        | @cut p output content reason _ hparse hemission hwrite =>
          obtain ⟨n, hwrote⟩ := FileSystem.wrote_of_cut hwrite
          exact .inr ⟨p, output, content, reason, n, hparse, hemission, rfl, hleft ▸ hwrote⟩
  · -- a supervisor that has left `idle` does not even open a runtime
    exact ⟨_, _, run_of_left hidle script, .refl _, rfl, nofun, fun _ _ => rfl, fun _ => .inl rfl⟩

/-- A script that would throw is made into a header, and nothing is printed. -/
theorem emission_writes_boom :
    ∃ s', run boom (occupied (.emitHeader (.ofText "a.h"))) = (.ok .success, s') ∧
      s'.host.engine.output = [] ∧
      ∃ p stem, Program.parse "throw boom" = .ok p ∧
        boom.path.fileStem?.bind (Text.ofUtf8? ·) = some stem ∧
        s'.host.files.read (.ofText "a.h") =
          .ok (Header.render (Bytecode.encode p) boom.raw (Text.lowercase stem)) := by
  have hending : (run boom (occupied (.emitHeader (.ofText "a.h")))).1 = .ok .success := by
    decide +kernel
  obtain ⟨outcome, s', hrun, hsilent, -, hwritten, -, -⟩ :=
    emission_writes_or_leaves (s := occupied (.emitHeader (.ofText "a.h"))) boom rfl
      (reachable_occupied _) rfl
  rw [hrun] at hending
  cases hending
  obtain ⟨p, output, content, hparse, hemission, hwrote⟩ := hwritten rfl
  cases hemission with
  | header _ hutf8 hstem hname =>
    exact ⟨s', hrun, hsilent.output, p, _, hparse, hstem, hwrote.read rfl⟩

end Supervised
end ScriptHost

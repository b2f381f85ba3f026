import ScriptHost.Proofs.Engine.Opened
import ScriptHost.Proofs.Host.Logs

/- A run leaves nothing behind. The runtime and the context a run opens stand over the
   engine it began with, and everything in between happens inside that context; so
   leaving the context and disposing of the runtime, whichever of the exits of a run
   they belong to, give the tables back. In serialized mode the same holds of the
   second runtime, with the first one as its base.

   Only a disposal that is made to fail and a fault that passes leave something: a
   guard does not try twice, and a fault leaves the engine alone.

   What is proved: `run_restores`, for every mode and every way a run can return. -/
namespace ScriptHost

/-! Opening and closing, one call at a time. -/

namespace Host

variable {base : Engine}

/-- What is so of the engine once a scope was entered from the base. -/
def EnteredBy (base : Engine) (r : RuntimeId) (scope : ContextScope) (e : Engine) : Prop :=
  scope.previous = base.current ∧ Engine.Entered base r scope.context e

theorem leads_createRuntime (a : Attributes) :
    Step.Leads (fun h : Host => Engine.Restored base h.engine) (createRuntime a)
      (fun g h => Engine.Created base g.runtime h.engine)
      (fun _ h => Engine.Restored base h.engine) := by
  refine .bind (Q := fun r h => Engine.Created base r h.engine)
    (leads_call (Q := Engine.Created base) _ (fun e e' r he heq => ?_)
      fun e e' code he heq => ?_) fun r => ?_
  · cases hop : e.injected .createRuntime with
    | none =>
      cases (Engine.createRuntime_of_free hop a).symm.trans heq
      exact he.withRuntime a
    | some code => cases (Engine.createRuntime_of_injected hop a).symm.trans heq
  · rw [Engine.createRuntime_error heq]
    exact he.handled _
  · exact .bind (.change fun _ h => h) fun _ => .pure fun _ h => h

theorem restored_drop (hbase : base.WellFormed) (hfree : base.injected .disposeRuntime = none)
    (g : RuntimeGuard) (h : Host) (hh : Engine.Created base g.runtime h.engine) :
    Engine.Restored base (g.drop h).engine := by
  unfold RuntimeGuard.drop
  rw [hh.disposeRuntime hbase hfree]
  exact hh.withoutRuntime hbase

theorem leads_createContext (g : RuntimeGuard) :
    Step.Leads (fun h : Host => Engine.Created base g.runtime h.engine) (createContext g)
      (fun id h => Engine.Created base g.runtime h.engine ∧ h.engine.HasContext g.runtime id)
      (fun _ h => Engine.Created base g.runtime h.engine) := by
  refine leads_call (Q := fun id e => Engine.Created base g.runtime e ∧ e.HasContext g.runtime id)
    _ (fun e e' id he heq => ?_) fun e e' code he heq => ?_ <;>
    rcases e.createContext_cases g.runtime with ⟨code', hcall⟩ | ⟨-, hcall⟩ <;>
    cases hcall.symm.trans heq
  · exact he.withContext
  · exact he.handled _

theorem leads_enter {r : RuntimeId} (id : ContextId) :
    Step.Leads
      (fun h : Host => Engine.Created base r h.engine ∧ h.engine.HasContext r id) (enter id)
      (fun scope h => EnteredBy base r scope h.engine)
      (fun _ h => Engine.Created base r h.engine) := by
  -- what was current is the base's, and is remembered as such
  refine .bind (Q := fun previous h => previous = base.current ∧
      Engine.Created base r h.engine ∧ h.engine.HasContext r id)
    (leads_call (P := fun e => Engine.Created base r e ∧ e.HasContext r id)
      (Q := fun previous e => previous = base.current ∧ Engine.Created base r e ∧ e.HasContext r id)
      _ (fun e e' previous he heq => ?_) fun e e' code he heq => ?_) fun previous => ?_
  · rcases e.getCurrentContext_cases with ⟨code, hcall⟩ | hcall <;> cases hcall.symm.trans heq
    exact ⟨he.1.current, he⟩
  · rcases e.getCurrentContext_cases with ⟨code', hcall⟩ | hcall <;> cases hcall.symm.trans heq
    exact he.1.handled _
  refine .bind (Q := fun _ h => EnteredBy base r ⟨id, previous⟩ h.engine)
    (leads_call
      (P := fun e => previous = base.current ∧ Engine.Created base r e ∧ e.HasContext r id)
      (Q := fun _ => EnteredBy base r ⟨id, previous⟩)
      _ (fun e e' _ he heq => ?_) fun e e' code he heq => ?_) fun _ => ?_
  · rcases e.setCurrentContext_cases (some id) with ⟨code, hcall⟩ | ⟨hfree, -, hcall⟩ <;>
      cases hcall.symm.trans heq
    exact ⟨he.1, he.2.1.withCurrent he.2.2 hfree⟩
  · rcases e.setCurrentContext_cases (some id) with ⟨code', hcall⟩ | ⟨-, -, hcall⟩ <;>
      cases hcall.symm.trans heq
    exact he.2.1.handled _
  · exact .bind (.change fun _ h => h) fun _ => .pure fun _ h => h

/-- Entering a new context leaves it entered, or leaves nothing behind. -/
theorem leads_enterNew (hbase : base.WellFormed) (hfree : base.injected .disposeRuntime = none)
    (g : RuntimeGuard) :
    Step.Leads (fun h : Host => Engine.Created base g.runtime h.engine) (enterNew g)
      (fun scope h => EnteredBy base g.runtime scope h.engine)
      (fun _ h => Engine.Restored base h.engine) :=
  .onError (.bind (leads_createContext g) leads_enter) fun _ => restored_drop hbase hfree g

theorem leads_openContext (hbase : base.WellFormed) (hfree : base.injected .disposeRuntime = none)
    (a : Attributes) :
    Step.Leads (fun h : Host => Engine.Restored base h.engine) (openContext a)
      (fun g h => EnteredBy base g.runtime.runtime g.scope h.engine)
      (fun _ h => Engine.Restored base h.engine) :=
  .bind (leads_createRuntime a) fun g => .bind (leads_enterNew hbase hfree g) fun _ =>
    .pure fun _ h => h

/-- Leaving a scope never fails: the context that was current before is still there. -/
theorem leads_exit (hbase : base.WellFormed) {r : RuntimeId} (scope : ContextScope)
    {R : Engine → Prop} :
    Step.Leads (fun h : Host => EnteredBy base r scope h.engine) scope.exit
      (fun _ h => Engine.Created base r h.engine) (fun _ h => R h.engine) := by
  refine .bind (.change fun _ h => h) fun _ => leads_call (P := EnteredBy base r scope)
    (Q := fun _ => Engine.Created base r) _ (fun e e' _ he heq => ?_) fun e e' code he heq => ?_ <;>
    obtain ⟨hleave, hcreated⟩ := he.2.leave hbase <;> rw [he.1, hleave] at heq <;> cases heq
  exact hcreated

/-- A disposal that is not made to fail does not fail: none of the runtime's contexts is current. -/
theorem leads_dispose (hbase : base.WellFormed) (hfree : base.injected .disposeRuntime = none)
    (g : RuntimeGuard) {R : Engine → Prop} :
    Step.Leads (fun h : Host => Engine.Created base g.runtime h.engine) g.dispose
      (fun _ h => Engine.Restored base h.engine) (fun _ h => R h.engine) := by
  refine .bind (.change fun _ h => h) fun _ => leads_call (P := Engine.Created base g.runtime)
    (Q := fun _ => Engine.Restored base) _ (fun e e' _ he heq => ?_) fun e e' code he heq => ?_ <;>
    rw [he.disposeRuntime hbase hfree] at heq <;> cases heq
  exact he.withoutRuntime hbase

/-- Closing leaves nothing behind. -/
theorem leads_close (hbase : base.WellFormed) (hfree : base.injected .disposeRuntime = none)
    (g : ActiveContext) :
    Step.Leads (fun h : Host => EnteredBy base g.runtime.runtime g.scope h.engine) g.close
      (fun _ h => Engine.Restored base h.engine) (fun _ h => Engine.Restored base h.engine) :=
  .bind (.attempt (leads_exit hbase g.scope)) fun _ =>
    .bind (.attempt (leads_dispose hbase hfree g.runtime)) fun _ => Step.Keeps.ofExcept _

end Host

/-! The supervisor. -/

namespace Supervised

open Engine (Restored Entered Inside)
open Host (EnteredBy)
open Traced (inward_emitting)

variable {base : Engine}

theorem enteredBy_inside {r : RuntimeId} {scope : ContextScope} {e e' : Engine}
    (h : EnteredBy base r scope e) (hin : Inside e e') : EnteredBy base r scope e' :=
  ⟨h.1, h.2.within hin⟩

theorem leads_runInFreshRuntime (hbase : base.WellFormed)
    (hfree : base.injected .disposeRuntime = none) (script : Script) (bytecode : List UInt8) :
    Step.Keeps (Having (Restored base)) (runInFreshRuntime script bytecode) := by
  refine .bind .state fun s => ?_
  refine Step.Leads.bind (leads_onHost (Host.leads_openContext hbase hfree _)) fun active => ?_
  refine .bind (leads_onHost (Host.leads_debug _)) fun _ => ?_
  refine .bind (.attempt (.onFault (keeps_runScript enteredBy_inside script _) _)) fun ran => ?_
  refine .bind (leads_onHost (.attempt (Host.leads_close hbase hfree active))) fun closed => ?_
  exact Step.Keeps.ofExcept _

/-- Seen from the context it was begun in, such a run changes nothing. -/
theorem keeps_runInFreshRuntime (hfree : base.injected .disposeRuntime = none) {r : RuntimeId}
    {scope : ContextScope} (script : Script) (bytecode : List UInt8) :
    Step.Keeps (Having (EnteredBy base r scope)) (runInFreshRuntime script bytecode) := by
  -- the base of such a run is the engine it begins with, not the base of the context
  have hrun : ∀ s : Supervised, EnteredBy base r scope s.host.engine →
      Step.Keeps (Having (Restored s.host.engine)) (runInFreshRuntime script bytecode) := by
    intro s hs
    have hinjected : s.host.engine.injected .disposeRuntime = none := by
      rw [hs.2.injected, hfree]
    exact leads_runInFreshRuntime hs.2.wellFormed hinjected script bytecode
  constructor
  · intro s s' a hs h
    exact ⟨hs.1, hs.2.restored ((hrun s hs).value (Restored.refl hs.2.wellFormed) h)⟩
  · intro s s' e hs h
    exact ⟨hs.1, hs.2.restored ((hrun s hs).error (Restored.refl hs.2.wellFormed) h)⟩

/-- Whatever the mode, what is done in the entered context stays in it. -/
theorem keeps_dispatch (hfree : base.injected .disposeRuntime = none) {r : RuntimeId}
    {scope : ContextScope} (script : Script) :
    Step.Keeps (Having (EnteredBy base r scope)) (dispatch script) := by
  have inward : ∀ {α : Type} {m : Traced Host α},
      Traced.Logs (fun _ => True) (·.act.Inward) m (fun _ => True) →
        Step.Keeps (Having (EnteredBy base r scope)) (onHost m.step) :=
    fun hm => keeps_onHost (Traced.keeps_of_inward hm enteredBy_inside)
  refine .bind .state fun s => .bind (.ofExcept _) fun _ => ?_
  cases s.supervisor.mode with
  | source => exact keeps_runScript enteredBy_inside script none
  | preSerialized path =>
    exact .bind (.ofExcept _) fun _ => .bind (inward (inward_emitting.readBytecode path)) fun _ =>
      keeps_runScript enteredBy_inside script _
  | serialized =>
    exact .bind (.ofExcept _) fun _ => .bind (keeps_transition _) fun _ =>
      .bind (inward (inward_emitting.serialize _)) fun _ =>
      keeps_runInFreshRuntime hfree script _
  | emitHeader output =>
    exact .bind (.ofExcept _) fun _ => .bind (.ofExcept _) fun _ => .bind (keeps_transition _)
      fun _ => inward (inward_emitting.emitHeader script output _)
  | emitBytecode output =>
    exact .bind (.ofExcept _) fun _ => .bind (keeps_transition _) fun _ =>
      inward (inward_emitting.emitBytecode script.text output)

theorem keeps_execute (hbase : base.WellFormed) (hfree : base.injected .disposeRuntime = none)
    (script : Script) : Step.Keeps (Having (Restored base)) (execute script) := by
  refine .bind .state fun s => ?_
  refine Step.Leads.bind (leads_onHost (Host.leads_createRuntime _)) fun runtime => ?_
  refine .bind (leads_transition _) fun _ => ?_
  refine .bind (leads_onHost (Host.leads_enterNew hbase hfree runtime)) fun scope => ?_
  refine .bind (leads_transition _) fun _ => ?_
  refine .bind (.attempt (.onFault (keeps_dispatch hfree script) _)) fun ran => ?_
  refine .bind (leads_onHost (.attempt (Host.leads_exit hbase scope))) fun exited => ?_
  refine .bind (leads_onHost (.attempt (Host.leads_dispose hbase hfree runtime))) fun disposed => ?_
  exact Step.Keeps.ofExcept _

theorem keeps_run (hbase : base.WellFormed) (hfree : base.injected .disposeRuntime = none)
    (script : Script) : Step.Keeps (Having (Restored base)) (run script) := by
  refine .bind ?_ fun _ => .bind (.change fun _ h => h) fun _ => .pure _
  have hexecute := (keeps_execute hbase hfree script).attempt (δ := Empty)
  constructor <;> intro s s' x hs h <;> unfold result at h <;> split at h
  · exact hexecute.value hs h
  · cases h
    exact hs
  · exact hexecute.error hs h
  · cases h

/-- **A run that returns leaves nothing behind.** Whatever the mode, the script, the files,
    the serializer's quirks and the failures injected, short of failed disposals: the runtimes,
    the contexts and the current context are those the run began with, and no exception is
    pending that was not pending before. -/
theorem run_restores {s s' : Supervised} {script : Script} {outcome : Outcome}
    (hreach : s.host.engine.Reachable) (hfree : s.host.engine.injected .disposeRuntime = none)
    (hrun : run script s = (.ok outcome, s')) :
    s'.host.engine.runtimes = s.host.engine.runtimes ∧
      s'.host.engine.contexts = s.host.engine.contexts ∧
      s'.host.engine.current = s.host.engine.current ∧
      (s.host.engine.exception = none → s'.host.engine.exception = none) := by
  have hbase := Engine.wellFormed_of_reachable hreach
  have h := (keeps_run hbase hfree script).value (Restored.refl hbase) hrun
  exact ⟨h.runtimes, h.contexts, h.current, h.quiet⟩

/-- A host whose engine has a runtime with a context entered. -/
def occupied (mode : Mode) : Supervised where
  host :=
    { engine := ((Engine.initial.after (.createRuntime .none)).after (.createContext ⟨1⟩)).after
        (.setCurrentContext (some ⟨2⟩))
      files := { workingDirectory := [] } }
  supervisor := { mode := mode }

theorem reachable_occupied (mode : Mode) : (occupied mode).host.engine.Reachable :=
  .next (.next (.next .initial (.createRuntime .none)) (.createContext ⟨1⟩))
    (.setCurrentContext (some ⟨2⟩))

/-- Byte code is written to a file, and the context entered before is the current one again. -/
theorem run_restores_occupied :
    ∃ s', run (.ofText (.ofText "a.js") "print a") (occupied (.emitBytecode (.ofText "a.bc"))) =
        (.ok .success, s') ∧
      s'.host.engine.runtimes.entries = [(⟨1⟩, .none)] ∧
      s'.host.engine.contexts.keys = [⟨2⟩] ∧ s'.host.engine.current = some ⟨2⟩ ∧
      s'.host.engine.exception = none := by
  have hending : (run (.ofText (.ofText "a.js") "print a")
      (occupied (.emitBytecode (.ofText "a.bc")))).1 = .ok .success := by decide +kernel
  generalize hrun : run _ (occupied (.emitBytecode (.ofText "a.bc"))) = r at hending
  obtain ⟨ending, s'⟩ := r
  cases hending
  obtain ⟨hruntimes, hcontexts, hcurrent, hquiet⟩ := run_restores (reachable_occupied _) rfl hrun
  exact ⟨s', rfl, by rw [hruntimes]; rfl, by rw [hcontexts]; rfl, by rw [hcurrent]; rfl, hquiet rfl⟩

end Supervised
end ScriptHost

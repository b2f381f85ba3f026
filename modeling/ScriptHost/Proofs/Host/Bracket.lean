import ScriptHost.Proofs.Host.ProgramRun
import ScriptHost.Proofs.Host.Restore

/- Opening and closing when nothing is made to fail. Neither can fail then, and
   neither prints or touches a file: how a run ends, what it prints and which files it
   leaves are up to what happens in between.

   What is proved: `execute_apply` for a whole run and `runInFreshRuntime_apply` for
   the second runtime of serialized mode. -/
namespace ScriptHost

namespace Step

variable {σ ε δ α : Type} {m : Step σ ε α} {s s' : σ}

theorem bind_state_apply (next : σ → Step σ ε α) (s : σ) :
    (Step.state >>= next) s = next s s := rfl

theorem bind_ofExcept_apply {β : Type} {r : Except ε β} {b : β} (next : β → Step σ ε α)
    (h : r = .ok b) (s : σ) : (Step.ofExcept r >>= next) s = next b s := by
  rw [h]
  rfl

theorem attempt_apply_of_ok {a : α} (h : m s = (.ok a, s')) :
    (m.attempt : Step σ δ (Except ε α)) s = (.ok (.ok a), s') := by
  rw [attempt, h]

theorem attempt_onFault_of_except {r : Except ε α} (f : σ → σ) (h : m s = (.ofExcept r, s')) :
    ((m.onFault f).attempt : Step σ δ (Except ε α)) s = (.ok r, s') := by
  rw [attempt, onFault, h]
  cases r <;> rfl

theorem attempt_onFault_of_fault {payload : Payload} (f : σ → σ) (h : m s = (.fault payload, s')) :
    ((m.onFault f).attempt : Step σ δ (Except ε α)) s = (.fault payload, f s') := by
  rw [attempt, onFault, h]

end Step

namespace Host

/-- Two hosts with the same output and the same files. -/
structure SameResults (h h' : Host) : Prop where
  output : h'.engine.output = h.engine.output
  files : h'.files = h.files

theorem SameResults.trans {h h' h'' : Host} (hfirst : SameResults h h')
    (hnext : SameResults h' h'') : SameResults h h'' :=
  ⟨hnext.output.trans hfirst.output, hnext.files.trans hfirst.files⟩

/-! Opening. -/

theorem createRuntime_apply {h : Host} (hfree : h.engine.injected .createRuntime = none)
    (a : Attributes) : ∃ h', createRuntime a h = (.ok ⟨⟨h.engine.issued + 1⟩⟩, h') ∧
      h'.engine = h.engine.withRuntime a ∧ h'.files = h.files := by
  rw [createRuntime, Step.bind_apply_of_ok _
    (call_of_ok _ (f := (·.createRuntime a)) (Engine.createRuntime_of_free hfree a))]
  exact ⟨_, rfl, rfl, rfl⟩

theorem enter_apply {h : Host} {id : ContextId} (hid : id ∈ h.engine.contexts.keys)
    (hfree : ∀ op, h.engine.injected op = none) :
    ∃ h', enter id h = (.ok ⟨id, h.engine.current⟩, h') ∧
      h'.engine = h.engine.withCurrent (some id) ∧ h'.files = h.files := by
  have hget : h.engine.getCurrentContext = (.ok h.engine.current, h.engine) :=
    Engine.unlessInjected_of_none _ (hfree _)
  have hset : h.engine.setCurrentContext (some id) = (.ok (), h.engine.withCurrent (some id)) :=
    Engine.setCurrentContext_of_free (hfree _) fun id' heq => by cases heq; exact hid
  rw [enter, Step.bind_apply_of_ok _ (call_of_ok _ (f := (·.getCurrentContext)) hget),
    Step.bind_apply_of_ok _ (call_of_ok _ (f := (·.setCurrentContext (some id))) hset)]
  exact ⟨_, rfl, rfl, rfl⟩

theorem enterNew_apply {h : Host} {g : RuntimeGuard} (hlive : g.runtime ∈ h.engine.runtimes.keys)
    (hfree : ∀ op, h.engine.injected op = none) :
    ∃ h', enterNew g h = (.ok ⟨⟨h.engine.issued + 1⟩, h.engine.current⟩, h') ∧
      h'.engine = (h.engine.withContext g.runtime).withCurrent (some ⟨h.engine.issued + 1⟩) ∧
      h'.files = h.files := by
  have hcreate : createContext g h =
      (.ok ⟨h.engine.issued + 1⟩, { h with engine := h.engine.withContext g.runtime }) :=
    call_of_ok _ (f := (·.createContext g.runtime))
      (Engine.createContext_of_free (hfree _) hlive)
  have hid : (⟨h.engine.issued + 1⟩ : ContextId) ∈ (h.engine.withContext g.runtime).contexts.keys :=
    Engine.mem_contexts_keys_iff.2 ⟨_, Table.get?_insert_self _ _ _⟩
  obtain ⟨h', henter, hengine, hfiles⟩ :=
    enter_apply (h := { h with engine := h.engine.withContext g.runtime }) hid hfree
  refine ⟨h', ?_, hengine, hfiles⟩
  rw [enterNew, Step.onError, Step.bind_apply_of_ok _ hcreate, henter]
  rfl

theorem enterNew_opened {base : Engine} {a : Attributes} {h : Host} (hbase : base.WellFormed)
    (hfree : ∀ op, base.injected op = none) (hh : h.engine = base.withRuntime a) :
    ∃ h', enterNew ⟨⟨base.issued + 1⟩⟩ h = (.ok ⟨⟨base.issued + 2⟩, base.current⟩, h') ∧
      h'.engine = base.opened a ∧ h'.files = h.files := by
  have hcreated := (Engine.Restored.refl hbase).withRuntime a
  obtain ⟨h', henter, he', hf'⟩ := enterNew_apply (h := h) (g := ⟨⟨base.issued + 1⟩⟩)
    (by rw [hh]; exact hcreated.live) (by rw [hh]; exact hfree)
  rw [hh] at henter he'
  exact ⟨h', henter, he', hf'⟩

theorem openContext_apply {h : Host} (hbase : h.engine.WellFormed)
    (hfree : ∀ op, h.engine.injected op = none) (a : Attributes) :
    ∃ h', openContext a h =
        (.ok ⟨⟨⟨h.engine.issued + 2⟩, h.engine.current⟩, ⟨⟨h.engine.issued + 1⟩⟩⟩, h') ∧
      h'.engine = h.engine.opened a := by
  obtain ⟨h₁, hruntime, he₁, -⟩ := createRuntime_apply (hfree _) a
  obtain ⟨h₂, hscope, he₂, -⟩ := enterNew_opened hbase hfree he₁
  refine ⟨h₂, ?_, he₂⟩
  rw [openContext, Step.bind_apply_of_ok _ hruntime, Step.bind_apply_of_ok _ hscope]
  rfl

/-! Closing. -/

theorem exit_apply {base : Engine} {r : RuntimeId} {scope : ContextScope} {h : Host}
    (hbase : base.WellFormed) (hh : EnteredBy base r scope h.engine) :
    ∃ h', scope.exit h = (.ok (), h') ∧ Engine.Created base r h'.engine ∧ SameResults h h' := by
  obtain ⟨hleave, hcreated⟩ := hh.2.leave hbase
  rw [← hh.1] at hleave hcreated
  exact ⟨_, call_of_ok _ (f := (·.setCurrentContext scope.previous)) hleave, hcreated, rfl, rfl⟩

theorem dispose_apply {base : Engine} {g : RuntimeGuard} {h : Host} (hbase : base.WellFormed)
    (hfree : base.injected .disposeRuntime = none)
    (hh : Engine.Created base g.runtime h.engine) :
    ∃ h', g.dispose h = (.ok (), h') ∧ SameResults h h' :=
  ⟨_, call_of_ok _ (f := (·.disposeRuntime g.runtime)) (hh.disposeRuntime hbase hfree), rfl, rfl⟩

theorem close_apply {base : Engine} {g : ActiveContext} {h : Host} (hbase : base.WellFormed)
    (hfree : base.injected .disposeRuntime = none)
    (hh : EnteredBy base g.runtime.runtime g.scope h.engine) :
    ∃ h', g.close h = (.ok (), h') ∧ SameResults h h' := by
  obtain ⟨h₁, hexit, hcreated, hsame₁⟩ := exit_apply hbase hh
  obtain ⟨h₂, hdispose, hsame₂⟩ := dispose_apply hbase hfree hcreated
  refine ⟨h₂, ?_, hsame₁.trans hsame₂⟩
  rw [ActiveContext.close, Step.bind_apply_of_ok _ (Step.attempt_apply_of_ok hexit),
    Step.bind_apply_of_ok _ (Step.attempt_apply_of_ok hdispose)]
  rfl

end Host

/-! Runs. -/

/-- An ending as a run returns it: an error is an outcome, a fault passes. -/
def outcomeOf : Ending HostError Unit → Ending Empty Outcome
  | .ok () => .ok .success
  | .error e => .ok (.ofError e)
  | .fault payload => .fault payload

theorem outcomeOf_ofExcept (r : Except HostError Unit) :
    outcomeOf (.ofExcept r) = .ok (.ofResult r) := by
  cases r <;> rfl

namespace Supervised

open Host (EnteredBy SameResults)

theorem ofExcept_firstFailure (r : Except HostError Unit) :
    (Ending.ofExcept (firstFailure (firstFailure r (.ok ())) (.ok ())) : Ending HostError Unit) =
      .ofExcept r := by
  cases r <;> rfl

/-- What is left of a run once its context is entered. -/
def inside (script : Script) (runtime : RuntimeGuard) (scope : ContextScope) :
    SupervisedStep Unit := do
  let ran ←
    ((dispatch script).onFault (changeHost fun h => runtime.abandon (scope.abandon h))).attempt
  let exited ← onHost scope.exit.attempt
  let disposed ← onHost runtime.dispose.attempt
  .ofExcept (firstFailure (firstFailure ran exited) disposed)

/-- Where disposals are not made to fail, closing does not change how a run ends: a fault passes
    without it, and anything else is returned after it. -/
theorem inside_apply {base : Engine} {g : RuntimeGuard} {scope : ContextScope}
    {s : Supervised} (script : Script) (hbase : base.WellFormed)
    (hfree : base.injected .disposeRuntime = none)
    (hentered : EnteredBy base g.runtime scope s.host.engine) :
    (inside script g scope s).1 = (dispatch script s).1 ∧
      SameResults (dispatch script s).2.host (inside script g scope s).2.host := by
  rw [inside]
  rcases hdispatch : dispatch script s with ⟨ending, s₁⟩
  obtain ⟨payload, rfl⟩ | ⟨ran, rfl⟩ := ending.fault_or_ofExcept
  · rw [Step.bind_apply_of_fault _ (Step.attempt_onFault_of_fault _ hdispatch)]
    exact ⟨rfl, rfl, rfl⟩
  · obtain ⟨h₂, hexit, hcreated, hsame₂⟩ :=
      Host.exit_apply hbase ((keeps_dispatch hfree script).ofExcept_eq hentered hdispatch)
    obtain ⟨h₃, hdispose, hsame₃⟩ := Host.dispose_apply hbase hfree hcreated
    rw [Step.bind_apply_of_ok _ (Step.attempt_onFault_of_except _ hdispatch),
      Step.bind_apply_of_ok _ (onHost_of (Step.attempt_apply_of_ok hexit)),
      Step.bind_apply_of_ok _ (onHost_of (Step.attempt_apply_of_ok hdispose))]
    exact ⟨ofExcept_firstFailure ran, hsame₂.trans hsame₃⟩

theorem execute_apply {s : Supervised} (script : Script) (hbase : s.host.engine.WellFormed)
    (hfree : ∀ op, s.host.engine.injected op = none) :
    ∃ s₁, s₁.host.engine = s.host.engine.opened s.supervisor.mode.attributes ∧
      s₁.host.files = s.host.files ∧ s₁.supervisor.mode = s.supervisor.mode ∧
      (execute script s).1 = (dispatch script s₁).1 ∧
      SameResults (dispatch script s₁).2.host (execute script s).2.host := by
  -- up to the entered context nothing is refused
  obtain ⟨h₁, hruntime, he₁, hf₁⟩ :=
    Host.createRuntime_apply (h := s.host) (hfree _) s.supervisor.mode.attributes
  obtain ⟨s₂, hready, he₂, hf₂, hm₂⟩ : ∃ s₂,
      transition .runtimeReady { s with host := h₁ } = (.ok (), s₂) ∧
      s₂.host.engine = h₁.engine ∧ s₂.host.files = h₁.files ∧
      s₂.supervisor.mode = s.supervisor.mode := ⟨_, rfl, rfl, rfl, rfl⟩
  obtain ⟨h₃, hscope, he₃, hf₃⟩ := Host.enterNew_opened (h := s₂.host) hbase hfree (he₂.trans he₁)
  obtain ⟨s₄, hnext, he₄, hf₄, hm₄⟩ : ∃ s₄,
      transition .contextEntered { s₂ with host := h₃ } = (.ok (), s₄) ∧
      s₄.host.engine = h₃.engine ∧ s₄.host.files = h₃.files ∧
      s₄.supervisor.mode = s₂.supervisor.mode := ⟨_, rfl, rfl, rfl, rfl⟩
  refine ⟨s₄, he₄.trans he₃, ((hf₄.trans hf₃).trans hf₂).trans hf₁, hm₄.trans hm₂, ?_⟩
  rw [execute, Step.bind_state_apply,
    Step.bind_apply_of_ok _ (onHost_of hruntime), Step.bind_apply_of_ok _ hready,
    Step.bind_apply_of_ok _ (onHost_of hscope), Step.bind_apply_of_ok _ hnext]
  have hentered : EnteredBy s.host.engine ⟨s.host.engine.issued + 1⟩
      ⟨⟨s.host.engine.issued + 2⟩, s.host.engine.current⟩ s₄.host.engine := by
    rw [he₄, he₃]
    exact ⟨rfl, Engine.entered_opened hbase (hfree _) _⟩
  exact inside_apply (g := ⟨⟨s.host.engine.issued + 1⟩⟩) script hbase (hfree _) hentered

theorem runInFreshRuntime_apply {s : Supervised} (script : Script) (bytecode : List UInt8)
    (hbase : s.host.engine.WellFormed) (hfree : ∀ op, s.host.engine.injected op = none) :
    ∃ s₁, s₁.host.engine = s.host.engine.opened s.supervisor.mode.attributes ∧
      (runInFreshRuntime script bytecode s).1 = (runScript script (some bytecode) s₁).1 ∧
      SameResults (runScript script (some bytecode) s₁).2.host
        (runInFreshRuntime script bytecode s).2.host := by
  let active : ActiveContext :=
    ⟨⟨⟨s.host.engine.issued + 2⟩, s.host.engine.current⟩, ⟨⟨s.host.engine.issued + 1⟩⟩⟩
  obtain ⟨h₂, hopen, he₂⟩ : ∃ h₂,
      Host.openContext s.supervisor.mode.attributes s.host = (.ok active, h₂) ∧
        h₂.engine = s.host.engine.opened s.supervisor.mode.attributes :=
    Host.openContext_apply hbase hfree _
  obtain ⟨s₃, hdebug, he₃⟩ : ∃ s₃, onHost (Host.debug
      s!"running serialized byte code in {active.runtime.runtime.render} / {active.scope.context.render}")
      { s with host := h₂ } = ((.ok () : Ending HostError Unit), s₃) ∧ s₃.host.engine = h₂.engine :=
    ⟨_, rfl, rfl⟩
  refine ⟨s₃, he₃.trans he₂, ?_⟩
  rw [runInFreshRuntime, Step.bind_state_apply,
    Step.bind_apply_of_ok _ (onHost_of hopen), Step.bind_apply_of_ok _ hdebug]
  have hinside : EnteredBy s.host.engine active.runtime.runtime active.scope s₃.host.engine := by
    rw [he₃, he₂]
    exact ⟨rfl, Engine.entered_opened hbase (hfree _) _⟩
  -- again only what is no fault is closed
  rcases hrun : runScript script (some bytecode) s₃ with ⟨ending, s₄⟩
  obtain ⟨payload, rfl⟩ | ⟨ran, rfl⟩ := ending.fault_or_ofExcept
  · rw [Step.bind_apply_of_fault _ (Step.attempt_onFault_of_fault _ hrun)]
    exact ⟨rfl, rfl, rfl⟩
  · have hkeeps : Step.Keeps (Having (EnteredBy s.host.engine active.runtime.runtime active.scope))
        (runScript script (some bytecode)) := keeps_runScript enteredBy_inside script _
    obtain ⟨h₅, hclose, hsame⟩ := Host.close_apply hbase (hfree _) (hkeeps.ofExcept_eq hinside hrun)
    rw [Step.bind_apply_of_ok _ (Step.attempt_onFault_of_except _ hrun),
      Step.bind_apply_of_ok _ (onHost_of (Step.attempt_apply_of_ok hclose))]
    refine ⟨?_, hsame⟩
    cases ran <;> rfl

theorem run_apply {s : Supervised} (script : Script) (hidle : s.supervisor.state = .idle) :
    (run script s).1 = outcomeOf (execute script s).1 ∧
      SameResults (execute script s).2.host (run script s).2.host := by
  rcases hexecute : execute script s with ⟨ending, s'⟩
  have hresult : result script s = ((execute script).attempt : Step Supervised Empty _) s := by
    rw [result, if_pos hidle]
  obtain ⟨payload, rfl⟩ | ⟨r, rfl⟩ := ending.fault_or_ofExcept
  · have hfault : result script s = (.fault payload, s') := by
      rw [hresult, Step.attempt, hexecute]
    rw [run, Step.bind_apply_of_fault _ hfault]
    exact ⟨rfl, rfl, rfl⟩
  · have hreturned : result script s = (.ok r, s') := by
      rw [hresult, Step.attempt, hexecute]
      cases r <;> rfl
    rw [run, Step.bind_apply_of_ok _ hreturned, outcomeOf_ofExcept]
    exact ⟨rfl, rfl, rfl⟩

theorem fullPath_of_not_isEmpty {script : Script} (hpath : script.path.isEmpty = false)
    (workingDirectory : Location) : ∃ path, script.fullPath workingDirectory = .ok path := by
  unfold Script.fullPath
  cases hfull : script.path.full? workingDirectory with
  | some path => exact ⟨path, rfl⟩
  | none =>
    rw [Path.full?_eq_none_iff, hpath] at hfull
    cases hfull

/-- A whole run ends, prints and leaves files as what its mode does in a new context. -/
theorem run_of_dispatch {s : Supervised} (script : Script) (hbase : s.host.engine.WellFormed)
    (hfree : ∀ op, s.host.engine.injected op = none) (hidle : s.supervisor.state = .idle) :
    ∃ s₁, s₁.host.engine = s.host.engine.opened s.supervisor.mode.attributes ∧
      s₁.host.files = s.host.files ∧ s₁.supervisor.mode = s.supervisor.mode ∧
      (run script s).1 = outcomeOf (dispatch script s₁).1 ∧
      SameResults (dispatch script s₁).2.host (run script s).2.host := by
  obtain ⟨hend, hsame⟩ := run_apply script hidle
  obtain ⟨s₁, he₁, hf₁, hm₁, hending, hsame₁⟩ := execute_apply script hbase hfree
  exact ⟨s₁, he₁, hf₁, hm₁, by rw [hend, hending], hsame₁.trans hsame⟩

end Supervised
end ScriptHost

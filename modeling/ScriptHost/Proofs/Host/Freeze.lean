import ScriptHost.Proofs.Host.Containment
import ScriptHost.Proofs.Host.Executed
import ScriptHost.Proofs.Host.Faults
import ScriptHost.Proofs.Host.FirstFailure

/- A fault freezes the engine. It is raised by a statement, and from there on every guard
   that it passes leaves the engine alone: what is left is the engine that the statement
   was executed in, with the runtimes that the run has opened live, the innermost context
   current and the hook of the run on it.

   What is proved:
     1. `runScript_fault` — what a fault leaves of an engine that a script is run in.
     2. `execute_fault` — what it leaves of the engine that a whole run began with.
     3. `fault_freezes` — a fault statement that is executed ends the run, which is contained
        as its code, and a worker reports it or hands it on by its policy, with the same engine.
     4. `exists_fault_of_run` — a run that faults has executed such a statement. -/
namespace ScriptHost

open Step (Returns)

/-! Scenes. -/

namespace Engine

theorem scene_handled (e : Engine) (error : Option ErrorCode) :
    (e.handled error).scene = e.scene := by
  obtain ⟨x, heq, -⟩ := handled_eq e error
  rw [heq]
  rfl

theorem scene_callTask (e : Engine) (task : TaskId) : (e.callTask task).engine.scene = e.scene := by
  unfold callTask
  split
  · rfl
  split
  · rfl
  split
  · rfl
  rename_i id c hc
  split
  · rfl
  · rw [scene_execute]
    exact scene_of_tasks hc _ e.issued

/-- What a fault leaves of an engine in which a script is run: the run was begun and its hook is
    on the current context, and nothing else of the scene has changed. -/
def Interrupted (e : Engine) (hook : Hook) (e' : Engine) : Prop :=
  ∃ run id c, run.IsRun ∧ e.currentContext? = some (id, c) ∧
    e'.scene = ⟨e.journal ++ [run], e.runtimes, e.current, some (id, c.runtime, some hook)⟩

theorem scene_setHook {e e' : Engine} {hook : Option Hook} (h : e.setHook hook = (.ok (), e')) :
    ∃ id c, e.currentContext? = some (id, c) ∧
      e'.scene = ⟨e.journal, e.runtimes, e.current, some (id, c.runtime, hook)⟩ := by
  rcases e.setHook_cases hook with ⟨code, heq⟩ | ⟨-, id, c, hc, heq⟩ <;> cases heq.symm.trans h
  refine ⟨id, c, hc, ?_⟩
  rw [scene, currentContext?_insert hc _ e.issued]
  rfl

end Engine

namespace Host

variable {h h' : Host} {op : Operation} {f : Engine → Execution}

theorem performStep_fault {payload : Payload} (hstep : performStep op f h = (.fault payload, h')) :
    (f h.engine).ending = .fault payload ∧ h'.engine = (f h.engine).engine := by
  unfold performStep perform at hstep
  rcases hx : f h.engine with ⟨⟨⟩ | error | payload', e, signals⟩ <;> rw [hx] at hstep <;>
    cases hstep
  exact ⟨rfl, rfl⟩

theorem performStep_ok {ran : Except HostError Unit} {signals : List Signal}
    (hstep : performStep op f h = (.ok (ran, signals), h')) :
    signals = (f h.engine).signals ∧
      h'.engine = (f h.engine).engine.handled (f h.engine).ending.error? := by
  have hengine : (performStep op f h).2.engine =
      (f h.engine).engine.handled (f h.engine).ending.error? := by
    rw [snd_performStep, engine_perform]
  have hsignals := h.signals_perform op f
  rw [hstep] at hengine
  refine ⟨?_, hengine⟩
  rw [← hsignals]
  unfold performStep at hstep
  generalize h.perform op f = p at hstep
  obtain ⟨ending, signals', h₁⟩ := p
  cases ending <;> cases hstep <;> rfl

end Host

namespace Supervised

variable {s s' : Supervised} {payload : Payload}

theorem returns_onHost {ε α : Type} {m : Step Host ε α} (hm : Returns m) : Returns (onHost m) :=
  fun s => hm s.host

theorem onHost_eq {ε α : Type} {m : Step Host ε α} {x : Ending ε α} (h : onHost m s = (x, s')) :
    m s.host = (x, s'.host) ∧ s'.supervisor = s.supervisor := by
  obtain ⟨hending, rfl⟩ := Prod.mk.inj h
  exact ⟨Prod.ext hending rfl, rfl⟩

theorem returns_noteFailure (front : String) (r : Except HostError Unit) :
    Returns (noteFailure front r) := fun _ => by
  cases r <;> rfl

/-! The run of a script. -/

/-- The call that runs a script begins with an entry of the journal, however it goes on. -/
theorem runCall_performs (script : Script) (bytecode : Option (List UInt8)) (tag : SourceContext) :
    ∃ op f run, runCall script bytecode tag = Host.performStep op f ∧ run.IsRun ∧
      ∀ e, ∃ ss, Engine.Performs e [run] (f e) ss := by
  cases bytecode with
  | none =>
    exact ⟨_, _, .runScript tag, rfl, trivial, fun e => ⟨_, e.performs_runScript script.text tag⟩⟩
  | some bytes =>
    exact ⟨_, _, .runSerializedScript tag, rfl, trivial,
      fun e => ⟨_, e.performs_runSerialized bytes tag⟩⟩

/-- The tasks of a drain change nothing of the scene. -/
theorem scene_drain (hook : Hook) (queue : TaskQueue) (s : Supervised) :
    (drain hook queue s).2.host.engine.scene = s.host.engine.scene := by
  have hkeeps : (queue.settle (Host.taskCallback hook) s.host).state.engine.scene =
      s.host.engine.scene := by
    refine TaskQueue.settle_keeps (P := fun h : Host => h.engine.scene = s.host.engine.scene)
      ?_ queue s.host rfl
    intro h t hh
    show (h.perform .callTask (·.callTask t.callback)).host.engine.scene = _
    rw [Host.engine_perform, Engine.scene_handled, Engine.scene_callTask]
    exact hh
  unfold drain
  dsimp only
  split <;> exact hkeeps

theorem drain_empty (hook : Hook) (s : Supervised) :
    (drain hook (TaskQueue.empty.receive hook []) s).1.fault? = none := by
  have hempty : TaskQueue.empty.receive hook [] = TaskQueue.empty := rfl
  have hpop : TaskQueue.empty.pop? = none := rfl
  unfold drain
  rw [hempty, TaskQueue.settle_eq_settled, TaskQueue.drain_eq, hpop]
  rfl

/-- The main program faults, or one of the tasks does that it deferred. Either way the run was
    begun, and the scene is as it was. -/
theorem runThenDrain_fault {script : Script} {bytecode : Option (List UInt8)} {hook : Hook}
    {tag : SourceContext}
    (h : (Traced.runThenDrain script bytecode hook tag).step s = (.fault payload, s')) :
    ∃ run, run.IsRun ∧ s'.host.engine.scene =
      { s.host.engine.scene with journal := s.host.engine.journal ++ [run] } := by
  simp only [Traced.runThenDrain, Traced.bind_step, Traced.onHost_step, Traced.runCall_step] at h
  obtain ⟨op, f, run, heq, hrun, hperforms⟩ := runCall_performs script bytecode tag
  obtain ⟨ss, hperforms⟩ := hperforms s.host.engine
  rw [heq] at h
  refine ⟨run, hrun, ?_⟩
  rcases Step.bind_eq_fault h with hmain | ⟨⟨ran, signals⟩, s₁, hmain, hrest⟩
  · -- the main program faults, so it was not refused
    obtain ⟨hending, hengine⟩ := Host.performStep_fault (onHost_eq hmain).1
    rcases hperforms.scene with ⟨-, hgoes, -⟩ | hscene
    · exact absurd hending (hgoes payload)
    · rw [hengine, hscene]
  · -- the main program returns, so it is the drain that faults: nothing after it can
    obtain ⟨hsignals, hengine⟩ := Host.performStep_ok (onHost_eq hmain).1
    obtain ⟨u, s₂, hnote, hrest⟩ := Returns.bind_eq_fault (returns_noteFailure _ _) hrest
    have hnoted : s₂.host.engine = s₁.host.engine := by
      cases ran <;> cases hnote <;> rfl
    obtain ⟨u, s₃, hmove, hrest⟩ := Returns.bind_eq_fault (.change _) hrest
    cases hmove
    have hdrain : drain hook (TaskQueue.empty.receive hook signals) (moved .draining s₂) =
        (.fault payload, s') :=
      Step.bind_eq_fault_of_returns (fun _ => .bind (returns_noteFailure _ _) fun _ =>
        .bind (.change _) fun _ => .ofExcept _) hrest
    rcases hperforms.scene with ⟨-, -, hnone⟩ | hscene
    · -- a run that was refused has told the hook of no task
      have hempty := drain_empty hook (moved .draining s₂)
      rw [hsignals, hnone] at hdrain
      rw [hdrain] at hempty
      cases hempty
    · have hkept := scene_drain hook (TaskQueue.empty.receive hook signals) (moved .draining s₂)
      rw [hdrain] at hkept
      rw [hkept]
      show s₂.host.engine.scene = _
      rw [hnoted, hengine, Engine.scene_handled, hscene]

theorem runScript_fault {script : Script} {bytecode : Option (List UInt8)}
    (h : runScript script bytecode s = (.fault payload, s')) :
    s.host.engine.Interrupted ⟨s.host.hooks⟩ s'.host.engine := by
  obtain ⟨hook, s₁, hnew, h⟩ := Returns.bind_eq_fault (returns_onHost fun _ => rfl) h
  cases hnew
  obtain ⟨u, s₂, hinstall, h⟩ := Returns.bind_eq_fault (returns_onHost (Host.fault?_call _ _)) h
  obtain ⟨e, hset, hs₂⟩ := Host.call_eq_ok (onHost_eq hinstall).1
  obtain ⟨id, c, hc, hscene⟩ := Engine.scene_setHook hset
  obtain ⟨u, s₃, hmove, h⟩ := Returns.bind_eq_fault (.change _) h
  cases hmove
  obtain ⟨tag, s₄, htag, h⟩ := Returns.bind_eq_fault (returns_onHost fun _ => rfl) h
  have hengine : s₄.host.engine = e := by
    cases htag
    show s₂.host.engine = e
    rw [hs₂]
  have hrest : (Traced.runThenDrain script bytecode ⟨s.host.hooks⟩ tag).step s₄ =
      (.fault payload, s') := by
    cases bytecode <;> exact h
  obtain ⟨run, hrun, hs'⟩ := runThenDrain_fault hrest
  refine ⟨run, id, c, hrun, hc, ?_⟩
  have hjournal : e.journal = s.host.engine.journal := congrArg Engine.Scene.journal hscene
  rw [hs', hengine, hscene, hjournal]
  rfl

/-! A whole run. -/

theorem snd_ofExcept {α : Type} {r : Except HostError α} {a : α}
    (h : (Step.ofExcept r : SupervisedStep α) s = (.ok a, s')) : s' = s :=
  (congrArg Prod.snd h).symm

theorem runInFreshRuntime_fault {script : Script} {bytecode : List UInt8}
    (h : runInFreshRuntime script bytecode s = (.fault payload, s')) :
    (s.host.engine.opened s.supervisor.mode.attributes).Interrupted ⟨s.host.hooks⟩
      s'.host.engine := by
  rw [runInFreshRuntime, Step.bind_state_apply] at h
  obtain ⟨active, s₁, hopen, h⟩ :=
    Returns.bind_eq_fault (returns_onHost (Traced.returns_opening.openContext _)) h
  obtain ⟨hengine, hhooks⟩ := Host.openContext_eq_ok (onHost_eq hopen).1
  obtain ⟨u, s₂, hnote, h⟩ := Returns.bind_eq_fault (returns_onHost (.change _)) h
  cases hnote
  have hran := Step.attempt_eq_fault (Step.bind_eq_fault_of_returns (fun _ =>
    .bind (returns_onHost (.attempt (Traced.returns_opening.close active))) fun _ => .ofExcept _) h)
  obtain ⟨t, hscript, rfl⟩ := Step.onFault_eq_fault hran
  have hinterrupted := runScript_fault hscript
  rw [← hengine, ← hhooks]
  exact hinterrupted

end Supervised

/-- The engine that a script is run in, once a context is entered: in serialized mode, one with
    another runtime opened. -/
def Engine.innerFor (e : Engine) (mode : Mode) : Engine :=
  if mode = .serialized then e.opened mode.attributes else e

namespace Supervised

variable {s s' : Supervised} {payload : Payload}

theorem dispatch_fault {script : Script} (h : dispatch script s = (.fault payload, s')) :
    (s.host.engine.innerFor s.supervisor.mode).Interrupted ⟨s.host.hooks⟩ s'.host.engine := by
  rw [dispatch, Step.bind_state_apply] at h
  obtain ⟨path, s₁, hpath, h⟩ := Returns.bind_eq_fault (.ofExcept _) h
  cases snd_ofExcept hpath
  rw [Engine.innerFor]
  cases hmode : s.supervisor.mode with
  | source =>
    simp only [hmode] at h
    exact runScript_fault h
  | preSerialized path =>
    simp only [hmode] at h
    obtain ⟨u, s₂, hutf8, h⟩ := Returns.bind_eq_fault (.ofExcept _) h
    cases snd_ofExcept hutf8
    obtain ⟨bytes, s₃, hread, h⟩ :=
      Returns.bind_eq_fault (returns_onHost (Traced.returns_emitting.readBytecode path)) h
    have hinterrupted := runScript_fault h
    rw [Host.readBytecode_eq_ok (onHost_eq hread).1] at hinterrupted
    exact hinterrupted
  | serialized =>
    simp only [hmode] at h
    obtain ⟨u, s₂, hutf8, h⟩ := Returns.bind_eq_fault (.ofExcept _) h
    cases snd_ofExcept hutf8
    obtain ⟨u, s₃, hmove, h⟩ := Returns.bind_eq_fault (.change _) h
    cases hmove
    obtain ⟨bytes, s₄, hserialize, h⟩ :=
      Returns.bind_eq_fault (returns_onHost (Traced.returns_emitting.serialize _)) h
    obtain ⟨hserialized, hsupervisor⟩ := onHost_eq hserialize
    have hleft := Host.serialize_eq_ok hserialized
    have hinterrupted := runInFreshRuntime_fault h
    rw [hleft.engine, hleft.hooks, hsupervisor] at hinterrupted
    rw [if_pos rfl, ← hmode]
    exact hinterrupted
  -- byte code that is only written is not run
  | emitHeader output =>
    simp only [hmode] at h
    refine absurd h (Returns.ne_fault ?_)
    exact .bind (.ofExcept _) fun _ => .bind (.ofExcept _) fun _ => .bind (.change _) fun _ =>
      returns_onHost (Traced.returns_emitting.emitHeader _ _ _)
  | emitBytecode output =>
    simp only [hmode] at h
    refine absurd h (Returns.ne_fault ?_)
    exact .bind (.ofExcept _) fun _ => .bind (.change _) fun _ =>
      returns_onHost (Traced.returns_emitting.emitBytecode _ _)

/-- Wherever a run faults, what it has opened stays open and its script was being run in it. -/
theorem execute_fault {script : Script} (h : execute script s = (.fault payload, s')) :
    ((s.host.engine.opened s.supervisor.mode.attributes).innerFor s.supervisor.mode).Interrupted
      ⟨s.host.hooks⟩ s'.host.engine := by
  rw [execute, Step.bind_state_apply] at h
  obtain ⟨runtime, s₁, hcreate, h⟩ :=
    Returns.bind_eq_fault (returns_onHost (Traced.returns_opening.createRuntime _)) h
  obtain ⟨hcreate, hsupervisor⟩ := onHost_eq hcreate
  obtain ⟨rfl, hcreated, hhooks⟩ := Host.createRuntime_eq_ok hcreate
  obtain ⟨u, s₂, hmove, h⟩ := Returns.bind_eq_fault (.change _) h
  cases hmove
  obtain ⟨scope, s₃, henter, h⟩ :=
    Returns.bind_eq_fault (returns_onHost (Traced.returns_opening.enterNew _)) h
  obtain ⟨henter, hsupervisor'⟩ := onHost_eq henter
  obtain ⟨hentered, hhooks'⟩ := Host.enterNew_eq_ok henter
  obtain ⟨u, s₄, hmove, h⟩ := Returns.bind_eq_fault (.change _) h
  cases hmove
  -- no guard was asked to end: the fault has passed both
  have hran := Step.attempt_eq_fault (Step.bind_eq_fault_of_returns (fun _ =>
    .bind (returns_onHost (.attempt (Traced.returns_opening.exit scope))) fun _ =>
    .bind (returns_onHost (.attempt (Traced.returns_opening.dispose _))) fun _ => .ofExcept _) h)
  obtain ⟨t, hdispatch, rfl⟩ := Step.onFault_eq_fault hran
  have hmode : s₃.supervisor.mode = s.supervisor.mode := by
    rw [hsupervisor']
    show s₁.supervisor.mode = s.supervisor.mode
    rw [hsupervisor]
  have hengine : s₃.host.engine = s.host.engine.opened s.supervisor.mode.attributes := by
    rw [hentered]
    show (s₁.host.engine.withContext _).withCurrent (some ⟨s₁.host.engine.issued + 1⟩) = _
    rw [hcreated]
    rfl
  have hhook : s₃.host.hooks = s.host.hooks := hhooks'.trans hhooks
  have hinterrupted := dispatch_fault hdispatch
  rw [← hmode] at hengine ⊢
  rw [← hengine, ← hhook]
  exact hinterrupted

end Supervised

/-! What is left, in the numbers of the engine that a run began with. -/

/-- The runtimes that a run opens before it executes statements, when so many numbers were handed
    out: each takes one number for itself and one for its context. -/
def Mode.opens (mode : Mode) (issued : Nat) : List (RuntimeId × Attributes) :=
  (⟨issued + 1⟩, mode.attributes) ::
    if mode = .serialized then [(⟨issued + 3⟩, mode.attributes)] else []

/-- The journal entries of opening a runtime and a context in it. -/
def JournalEntry.opening (r : RuntimeId × Attributes) : List JournalEntry :=
  [.createRuntime r.1 r.2, .createContext ⟨r.1.value + 1⟩,
    .setCurrentContext (some ⟨r.1.value + 1⟩)]

/-- What a fault leaves of the engine of a host that a script was run with: the runtimes opened
    are live, the last entry of the journal is that of the run, and the context in the innermost
    of the runtimes is current, with the hook of the run on it. -/
structure Frozen (h : Host) (mode : Mode) (e : Engine) : Prop where
  runtimes : e.runtimes.entries = h.engine.runtimes.entries ++ mode.opens h.engine.issued
  journal : ∃ run, run.IsRun ∧ e.journal =
    h.engine.journal ++ (mode.opens h.engine.issued).flatMap JournalEntry.opening ++ [run]
  current : ∃ r c, (mode.opens h.engine.issued).getLast? = some r ∧
    e.currentContext? = some (⟨r.1.value + 1⟩, c) ∧ c.runtime = r.1 ∧ c.hook = some ⟨h.hooks⟩

theorem Engine.runtimes_opened {e : Engine} (hle : ∀ r ∈ e.runtimes.keys, r.value ≤ e.issued)
    (a : Attributes) :
    (e.opened a).runtimes.entries = e.runtimes.entries ++ [(⟨e.issued + 1⟩, a)] ∧
      ∀ r ∈ (e.opened a).runtimes.keys, r.value ≤ (e.opened a).issued := by
  have hnew : (⟨e.issued + 1⟩ : RuntimeId) ∉ e.runtimes.keys := by
    intro hmem
    exact absurd (hle _ hmem) (by simp)
  have hentries : (e.opened a).runtimes.entries = e.runtimes.entries ++ [(⟨e.issued + 1⟩, a)] :=
    Table.entries_insert_of_not_mem a hnew
  refine ⟨hentries, fun r hr => ?_⟩
  have hissued : (e.opened a).issued = e.issued + 2 := rfl
  obtain ⟨attributes, hentry⟩ := Table.mem_keys_iff.1 hr
  rw [hentries] at hentry
  rcases List.mem_append.1 hentry with hentry | hentry
  · have hold := hle r (Table.mem_keys_iff.2 ⟨attributes, hentry⟩)
    omega
  · obtain ⟨rfl, -⟩ := Prod.mk.inj (List.mem_singleton.1 hentry)
    show e.issued + 1 ≤ (e.opened a).issued
    omega

/-- An interrupted engine in full: its journal, its runtimes and its current context. -/
theorem Engine.Interrupted.fields {e e' : Engine} {hook : Hook} (h : e.Interrupted hook e') :
    (∃ run, run.IsRun ∧ e'.journal = e.journal ++ [run]) ∧ e'.runtimes = e.runtimes ∧
      ∀ id c, e.currentContext? = some (id, c) →
        ∃ c', e'.currentContext? = some (id, c') ∧ c'.runtime = c.runtime ∧ c'.hook = some hook := by
  obtain ⟨run, id, c, hrun, hc, hscene⟩ := h
  refine ⟨⟨run, hrun, congrArg Scene.journal hscene⟩, congrArg Scene.runtimes hscene, ?_⟩
  intro id' c' hc'
  obtain ⟨rfl, rfl⟩ := Prod.mk.inj (Option.some.inj (hc.symm.trans hc'))
  obtain ⟨⟨id', c'⟩, hcurrent, heq⟩ := Option.map_eq_some_iff.1 (congrArg Scene.entered hscene)
  obtain ⟨rfl, hrest⟩ := Prod.mk.inj heq
  obtain ⟨hruntime, hhook⟩ := Prod.mk.inj hrest
  exact ⟨c', hcurrent, hruntime, hhook⟩

theorem frozen_of_interrupted {h : Host} {mode : Mode} {e : Engine} (hreach : h.engine.Reachable)
    (hi : ((h.engine.opened mode.attributes).innerFor mode).Interrupted ⟨h.hooks⟩ e) :
    Frozen h mode e := by
  have hle := fun r => (Engine.wellFormed_of_reachable hreach).le_of_mem_runtimes (r := r)
  obtain ⟨hfirst, hle'⟩ := Engine.runtimes_opened hle mode.attributes
  obtain ⟨⟨run, hrun, hjournal⟩, hruntimes, hcurrent⟩ := hi.fields
  -- in serialized mode the script runs in a second runtime, opened over the first
  by_cases hmode : mode = .serialized
  · obtain ⟨hsecond, -⟩ := Engine.runtimes_opened hle' mode.attributes
    rw [Engine.innerFor, if_pos hmode] at hjournal hruntimes hcurrent
    obtain ⟨c, hc, hruntime, hhook⟩ := hcurrent _ _ (Engine.currentContext?_opened _ _)
    have hopens : mode.opens h.engine.issued =
        [(⟨h.engine.issued + 1⟩, mode.attributes), (⟨h.engine.issued + 3⟩, mode.attributes)] := by
      rw [Mode.opens, if_pos hmode]
    refine ⟨?_, ⟨run, hrun, ?_⟩, _, c, by rw [hopens]; rfl, hc, hruntime, hhook⟩
    · rw [hruntimes, hsecond, hfirst, hopens, List.append_assoc]
      rfl
    · rw [hjournal, hopens]
      simp [Engine.opened, Engine.withRuntime, Engine.withContext, Engine.withCurrent,
        JournalEntry.opening]
  · rw [Engine.innerFor, if_neg hmode] at hjournal hruntimes hcurrent
    obtain ⟨c, hc, hruntime, hhook⟩ := hcurrent _ _ (Engine.currentContext?_opened _ _)
    have hopens : mode.opens h.engine.issued = [(⟨h.engine.issued + 1⟩, mode.attributes)] := by
      rw [Mode.opens, if_neg hmode]
    refine ⟨?_, ⟨run, hrun, ?_⟩, _, c, by rw [hopens]; rfl, hc, hruntime, hhook⟩
    · rw [hruntimes, hfirst, hopens]
    · rw [hjournal, hopens]
      simp [Engine.opened, Engine.withRuntime, Engine.withContext, Engine.withCurrent,
        JournalEntry.opening]

namespace Supervised

variable {script : Script} {mode : Mode} {h : Host} {code : UInt32}

/-- The statements that a run executes, in order: those of the main program, and then those of the
    tasks that are called. -/
def executed (script : Script) (s : Supervised) : List Executed :=
  (attempts script s).flatMap (·.executed)

theorem shows_run (script : Script) (mode : Mode) (h : Host) :
    Engine.Shows h.engine (executed script (h.under mode)) (run script (h.under mode)).1.fault?
      (run script (h.under mode)).2.host.engine := by
  have hshows := ((Traced.execute script).accounts (h.under mode)).shows
  rw [Traced.execute_step] at hshows
  obtain ⟨hending, -⟩ := run_apply (s := h.under mode) script rfl
  rw [engine_run (s := h.under mode) script rfl, hending]
  have hfault : (outcomeOf (execute script (h.under mode)).1).fault? =
      (execute script (h.under mode)).1.fault? := by
    cases (execute script (h.under mode)).1 with
    | ok u => rfl
    | error e => rfl
    | fault payload => rfl
  rw [hfault]
  exact hshows

/-- A run that faults has executed a statement that does, and what was raised is its code. -/
theorem exists_fault_of_run {payload : Payload} {s' : Supervised}
    (hrun : run script (h.under mode) = (.fault payload, s')) :
    ∃ x ∈ executed script (h.under mode), ∃ code,
      payload = .structured code ∧ x.fault? = some code := by
  refine (shows_run script mode h).exists_fault ?_
  rw [hrun]
  rfl

theorem frozen_of_run {payload : Payload} {s' : Supervised} (hreach : h.engine.Reachable)
    (hrun : run script (h.under mode) = (.fault payload, s')) : Frozen h mode s'.host.engine := by
  obtain ⟨hending, -⟩ := run_apply (s := h.under mode) script rfl
  have hengine := engine_run (s := h.under mode) script rfl
  rcases hexecute : execute script (h.under mode) with ⟨ending, t⟩
  rw [hrun, hexecute] at hending hengine
  cases ending with
  | ok u => cases hending
  | error e => cases hending
  | fault payload' =>
    have ht : s'.host.engine = t.host.engine := hengine
    rw [ht]
    exact frozen_of_interrupted hreach (execute_fault hexecute)

/-- **A fault freezes the engine and keeps its code.** A run that executes a fault statement, in the
    main program or in a task at any depth, unwinds, and is contained as the code of the statement.
    The engine is left as the statement was executed in it: with all lines that were printed, with
    what the run has opened still open, and with nothing in the journal after the entry of the run.
    A worker that is started and reports faults has that one as its outcome; one that propagates
    faults hands on what counts as that code. Both leave the engine the same. -/
theorem fault_freezes {x : Executed} (hreach : h.engine.Reachable)
    (hx : x ∈ executed script (h.under mode)) (hfault : x.fault? = some code) :
    (∃ s', run script (h.under mode) = (.fault (.structured code), s') ∧
      contain (run script) (h.under mode) = (.error code, s') ∧ s'.host.engine = x.engine) ∧
    x.engine.output =
      h.engine.output ++ (executed script (h.under mode)).filterMap (·.printed?) ∧
    Frozen h mode x.engine ∧
    ∀ (refusal : ThreadRefusal) (stackSize : Nat), refusal stackSize = none →
      (∃ h', Worker.run refusal script mode ⟨stackSize, .report⟩ h =
        (.outcome (.fault code), h') ∧ h'.engine = x.engine) ∧
      ∃ payload h', Worker.run refusal script mode ⟨stackSize, .propagate⟩ h =
        (.propagated payload, h') ∧ payload.code = code ∧ h'.engine = x.engine := by
  have hshows := shows_run script mode h
  obtain ⟨hending, hengine⟩ := hshows.fault_of_mem hx hfault
  rcases hrun : run script (h.under mode) with ⟨ending, s'⟩
  rw [hrun] at hshows hending hengine
  obtain rfl : ending = .fault (.structured code) := by
    cases ending with
    | ok outcome => cases hending
    | error e => cases hending
    | fault payload =>
      cases hending
      rfl
  have hs' : s'.host.engine = x.engine := hengine
  refine ⟨⟨s', rfl, contain_structured hrun, hs'⟩, hs' ▸ hshows.output,
    hs' ▸ frozen_of_run hreach hrun, fun refusal stackSize hstarts => ?_⟩
  have hworker : ∀ policy, ∃ h', Worker.run refusal script mode ⟨stackSize, policy⟩ h =
      (policy.handsOn (.fault (.structured code)), h') ∧ h'.engine = x.engine := by
    intro policy
    let options : WorkerOptions := ⟨stackSize, policy⟩
    have hstarted : refusal options.stackSize = none := hstarts
    obtain ⟨hresult, hleft⟩ := Worker.run_of_started hstarted script mode h
    rw [hrun] at hresult hleft
    exact ⟨_, Prod.ext hresult rfl, hleft.trans hs'⟩
  obtain ⟨h', hpropagate, hleft⟩ := hworker .propagate
  exact ⟨hworker .report, _, h', hpropagate, rfl, hleft⟩

/-- A script that faults in a task that a task has deferred. -/
def crashing : Script :=
  .ofText (.ofText "a.js") "print a\ndefer defer fault 0xc0000005\ndefer print b"

/-- In serialized mode both runtimes are left, and what was printed before the fault. -/
theorem fault_freezes_crashing :
    ∃ x ∈ executed crashing (emptyHost.under .serialized), x.fault? = some 0xc0000005 ∧
      x.engine.output = ["a", "b"] ∧ Frozen emptyHost .serialized x.engine ∧
      ∃ h', Worker.run (fun _ => none) crashing .serialized { faultPolicy := .report } emptyHost =
        (.outcome (.fault 0xc0000005), h') ∧ h'.engine = x.engine := by
  have hending : (run crashing (emptyHost.under .serialized)).1 =
      .fault (.structured 0xc0000005) := by
    decide +kernel
  have houtput : (run crashing (emptyHost.under .serialized)).2.host.engine.output = ["a", "b"] := by
    decide +kernel
  rcases hrun : run crashing (emptyHost.under .serialized) with ⟨ending, s'⟩
  rw [hrun] at hending houtput
  obtain rfl : ending = .fault (.structured 0xc0000005) := hending
  obtain ⟨x, hx, code, hpayload, hfault⟩ := exists_fault_of_run hrun
  cases hpayload
  obtain ⟨⟨s'', hrun', -, hengine⟩, -, hfrozen, hworker⟩ :=
    fault_freezes Engine.Reachable.initial hx hfault
  obtain ⟨-, rfl⟩ := Prod.mk.inj (hrun.symm.trans hrun')
  exact ⟨x, hx, hfault, hengine ▸ houtput, hfrozen, (hworker _ defaultStackSize rfl).1⟩

end Supervised
end ScriptHost

import ScriptHost.Proofs.Host.DrainCount
import ScriptHost.Proofs.Host.History
import ScriptHost.Proofs.Host.Silence

/- The drain of a run. Around it a run neither executes nor counts anything (`Undrained`), so
   the one drain it makes (`Drains`) is all there is to find in its log and in its supervisor.

   What is proved: `once_execute`, by the rules for steps that drain at most once, and
   `drains_in_one_pass`, the drain of a run, counted. -/
namespace ScriptHost

open Engine (Waiting Adds)

variable {hook : Hook} {id : ContextId}

/-! What a drain leaves in a log. -/

/-- The hooks that the call of an attempt calls, in order. -/
def Attempt.told (a : Attempt) : List Signal :=
  match a.act.call? with
  | some (_, call) => a.engine.told call
  | none => []

/-- Nothing is left of what a call deferred: the queue of what it told the hook is drained empty,
    and in the context it was made in no task is pending. -/
def NothingLeft (call drain : Attempt) : Prop :=
  ∃ hook id c queue s s', s.host.engine = drain.engine ∧
    Supervised.drain hook (TaskQueue.empty.receive hook call.told) s = (.ok (.ok (), queue), s') ∧
    queue.isEmpty = true ∧ call.engine.currentContext?.map Prod.fst = some id ∧
    s'.host.engine.currentContext? = some (id, c) ∧ c.hook = some hook ∧ c.tasks.entries = []

/-- From one state to another nothing is executed, and nothing is drained or counted. -/
structure Undrained (s : Supervised) (l : Log) (s' : Supervised) : Prop where
  unexecuted : ∀ a ∈ l, ¬ a.act.Executes
  passes : s'.supervisor.drainPasses = s.supervisor.drainPasses
  invoked : s'.supervisor.tasksInvoked = s.supervisor.tasksInvoked
  history : .draining ∈ s'.supervisor.history → .draining ∈ s.supervisor.history

/-- From a state after the call that ran a script: what it deferred is drained in one pass, and
    after that nothing is executed. -/
structure DrainsAfter (call : Attempt) (s : Supervised) (l : Log) (s' : Supervised) : Prop where
  log : ∃ drain calls after, l = drain :: (calls ++ after) ∧ drain.act = .drain ∧
    (∀ a ∈ calls, ∃ task, a.act = .callTask task) ∧ (∀ a ∈ after, ¬ a.act.Executes) ∧
    calls.length ≤ depthOf call.executed ∧
    ((∀ a ∈ calls, a.ending = .ok ()) →
      s'.supervisor.tasksInvoked = s.supervisor.tasksInvoked + depthOf call.executed ∧
      calls.length = depthOf call.executed ∧ NothingLeft call drain)
  passes : s'.supervisor.drainPasses = s.supervisor.drainPasses + 1

/-- From one state to another a script is run and what it deferred is drained, once. -/
def Drains (s : Supervised) (l : Log) (s' : Supervised) : Prop :=
  ∃ before call later, l = before ++ call :: later ∧ (∀ a ∈ before, ¬ a.act.Executes) ∧
    call.act.IsRun ∧ DrainsAfter call s later s'

variable {s s' s'' : Supervised} {l l' : Log} {call : Attempt}

theorem DrainsAfter.append (h : DrainsAfter call s l s') (h' : Undrained s' l' s'') :
    DrainsAfter call s (l ++ l') s'' where
  log := by
    obtain ⟨drain, calls, after, rfl, hdrain, hcalls, hafter, hcount, hdone⟩ := h.log
    refine ⟨drain, calls, after ++ l', ?_, hdrain, hcalls, ?_, hcount, ?_⟩
    · rw [List.cons_append, List.append_assoc]
    · exact List.forall_mem_append.2 ⟨hafter, h'.unexecuted⟩
    · rw [h'.invoked]
      exact hdone
  passes := h'.passes.trans h.passes

theorem DrainsAfter.of_counts (h : DrainsAfter call s' l s'')
    (hpasses : s'.supervisor.drainPasses = s.supervisor.drainPasses)
    (hinvoked : s'.supervisor.tasksInvoked = s.supervisor.tasksInvoked) :
    DrainsAfter call s l s'' where
  log := by
    rw [← hinvoked]
    exact h.log
  passes := by
    rw [← hpasses]
    exact h.passes

theorem Drains.append (h : Drains s l s') (h' : Undrained s' l' s'') : Drains s (l ++ l') s'' := by
  obtain ⟨before, call, later, rfl, hbefore, hrun, hdrains⟩ := h
  refine ⟨before, call, later ++ l', ?_, hbefore, hrun, hdrains.append h'⟩
  rw [List.append_assoc, List.cons_append]

theorem Undrained.drains (h : Undrained s l s') (h' : Drains s' l' s'') :
    Drains s (l ++ l') s'' := by
  obtain ⟨before, call, later, rfl, hbefore, hrun, hdrains⟩ := h'
  refine ⟨l ++ before, call, later, (List.append_assoc ..).symm, ?_, hrun,
    hdrains.of_counts h.passes h.invoked⟩
  exact List.forall_mem_append.2 ⟨h.unexecuted, hbefore⟩

theorem Undrained.append (h : Undrained s l s') (h' : Undrained s' l' s'') :
    Undrained s (l ++ l') s'' where
  unexecuted := List.forall_mem_append.2 ⟨h.unexecuted, h'.unexecuted⟩
  passes := h'.passes.trans h.passes
  invoked := h'.invoked.trans h.invoked
  history := h.history ∘ h'.history

namespace Traced

variable {α β : Type} {m : Traced Supervised α} {next : α → Traced Supervised β}

/-! Steps that drain nothing. -/

/-- A step that drains nothing from a state. -/
def Quiet (s : Supervised) (m : Traced Supervised α) : Prop :=
  Undrained s (m.log s) (m.step s).2

theorem quiet_of_still (hlog : ∀ a ∈ m.log s, ¬ a.act.Executes)
    (hsame : (m.step s).2.supervisor = s.supervisor) : Quiet s m where
  unexecuted := hlog
  passes := by rw [hsame]
  invoked := by rw [hsame]
  history := by
    rw [hsame]
    exact id

theorem quiet_of_logs {n : Traced Host α} {Q : α → Prop}
    (h : Logs (fun _ => True) (fun a => ¬ a.act.Executes) n Q) (s : Supervised) :
    Quiet s (onHost n) :=
  quiet_of_still (h.attempts trivial) rfl

theorem quiet_state (s : Supervised) : Quiet s state :=
  quiet_of_still (fun _ ha => nomatch ha) rfl

theorem quiet_settle (r : Except HostError α) (s : Supervised) : Quiet s (settle r) :=
  quiet_of_still (fun _ ha => nomatch ha) rfl

theorem quiet_ofExcept (r : Except HostError α) (s : Supervised) : Quiet s (ofExcept r) :=
  quiet_of_still (List.forall_mem_singleton.2 id) rfl

theorem quiet_noteFailure (front : String) (r : Except HostError Unit) (s : Supervised) :
    Quiet s (noteFailure front r) :=
  quiet_of_still (fun _ ha => nomatch ha) (by cases r <;> rfl)

theorem quiet_clearHook (queue : TaskQueue) (s : Supervised) : Quiet s (clearHook queue) :=
  quiet_of_still (List.forall_mem_singleton.2 id) rfl

theorem quiet_transition {state : SupervisorState} (hstate : state ≠ .draining) (s : Supervised) :
    Quiet s (transition state) where
  unexecuted _ ha := nomatch ha
  passes := rfl
  invoked := rfl
  history hmem := by
    have hmoved : SupervisorState.draining ∈ (s.supervisor.moveTo state).history := hmem
    rw [Supervisor.history_moveTo] at hmoved
    rcases List.mem_append.1 hmoved with hmoved | hmoved
    · exact hmoved
    · exact absurd (List.mem_singleton.1 hmoved).symm hstate

theorem Quiet.bind (hm : Quiet s m)
    (hnext : ∀ a s', m.step s = (.ok a, s') → Quiet s' (next a)) : Quiet s (m >>= next) := by
  unfold Quiet at hm ⊢
  rcases bind_cases m next s with ⟨a, s₁, hresult, hlog, hend⟩ | ⟨hlog, hend⟩
  · rw [hresult] at hm
    rw [hlog, hend]
    exact hm.append (hnext a s₁ hresult)
  · rw [hlog, hend]
    exact hm

/-! Steps that drain at most once. -/

/-- A step that does not get to draining, or drains once. -/
def Once (s : Supervised) (m : Traced Supervised α) : Prop :=
  (.draining ∈ (m.step s).2.supervisor.history → .draining ∈ s.supervisor.history) ∨
    Drains s (m.log s) (m.step s).2

theorem Quiet.once (h : Quiet s m) : Once s m := .inl h.history

theorem Once.bind (hm : Quiet s m) (hnext : ∀ a s', m.step s = (.ok a, s') → Once s' (next a)) :
    Once s (m >>= next) := by
  unfold Quiet at hm
  unfold Once
  rcases bind_cases m next s with ⟨a, s₁, hresult, hlog, hend⟩ | ⟨hlog, hend⟩
  · rw [hresult] at hm
    rw [hlog, hend]
    rcases hnext a s₁ hresult with hnever | honce
    · exact .inl (hm.history ∘ hnever)
    · exact .inr (hm.drains honce)
  · rw [hend]
    exact .inl hm.history

theorem Once.then (hm : Once s m) (hnext : ∀ a s', Quiet s' (next a)) : Once s (m >>= next) := by
  unfold Once at hm ⊢
  rcases bind_cases m next s with ⟨a, s₁, hresult, hlog, hend⟩ | ⟨hlog, hend⟩
  · rw [hresult] at hm
    rw [hlog, hend]
    rcases hm with hnever | honce
    · exact .inl (hnever ∘ (hnext a s₁).history)
    · exact .inr (honce.append (hnext a s₁))
  · rw [hlog, hend]
    exact hm

theorem Once.attempt (hm : Once s m) : Once s m.attempt := by
  have hstate : (m.attempt.step s).2 = (m.step s).2 := by
    rw [attempt_step, Step.attempt]
    rcases m.step s with ⟨a | e | payload, s₁⟩ <;> rfl
  unfold Once
  rw [hstate]
  exact hm

theorem Once.onFault {f : Host → Host} (hf : ∀ h, (f h).engine = h.engine) (hm : Once s m) :
    Once s (m.onFault (Supervised.changeHost f) (engine_changeHost hf)) := by
  have hsupervisor :
      ((m.onFault (Supervised.changeHost f) (engine_changeHost hf)).step s).2.supervisor
      = (m.step s).2.supervisor := by
    rw [onFault_step, Step.onFault]
    rcases m.step s with ⟨a | e | payload, s₁⟩ <;> rfl
  rcases hm with hnever | ⟨before, call, later, hlog, hbefore, hrun, hdrains⟩
  · refine .inl ?_
    rw [hsupervisor]
    exact hnever
  · refine .inr ⟨before, call, later, hlog, hbefore, hrun, ?_, ?_⟩
    · rw [hsupervisor]
      exact hdrains.log
    · rw [hsupervisor]
      exact hdrains.passes

/-! The run of a script. -/

/-- The call that runs a script tells the hook of tasks that come to as many calls as the
    statements executed have `defer`s. -/
theorem perform_adds {act : Act} {op : Operation} {f : Engine → Execution}
    (hacts : act.Calls op (fun e => (f e).ending) fun e => (f e).engine) {h h' : Host} {n : Nat}
    (hadds : Adds hook id [] (f h.engine) n) {ran : Except HostError Unit} {signals : List Signal}
    (hstep : (perform act op f hacts).step h = (.ok (ran, signals), h')) :
    signals = (f h.engine).signals ∧
      ∃ new, signals = hook.told new ∧ callsLeft new = n ∧ Waiting hook id new h'.engine := by
  obtain ⟨hsignals, hengine⟩ := Host.performStep_ok hstep
  obtain ⟨new, htold, hcalls, hwaiting⟩ := hadds
  refine ⟨hsignals, new, hsignals.trans htold, hcalls, ?_⟩
  rw [hengine]
  exact hwaiting.handled _

theorem runCall_adds (script : Script) (bytecode : Option (List UInt8)) (tag : SourceContext)
    {h : Host} (hw : Waiting hook id [] h.engine) :
    ∃ call : Attempt, (runCall script bytecode tag).log h = [call] ∧ call.act.IsRun ∧
      call.engine = h.engine ∧ ∀ {ran signals h'},
        (runCall script bytecode tag).step h = (.ok (ran, signals), h') →
        signals = call.told ∧ ∃ new, signals = hook.told new ∧
          callsLeft new = depthOf call.executed ∧ Waiting hook id new h'.engine := by
  cases bytecode with
  | none =>
    exact ⟨⟨h.engine, .runScript script.text tag⟩, rfl, trivial, rfl,
      perform_adds (calls_runScript script.text tag) (hw.runScript script.text tag)⟩
  | some bytes =>
    exact ⟨⟨h.engine, .runSerialized bytes tag⟩, rfl, trivial, rfl,
      perform_adds (calls_runSerialized bytes tag) (hw.runSerialized bytes tag)⟩

/-- Between the run and its drain may stand what has no log and does not count. -/
theorem drainsAfter_bind {a : α} (hlog : m.log s = []) (hm : m.step s = (.ok a, s'))
    (hpasses : s'.supervisor.drainPasses = s.supervisor.drainPasses)
    (hinvoked : s'.supervisor.tasksInvoked = s.supervisor.tasksInvoked)
    (h : DrainsAfter call s' ((next a).log s') ((next a).step s').2) :
    DrainsAfter call s ((m >>= next).log s) ((m >>= next).step s).2 := by
  have hbind : (m >>= next).log s = logThen m next s := rfl
  have hstep : (m >>= next).step s = (m.step >>= fun a => (next a).step) s := rfl
  rw [hbind, hstep, logThen, Step.bind_apply, hm, hlog]
  exact h.of_counts hpasses hinvoked

theorem drainsAfter_then (hm : DrainsAfter call s (m.log s) (m.step s).2)
    (hnext : ∀ a s', Quiet s' (next a)) :
    DrainsAfter call s ((m >>= next).log s) ((m >>= next).step s).2 := by
  rcases bind_cases m next s with ⟨a, s₁, hresult, hlog, hend⟩ | ⟨hlog, hend⟩
  · rw [hresult] at hm
    rw [hlog, hend]
    exact hm.append (hnext a s₁)
  · rw [hlog, hend]
    exact hm

theorem drain_supervised (hook : Hook) (queue : TaskQueue) (s : Supervised) :
    (Supervised.drain hook queue s).2.host = (loggedDrain hook queue s.host).state.1 ∧
      (Supervised.drain hook queue s).2.supervisor.tasksInvoked =
        s.supervisor.tasksInvoked + (loggedDrain hook queue s.host).succeeded ∧
      (Supervised.drain hook queue s).2.supervisor.drainPasses =
        s.supervisor.drainPasses + (loggedDrain hook queue s.host).passes ∧
      ((loggedDrain hook queue s.host).ending = .ok () →
        (Supervised.drain hook queue s).1 = .ok (.ok (), (loggedDrain hook queue s.host).queue)) := by
  unfold Supervised.drain
  rw [loggedDrain_fst]
  rcases loggedDrain hook queue s.host with ⟨passes, succeeded, ⟨⟩ | e | payload, queue', state⟩
  · exact ⟨rfl, rfl, rfl, fun _ => rfl⟩
  · exact ⟨rfl, rfl, rfl, nofun⟩
  · exact ⟨rfl, rfl, rfl, nofun⟩

theorem drainsAfter_drain {id : ContextId} {new : List (TaskId × PendingTask)}
    (hid : call.engine.currentContext?.map Prod.fst = some id) (htold : call.told = hook.told new)
    (hcalls : callsLeft new = depthOf call.executed) (hw : Waiting hook id new s.host.engine) :
    DrainsAfter call s ((drain hook (TaskQueue.empty.receive hook call.told)).log s)
      ((drain hook (TaskQueue.empty.receive hook call.told)).step s).2 := by
  have hpaired : Paired hook id (TaskQueue.empty.receive hook call.told)
      (depthOf call.executed) s.host := by
    rw [htold]
    exact ⟨new, Supervised.callbacks_receive hook new, hcalls, hw⟩
  generalize hqueue : TaskQueue.empty.receive hook call.told = queue at hpaired ⊢
  obtain ⟨hacts, hcount, hpasses, hdone⟩ := drain_paired hpaired
  obtain ⟨hhost, hinvoked, hpassed, hvalue⟩ := drain_supervised hook queue s
  constructor
  · refine ⟨⟨s.host.engine, .drain⟩, (loggedDrain hook queue s.host).state.2, [], ?_, rfl, hacts,
      List.forall_mem_nil _, hcount, fun hall => ?_⟩
    · rw [List.append_nil]
      rfl
    · obtain ⟨hlength, hsucceeded, hends, hempty, hleft⟩ := hdone hall
      obtain ⟨tasks, hq, -, hwaiting⟩ := hleft.waiting
      obtain ⟨c, hc, hhook, htasks⟩ := hwaiting.context
      -- the queue is empty, so the table that is paired with it is
      have hnone : (loggedDrain hook queue s.host).queue.tasks = [] := by
        simpa [TaskQueue.isEmpty] using hempty
      rw [hnone] at hq
      obtain rfl : tasks = [] := List.map_eq_nil_iff.1 hq.symm
      rw [← hhost] at hc
      refine ⟨?_, hlength, hook, id, c, _, s, _, rfl, ?_, hempty, hid, hc, hhook, htasks⟩
      · rw [← hsucceeded]
        exact hinvoked
      · rw [hqueue]
        exact Prod.ext (hvalue hends) rfl
  · rw [← hpasses]
    exact hpassed

/-- A script that is run in a context without tasks, for which the hook is installed, and what is
    done after it. -/
theorem once_runThenDrain {id : ContextId} (script : Script) (bytecode : Option (List UInt8))
    (tag : SourceContext) (hw : Waiting hook id [] s.host.engine) :
    Once s (runThenDrain script bytecode hook tag) := by
  obtain ⟨call, hlog, hrun, hengine, hafter⟩ := runCall_adds script bytecode tag hw
  obtain ⟨c, hc, -⟩ := hw.context
  have hid : call.engine.currentContext?.map Prod.fst = some id := by
    rw [hengine, hc]
    rfl
  unfold runThenDrain Once
  -- the call returns and what it told the hook is drained, or it faults and nothing is
  rcases bind_cases (onHost (runCall script bytecode tag)) _ s with
    ⟨⟨ran, signals⟩, s₁, hresult, hlogs, hend⟩ | ⟨-, hend⟩
  · right
    rw [hlogs, hend]
    obtain ⟨hending, rfl⟩ := Prod.mk.inj hresult
    obtain ⟨rfl, new, htold, hcalls, hwaiting⟩ := hafter (Prod.ext hending rfl)
    obtain ⟨s₂, hnote, hsame, hstill⟩ := Supervised.noteFailure_still
      s!"{script.displayName}: " ran ((onHost (runCall script bytecode tag)).step s).2
    have hwaiting₂ : Waiting hook id new s₂.host.engine := by
      rw [hsame]
      exact hwaiting
    refine ⟨[], call, _, congrArg (· ++ _) hlog, List.forall_mem_nil _, hrun, ?_⟩
    have hnoted : (noteFailure s!"{script.displayName}: " ran).step
        ((onHost (runCall script bytecode tag)).step s).2 = (.ok (), s₂) := hnote
    have hmoved : (transition .draining).step s₂ = (.ok (), Supervised.moved .draining s₂) := rfl
    refine DrainsAfter.of_counts (drainsAfter_bind rfl hnoted (congrArg _ hstill)
      (congrArg _ hstill) ?_) rfl rfl
    refine drainsAfter_bind rfl hmoved rfl rfl ?_
    refine drainsAfter_then (drainsAfter_drain hid htold hcalls hwaiting₂) fun answer s₃ => ?_
    refine .bind (quiet_noteFailure _ _ _) fun _ _ _ => ?_
    exact .bind (quiet_clearHook _ _) fun _ _ _ => quiet_settle _ _
  · left
    rw [hend]
    exact fun h => h

/-! The supervisor. -/

theorem once_runScript (script : Script) (bytecode : Option (List UInt8))
    (hunused : s.host.engine.Unused) : Once s (runScript script bytecode) := by
  refine .bind (quiet_of_still (fun _ ha => nomatch ha) rfl) fun hook s₁ hnew => ?_
  cases hnew
  refine .bind (quiet_of_logs (.call fun _ => id) _) fun u s₂ hcall => ?_
  have hinstall : Host.call .setContinuationCallback (·.setHook (some ⟨s.host.hooks⟩)) _ =
      (.ok u, s₂.host) := (Supervised.onHost_eq hcall).1
  obtain ⟨e, hset, hhost⟩ := Host.call_eq_ok hinstall
  obtain ⟨id, hwaiting⟩ := hunused.waiting hset
  have hwaiting₂ : Waiting ⟨s.host.hooks⟩ id [] s₂.host.engine := by
    rw [hhost]
    exact hwaiting
  refine .bind (quiet_transition (by decide) _) fun u s₃ hmoved => ?_
  cases hmoved
  refine .bind (quiet_of_still (fun _ ha => nomatch ha) rfl) fun tag s₄ htag => ?_
  cases htag
  exact once_runThenDrain script bytecode _ hwaiting₂

theorem once_runInFreshRuntime (script : Script) (bytecode : List UInt8) :
    Once s (runInFreshRuntime script bytecode) := by
  refine .bind (quiet_state s) fun u s₁ hread => ?_
  cases hread
  refine .bind (quiet_of_logs ((silent_opening fun _ => id).openContext _) s)
    fun active s₁ hopen => ?_
  obtain ⟨hengine, -⟩ := Host.openContext_eq_ok (Supervised.onHost_eq hopen).1
  refine .bind (quiet_of_still (fun _ ha => nomatch ha) rfl) fun u s₂ hnote => ?_
  cases hnote
  have hunused : s₁.host.engine.Unused := by
    rw [hengine]
    exact Engine.unused_opened _ _
  refine .then (.attempt (.onFault (f := active.abandon) (fun _ => rfl)
    (once_runScript script (some bytecode) hunused))) fun ran s₃ => ?_
  refine .bind (quiet_of_logs (.attempt ((silent_opening fun _ => id).close _)) _)
    fun closed s₄ _ => ?_
  exact quiet_settle _ _

theorem once_dispatch (script : Script) (hunused : s.host.engine.Unused) :
    Once s (dispatch script) := by
  refine .bind (quiet_state s) fun u s₁ hread => ?_
  cases hread
  refine .bind (quiet_ofExcept _ _) fun path s₁ hpath => ?_
  obtain ⟨-, rfl⟩ := Prod.mk.inj hpath
  cases s.supervisor.mode with
  | source => exact once_runScript script none hunused
  | preSerialized path =>
    refine .bind (quiet_ofExcept _ _) fun u s₂ hutf8 => ?_
    obtain ⟨-, rfl⟩ := Prod.mk.inj hutf8
    refine .bind (quiet_of_still (List.forall_mem_singleton.2 id) rfl) fun bytes s₃ hread => ?_
    have hsame := Host.readBytecode_eq_ok (Supervised.onHost_eq hread).1
    have hunused₃ : s₃.host.engine.Unused := by
      rw [hsame]
      exact hunused
    exact once_runScript script (some bytes) hunused₃
  | serialized =>
    refine .bind (quiet_ofExcept _ _) fun u s₂ _ => ?_
    refine .bind (quiet_transition (by decide) _) fun u s₃ _ => ?_
    refine .bind (quiet_of_logs (logs_serialize (fun _ => id) _) _) fun bytes s₄ _ => ?_
    exact once_runInFreshRuntime script bytes
  | emitHeader output =>
    refine Quiet.once ?_
    refine .bind (quiet_ofExcept _ _) fun u s₂ _ => ?_
    refine .bind (quiet_ofExcept _ _) fun symbol s₃ _ => ?_
    refine .bind (quiet_transition (by decide) _) fun u s₄ _ => ?_
    exact quiet_of_logs ((silent_emitting fun _ => id).emitHeader script output symbol) _
  | emitBytecode output =>
    refine Quiet.once ?_
    refine .bind (quiet_ofExcept _ _) fun u s₂ _ => ?_
    refine .bind (quiet_transition (by decide) _) fun u s₃ _ => ?_
    exact quiet_of_logs ((silent_emitting fun _ => id).emitBytecode script.text output) _

/-- **A run drains at most once.** -/
theorem once_execute (script : Script) : Once s (execute script) := by
  refine .bind (quiet_state s) fun u s₁ hread => ?_
  cases hread
  refine .bind (quiet_of_logs ((silent_opening fun _ => id).createRuntime _) s)
    fun runtime s₁ hcreate => ?_
  obtain ⟨rfl, hcreated, -⟩ := Host.createRuntime_eq_ok (Supervised.onHost_eq hcreate).1
  refine .bind (quiet_transition (by decide) _) fun u s₂ hready => ?_
  cases hready
  refine .bind (quiet_of_logs ((silent_opening fun _ => id).enterNew _) _) fun scope s₃ henter => ?_
  obtain ⟨hentered, -⟩ := Host.enterNew_eq_ok (Supervised.onHost_eq henter).1
  refine .bind (quiet_transition (by decide) _) fun u s₄ hmoved => ?_
  cases hmoved
  have hopened : s₃.host.engine = s.host.engine.opened s.supervisor.mode.attributes := by
    rw [hentered]
    show (s₁.host.engine.withContext _).withCurrent (some ⟨s₁.host.engine.issued + 1⟩) = _
    rw [hcreated]
    rfl
  have hunused : s₃.host.engine.Unused := by
    rw [hopened]
    exact Engine.unused_opened _ _
  refine .then (.attempt (.onFault (f := RuntimeGuard.abandon _ ∘ scope.abandon) (fun _ => rfl)
    (once_dispatch script hunused))) fun ran s₅ => ?_
  refine .bind (quiet_of_logs (.attempt ((silent_opening fun _ => id).exit _)) _)
    fun exited s₆ _ => ?_
  refine .bind (quiet_of_logs (.attempt ((silent_opening fun _ => id).dispose _)) _)
    fun disposed s₇ _ => ?_
  exact quiet_settle _ _

end Traced

namespace Supervised

theorem run_finishes {s : Supervised} (hidle : s.supervisor.state = .idle) (script : Script) :
    (run script s).2.supervisor.drainPasses = (execute script s).2.supervisor.drainPasses ∧
      (run script s).2.supervisor.tasksInvoked = (execute script s).2.supervisor.tasksInvoked ∧
      (.draining ∈ (run script s).2.supervisor.history →
        .draining ∈ (execute script s).2.supervisor.history) := by
  have hfinish : ∀ outcome s', .draining ∈ (finish script outcome s').supervisor.history →
      .draining ∈ s'.supervisor.history := by
    intro outcome s' hmem
    rw [history_finish] at hmem
    rcases List.mem_append.1 hmem with hmem | hmem
    · exact hmem
    · cases List.mem_singleton.1 hmem
  rw [run_of_idle hidle]
  rcases execute script s with ⟨⟨⟩ | e | payload, s'⟩
  · exact ⟨rfl, rfl, hfinish _ _⟩
  · exact ⟨rfl, rfl, hfinish _ _⟩
  · exact ⟨rfl, rfl, id⟩

/-- **Draining ends in one pass, after a number of calls that is known before.** Whatever the
    engine, the mode and the script: a run that gets to draining made one call that runs a
    script, and the drain that follows calls no more tasks than the statements executed by it
    have `defer`s. Where no task fails, it is exactly as many, and nothing is left to call. -/
theorem drains_in_one_pass {script : Script} {mode : Mode} {h : Host}
    (hreach : .draining ∈ (run script (h.under mode)).2.supervisor.history) :
    ∃ before call drain calls after,
      attempts script (h.under mode) = before ++ call :: drain :: (calls ++ after) ∧
      (∀ a ∈ before ++ after, ¬ a.act.Executes) ∧ call.act.IsRun ∧ drain.act = .drain ∧
      (∀ a ∈ calls, ∃ task, a.act = .callTask task) ∧
      calls.length ≤ depthOf call.executed ∧
      (run script (h.under mode)).2.supervisor.drainPasses = 1 ∧
      ((∀ a ∈ calls, a.ending = .ok ()) →
        (run script (h.under mode)).2.supervisor.tasksInvoked = depthOf call.executed ∧
        calls.length = depthOf call.executed ∧ NothingLeft call drain) := by
  obtain ⟨hpasses, hinvoked, hhistory⟩ := run_finishes (s := h.under mode) rfl script
  rw [hpasses, hinvoked, ← Traced.execute_step]
  rw [← Traced.execute_step] at hhistory
  rcases Traced.once_execute (s := h.under mode) script with
    hnever | ⟨before, call, later, hlog, hbefore, hrun, hdrains⟩
  · have hidle : (h.under mode).supervisor.history = [.idle] := rfl
    rw [hidle] at hnever
    exact absurd (hnever (hhistory hreach)) (by decide)
  · obtain ⟨drain, calls, after, rfl, hdrain, hcalls, hafter, hcount, hdone⟩ := hdrains.log
    refine ⟨before, call, drain, calls, after, hlog, List.forall_mem_append.2 ⟨hbefore, hafter⟩,
      hrun, hdrain, hcalls, hcount, hdrains.passes, fun hall => ?_⟩
    obtain ⟨htotal, hlength, hleft⟩ := hdone hall
    exact ⟨htotal.trans (Nat.zero_add _), hlength, hleft⟩

/-- A script that defers twice what it defers once more. -/
def patient : Script := .ofText (.ofText "a.js") "defer defer print a\nprint b\ndefer print c"

/-- From byte code, in the second runtime: three calls, though the queue is told of two tasks. -/
theorem drains_in_one_pass_patient :
    (run patient ((occupied .source).host.under .serialized)).2.supervisor.drainPasses = 1 ∧
      ∃ call drain, call ∈ attempts patient ((occupied .source).host.under .serialized) ∧
        call.act.IsRun ∧ depthOf call.executed = 3 ∧ NothingLeft call drain := by
  have hreach : .draining ∈
      (run patient ((occupied .source).host.under .serialized)).2.supervisor.history := by
    decide +kernel
  have hall : ∀ a ∈ attempts patient ((occupied .source).host.under .serialized),
      a.ending = .ok () := by
    decide +kernel
  have hinvoked :
      (run patient ((occupied .source).host.under .serialized)).2.supervisor.tasksInvoked = 3 := by
    decide +kernel
  obtain ⟨before, call, drain, calls, after, hlog, -, hrun, -, -, -, hpasses, hdone⟩ :=
    drains_in_one_pass hreach
  rw [hlog] at hall
  have hcalls : ∀ a ∈ calls, a.ending = .ok () := fun a ha => hall a (by simp [ha])
  obtain ⟨htotal, -, hleft⟩ := hdone hcalls
  exact ⟨hpasses, call, drain, by simp [hlog], hrun, htotal.symm.trans hinvoked, hleft⟩

end Supervised
end ScriptHost

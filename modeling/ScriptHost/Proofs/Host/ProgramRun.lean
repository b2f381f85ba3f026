import ScriptHost.Proofs.Host.Draining

/- A program run in a context of its own, from source or from byte code. The main
   program executes first; unless it faults, what it deferred is drained, also when
   it threw. The first failure is the one returned.

   What is proved: `runScript_program`, what a run prints and how it ends, in terms
   of the program alone. -/
namespace ScriptHost

open Engine (Holding)

/-- The program a script or its byte code stands for, and the operation that runs it. -/
inductive Runs (script : Script) (p : Program) : Option (List UInt8) → Operation → Prop where
  | source (h : Program.parse script.text = .ok p) : Runs script p none .runScript
  | bytecode {bytes : List UInt8} (h : Bytecode.decode bytes = some p) :
      Runs script p (some bytes) .runSerializedScript

/-- How a run ends: a fault passes at once, and of two failures the first is returned. -/
def runEnding : Ending HostError Unit → Ending HostError Unit → Ending HostError Unit
  | .fault payload, _ => .fault payload
  | _, .fault payload => .fault payload
  | .error e, _ => .error e
  | .ok (), drained => drained

/-- An ending whose error is handed on as a value, with something beside it. -/
def handedOn {α : Type} (ending : Ending HostError Unit) (a : α) :
    Ending HostError (Except HostError Unit × α) :=
  match ending with
  | .ok () => .ok (.ok (), a)
  | .error e => .ok (.error e, a)
  | .fault payload => .fault payload

/-- What a run prints: a fault of the main program leaves nothing to drain. -/
def runOutput (main : Ending HostError Unit) (first later : List String) : List String :=
  match main with
  | .fault _ => first
  | _ => first ++ later

theorem Ending.fault_or_ofExcept {ε α : Type} (x : Ending ε α) :
    (∃ payload, x = .fault payload) ∨ ∃ r, x = .ofExcept r := by
  cases x with
  | ok a => exact .inr ⟨.ok a, rfl⟩
  | error e => exact .inr ⟨.error e, rfl⟩
  | fault payload => exact .inl ⟨payload, rfl⟩

theorem runEnding_ofExcept (ran drained : Except HostError Unit) :
    runEnding (.ofExcept ran) (.ofExcept drained) = .ofExcept (firstFailure ran drained) := by
  cases ran <;> cases drained <;> rfl

theorem runEnding_fault (ran : Except HostError Unit) (payload : Payload) :
    runEnding (.ofExcept ran) (.fault payload) = .fault payload := by
  cases ran <;> rfl

theorem handedOn_ofExcept {α : Type} (r : Except HostError Unit) (a : α) :
    handedOn (.ofExcept r) a = .ok (r, a) := by
  cases r <;> rfl

theorem runOutput_ofExcept (ran : Except HostError Unit) (first later : List String) :
    runOutput (.ofExcept ran) first later = first ++ later := by
  cases ran <;> rfl

namespace Supervised

variable {script : Script} {p : Program} {bytecode : Option (List UInt8)} {op : Operation}
  {hook : Hook} {tasks : List (TaskId × PendingTask)} {lines : List String}

theorem performStep_apply (op : Operation) (f : Engine → Execution) (h : Host) :
    Host.performStep op f h =
      (handedOn (h.perform op f).ending (h.perform op f).signals, (h.perform op f).host) := by
  unfold Host.performStep
  generalize h.perform op f = x
  obtain ⟨ending, signals, h'⟩ := x
  cases ending <;> rfl

theorem performStep_holding {h : Host} (op : Operation) {f : Engine → Execution} {o : Option Leaf}
    {e : Engine} {signals : List Signal} (hf : f h.engine = ⟨codeEnding o, e, signals⟩)
    (he : Holding hook tasks lines (o.bind (·.exception?)) e) :
    ∃ h', Host.performStep op f h = (handedOn (stopEnding op o) signals, h') ∧
      Holding hook tasks lines none h'.engine := by
  obtain ⟨h', hperform, hholding⟩ := Host.perform_holding op hf he
  refine ⟨h', ?_, hholding⟩
  rw [performStep_apply, hperform]

/-- Running the main program prints its immediate lines and leaves its deferred leaves pending. -/
theorem runCall_holding (hruns : Runs script p bytecode op) {h : Host}
    (hh : Holding hook [] lines none h.engine) (tag : SourceContext) :
    ∃ new h', taskWork new = p.work ∧
      Holding hook new (lines ++ p.immediate.filterMap (·.printed?)) none h'.engine ∧
      runCall script bytecode tag h = (handedOn (stopEnding op p.main?) (hook.told new), h') := by
  cases hruns with
  | source hparse =>
    obtain ⟨new, e₁, hexecute, hwork, h₁⟩ := (hh.record (.runScript tag)).executeAll p
    obtain ⟨h', hrun, h₂⟩ := performStep_holding .runScript
      (f := (·.runScript script.text tag)) ((hh.runScript hparse tag).trans hexecute) h₁
    exact ⟨new, h', hwork, h₂, hrun⟩
  | @bytecode bytes hdecode =>
    obtain ⟨new, e₁, hexecute, hwork, h₁⟩ := (hh.record (.runSerializedScript tag)).executeAll p
    obtain ⟨h', hrun, h₂⟩ := performStep_holding .runSerializedScript
      (f := (·.runSerialized bytes tag)) ((hh.runSerialized hdecode tag).trans hexecute) h₁
    exact ⟨new, h', hwork, h₂, hrun⟩

theorem runCall_error {err : CompileError} (hparse : Program.parse script.text = .error err)
    {h : Host} (hh : Holding hook [] lines none h.engine) (tag : SourceContext) :
    ∃ h', Holding hook [] lines none h'.engine ∧
      runCall script none tag h =
        (.ok (.error (.script .runScript .scriptCompile (some err.toException)), []), h') := by
  obtain ⟨e₁, hrun, h₁⟩ := hh.runScript_error hparse tag
  refine ⟨({ h with engine := e₁ }.failure .runScript .scriptCompile).2,
    ⟨h₁.context, h₁.numbered, h₁.distinct, h₁.output, rfl, h₁.free⟩, ?_⟩
  have hperform := Host.perform_of_error .runScript (f := (·.runScript script.text tag)) hrun
  show Host.performStep _ _ _ = _
  rw [performStep_apply, hperform, ← h₁.exception]
  rfl

/-- Draining through the supervisor prints and ends as the schedule of the pending tasks says. -/
theorem drain_apply {queue : TaskQueue} {s : Supervised}
    (hq : queue.tasks.map (·.callback) = tasks.map Prod.fst)
    (hs : Holding hook tasks lines none s.host.engine) :
    ∃ queue' s' left,
      Holding hook left (lines ++ printed (schedule (taskWork tasks))) none s'.host.engine ∧
      drain hook queue s =
        (handedOn (stopEnding .callTask (stop? (schedule (taskWork tasks)))) queue', s') := by
  obtain ⟨hending, left, hleft⟩ := TaskQueue.drain_holding queue s.host hq hs
  obtain ⟨hsettle, hstate⟩ := TaskQueue.settle_eq_drain (Host.taskCallback hook) queue s.host
  rw [← hsettle] at hending
  rw [← hstate] at hleft
  let d := queue.settle (Host.taskCallback hook) s.host
  refine ⟨d.queue,
    { host := d.state
      supervisor := { s.supervisor with
        tasksInvoked := s.supervisor.tasksInvoked + d.succeeded
        drainPasses := s.supervisor.drainPasses + d.passes } }, left, hleft, ?_⟩
  rw [← hending]
  show (match d.ending with
    | .ok () => _
    | .error e => _
    | .fault payload => _) = _
  cases d.ending <;> rfl

theorem onHost_of {α ε : Type} {m : Step Host ε α} {s : Supervised} {x : Ending ε α} {h : Host}
    (heq : m s.host = (x, h)) : onHost m s = (x, { s with host := h }) := by
  show ((m s.host).1, _) = _
  rw [heq]

theorem output_clearHook (queue : TaskQueue) (h : Host) :
    (noteUndrained queue (clearHook h)).engine.output = h.engine.output := by
  have hclear : (clearHook h).engine.output = h.engine.output := by
    have hset : (h.engine.setHook none).2.output = h.engine.output := by
      unfold Engine.setHook Engine.unlessInjected
      split
      · rfl
      · split <;> rfl
    rw [← hset]
    unfold clearHook
    rcases h.engine.setHook none with ⟨code | u, e⟩ <;> rfl
  rw [← hclear]
  unfold noteUndrained
  split <;> rfl

theorem noteFailure_still (front : String) (r : Except HostError Unit) (s : Supervised) :
    ∃ s', noteFailure front r s = (.ok (), s') ∧ s'.host.engine = s.host.engine ∧
      s'.supervisor = s.supervisor := by
  cases r with
  | ok => exact ⟨s, rfl, rfl, rfl⟩
  | error e => exact ⟨_, rfl, rfl, rfl⟩

theorem noteFailure_apply (front : String) (r : Except HostError Unit) (s : Supervised) :
    ∃ s', noteFailure front r s = (.ok (), s') ∧ s'.host.engine = s.host.engine := by
  obtain ⟨s', hnote, hengine, -⟩ := noteFailure_still front r s
  exact ⟨s', hnote, hengine⟩

theorem callbacks_push (q : TaskQueue) (signals : List Signal) :
    (signals.foldl (fun q s => q.push s.task) q).tasks.map (·.callback) =
      q.tasks.map (·.callback) ++ signals.map (·.task) := by
  induction signals generalizing q with
  | nil => exact (List.append_nil _).symm
  | cons signal rest ih =>
    rw [List.foldl_cons, ih (q.push signal.task), TaskQueue.tasks_push, List.map_append,
      List.append_assoc]
    rfl

theorem callbacks_receive_behind (q : TaskQueue) (hook : Hook)
    (new : List (TaskId × PendingTask)) :
    (q.receive hook (hook.told new)).tasks.map (·.callback) =
      q.tasks.map (·.callback) ++ new.map Prod.fst := by
  have hall : (hook.told new).filter (·.hook = hook) = hook.told new := by
    refine List.filter_eq_self.2 fun signal hsignal => ?_
    obtain ⟨t, -, rfl⟩ := List.mem_map.1 hsignal
    exact decide_eq_true rfl
  rw [TaskQueue.receive, hall, callbacks_push, Hook.told, List.map_map]
  rfl

theorem callbacks_receive (hook : Hook) (new : List (TaskId × PendingTask)) :
    (TaskQueue.empty.receive hook (hook.told new)).tasks.map (·.callback) = new.map Prod.fst :=
  callbacks_receive_behind TaskQueue.empty hook new

/-- What is left to do of a run when the call of its main program has returned. -/
def afterCall (script : Script) (hook : Hook) (ran : Except HostError Unit)
    (signals : List Signal) : SupervisedStep Unit := do
  noteFailure s!"{script.displayName}: " ran
  transition .draining
  let (drained, queue) ← drain hook (TaskQueue.empty.receive hook signals)
  noteFailure s!"{script.displayName}: draining stopped: " drained
  .change (changeHost fun h => noteUndrained queue (clearHook h))
  .ofExcept (firstFailure ran drained)

/-- What the main program has deferred is drained, whether or not it failed. -/
theorem afterCall_apply (script : Script) (ran : Except HostError Unit) {s : Supervised}
    (hs : Holding hook tasks lines none s.host.engine) :
    (afterCall script hook ran (hook.told tasks) s).1 = runEnding (.ofExcept ran)
        (stopEnding .callTask (stop? (schedule (taskWork tasks)))) ∧
      (afterCall script hook ran (hook.told tasks) s).2.host.engine.output =
        lines ++ printed (schedule (taskWork tasks)) := by
  obtain ⟨s₁, hnote, hs₁⟩ := noteFailure_apply s!"{script.displayName}: " ran s
  obtain ⟨s₂, hdraining, hs₂⟩ : ∃ s₂, transition .draining s₁ = (.ok (), s₂) ∧
      s₂.host.engine = s.host.engine := ⟨_, rfl, hs₁⟩
  obtain ⟨queue, s₃, left, hleft, hdrain⟩ :=
    drain_apply (s := s₂) (callbacks_receive hook tasks) (hs₂ ▸ hs)
  rw [afterCall, Step.bind_apply_of_ok _ hnote, Step.bind_apply_of_ok _ hdraining]
  obtain ⟨payload, hlater⟩ | ⟨drained, hlater⟩ :=
    (stopEnding .callTask (stop? (schedule (taskWork tasks)))).fault_or_ofExcept <;>
    rw [hlater] at hdrain ⊢
  · rw [runEnding_fault, Step.bind_apply_of_fault _ hdrain]
    exact ⟨rfl, hleft.output⟩
  · rw [handedOn_ofExcept] at hdrain
    obtain ⟨s₄, hstopped, hs₄⟩ :=
      noteFailure_apply s!"{script.displayName}: draining stopped: " drained s₃
    rw [runEnding_ofExcept, Step.bind_apply_of_ok _ hdrain]
    dsimp only
    rw [Step.bind_apply_of_ok _ hstopped]
    refine ⟨rfl, ?_⟩
    show (noteUndrained queue (clearHook s₄.host)).engine.output = _
    rw [output_clearHook, hs₄, hleft.output]

/-- A run in a new context, with the main program's call given by what it leaves. -/
theorem runScript_of_call {main : Ending HostError Unit} {first : List String}
    {work : List (Nat × Leaf)} {s : Supervised} {id : ContextId} {r : RuntimeId}
    (hcontext : s.host.engine.currentContext? = some (id, { runtime := r }))
    (hquiet : s.host.engine.exception = none) (hfree : ∀ op, s.host.engine.injected op = none)
    (hcall : ∀ {hook h} tag, Holding hook [] s.host.engine.output none h.engine →
      ∃ new h', taskWork new = work ∧
        Holding hook new (s.host.engine.output ++ first) none h'.engine ∧
        runCall script bytecode tag h = (handedOn main (hook.told new), h')) :
    (runScript script bytecode s).1 =
        runEnding main (stopEnding .callTask (stop? (schedule work))) ∧
      (runScript script bytecode s).2.host.engine.output =
        s.host.engine.output ++ runOutput main first (printed (schedule work)) := by
  -- up to the call of the main program everything ends well
  obtain ⟨s₁, hnew, hs₁⟩ : ∃ s₁, onHost Host.newHook s = (.ok ⟨s.host.hooks⟩, s₁) ∧
      s₁.host.engine = s.host.engine := ⟨_, rfl, rfl⟩
  obtain ⟨e₁, hhook, h₁⟩ := Engine.setHook_holding ⟨s.host.hooks⟩ hcontext hquiet hfree
  rw [← hs₁] at hhook
  obtain ⟨s₂, hset, hs₂⟩ : ∃ s₂, onHost (Host.call .setContinuationCallback
      (·.setHook (some ⟨s.host.hooks⟩))) s₁ = (.ok (), s₂) ∧ s₂.host.engine = e₁ :=
    ⟨_, onHost_of (Host.call_of_ok .setContinuationCallback
      (f := (·.setHook (some ⟨s.host.hooks⟩))) hhook), rfl⟩
  obtain ⟨s₃, hrunning, hs₃⟩ : ∃ s₃, transition .running s₂ = (.ok (), s₃) ∧
      s₃.host.engine = e₁ := ⟨_, rfl, hs₂⟩
  obtain ⟨tag, s₄, htag, hs₄⟩ : ∃ tag s₄, onHost Host.nextSourceContext s₃ = (.ok tag, s₄) ∧
      s₄.host.engine = e₁ := ⟨_, _, rfl, hs₃⟩
  obtain ⟨new, h₅, rfl, hholding, hrun⟩ := hcall tag (hs₄ ▸ h₁)
  rw [runScript, Step.bind_apply_of_ok _ hnew, Step.bind_apply_of_ok _ hset,
    Step.bind_apply_of_ok _ hrunning, Step.bind_apply_of_ok _ htag]
  obtain ⟨payload, rfl⟩ | ⟨ran, rfl⟩ := main.fault_or_ofExcept
  · rw [Step.bind_apply_of_fault _ (onHost_of hrun)]
    exact ⟨rfl, hholding.output⟩
  · rw [handedOn_ofExcept] at hrun
    obtain ⟨hending, houtput⟩ :=
      afterCall_apply script ran (s := { s₄ with host := h₅ }) hholding
    rw [Step.bind_apply_of_ok _ (onHost_of hrun), runOutput_ofExcept, ← List.append_assoc]
    exact ⟨hending, houtput⟩

/-- A run of a program prints and ends as the program says. -/
theorem runScript_program (hruns : Runs script p bytecode op) {s : Supervised} {id : ContextId}
    {r : RuntimeId} (hcontext : s.host.engine.currentContext? = some (id, { runtime := r }))
    (hquiet : s.host.engine.exception = none) (hfree : ∀ op, s.host.engine.injected op = none) :
    (runScript script bytecode s).1 =
        runEnding (stopEnding op p.main?) (stopEnding .callTask (stop? p.deferred)) ∧
      (runScript script bytecode s).2.host.engine.output = s.host.engine.output ++
        runOutput (stopEnding op p.main?) (p.immediate.filterMap (·.printed?))
          (printed p.deferred) := by
  rw [p.deferred_eq_schedule]
  exact runScript_of_call hcontext hquiet hfree fun tag hh => runCall_holding hruns hh tag

theorem runScript_error {err : CompileError} (hparse : Program.parse script.text = .error err)
    {s : Supervised} {id : ContextId} {r : RuntimeId}
    (hcontext : s.host.engine.currentContext? = some (id, { runtime := r }))
    (hquiet : s.host.engine.exception = none) (hfree : ∀ op, s.host.engine.injected op = none) :
    (runScript script none s).1 =
        .error (.script .runScript .scriptCompile (some err.toException)) ∧
      (runScript script none s).2.host.engine.output = s.host.engine.output := by
  let main : Ending HostError Unit :=
    .error (.script .runScript .scriptCompile (some err.toException))
  have hcall : ∀ {hook : Hook} {h : Host} tag, Holding hook [] s.host.engine.output none h.engine →
      ∃ new h', taskWork new = [] ∧ Holding hook new (s.host.engine.output ++ []) none h'.engine ∧
        runCall script none tag h = (handedOn main (hook.told new), h') := by
    intro hook h tag hh
    obtain ⟨h', hholding, hrun⟩ := runCall_error hparse hh tag
    exact ⟨[], h', rfl, by rwa [List.append_nil], hrun⟩
  have h := runScript_of_call hcontext hquiet hfree hcall
  rw [schedule_nil] at h
  exact ⟨h.1, h.2.trans (List.append_nil _)⟩

end Supervised
end ScriptHost

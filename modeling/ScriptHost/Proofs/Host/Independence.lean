import ScriptHost.Proofs.Host.Mirrors
import ScriptHost.Proofs.Host.Modes
import ScriptHost.Proofs.Host.Restore

/- A run does not depend on what was done to the engine before. Whatever is left of that,
   live runtimes, an entered context, tasks that were not called, a counter that has gone
   on, stands as ground under the run: the run goes as on a new engine, with its numbers
   past those of the ground.

   What is proved: `mirrors_run`, that a run on ground mirrors the run without, for every
   script and mode; and from it `run_independent` for any two hosts whose engines were
   used, in whatever ways, and have the same failures injected and report sizes alike. -/
namespace ScriptHost

open Step (Mirrors Via Same)

namespace Supervised

variable {G : Ground} {P P' R : Host → Host → Prop}

/-- The same supervisor at work on related hosts. -/
def Beside (P : Host → Host → Prop) (s s' : Supervised) : Prop :=
  P s.host s'.host ∧ s.supervisor = s'.supervisor

theorem Beside.above {s s' : Supervised} (h : Beside (Host.Within G) s s') :
    Beside (Host.Above G) s s' :=
  ⟨h.1.toAbove, h.2⟩

theorem mirrors_onHost {ε α β : Type} {m : Step Host ε α} {n : Step Host ε β} {f : β → α}
    (hm : Mirrors P m n (Via f P') R) :
    Mirrors (Beside P) (onHost m) (onHost n) (Via f (Beside P')) (Beside R) := by
  intro s s' h
  have halike := hm s.host s'.host h.1
  unfold onHost Step.within
  dsimp only
  generalize m s.host = x at halike
  generalize n s'.host = y at halike
  cases halike with
  | ok hvalue => exact .ok ⟨hvalue.1, hvalue.2, h.2⟩
  | error hleft => exact .error ⟨hleft, h.2⟩
  | fault hleft => exact .fault ⟨hleft, h.2⟩

/-- A relation that messages do not change is kept by a transition. -/
theorem mirrors_transition (hP : ∀ h h' text text', P h h' → P (h.note text) (h'.note text'))
    (next : SupervisorState) :
    Mirrors (Beside P) (transition next) (transition next) (Same (Beside P)) (Beside R) :=
  .change fun _ _ h => ⟨hP _ _ _ _ h.1, congrArg (Supervisor.moveTo · next) h.2⟩

theorem mirrors_transition_above (G : Ground) (next : SupervisorState) :
    Mirrors (Beside (Host.Above G)) (transition next) (transition next)
      (Same (Beside (Host.Above G))) (Beside (Host.Above G)) :=
  mirrors_transition (fun _ _ text text' h => h.note text text') next

theorem mirrors_transition_within (G : Ground) (next : SupervisorState) :
    Mirrors (Beside (Host.Within G)) (transition next) (transition next)
      (Same (Beside (Host.Within G))) (Beside (Host.Above G)) :=
  mirrors_transition (fun _ _ text text' h => h.note text text') next

theorem mirrors_noteFailure (G : Ground) (front : String) (r : Except HostError Unit) :
    Mirrors (Beside (Host.Within G)) (noteFailure front r) (noteFailure front r)
      (Same (Beside (Host.Within G))) (Beside (Host.Above G)) := by
  cases r with
  | ok => exact .pure fun _ _ h => ⟨rfl, h⟩
  | error e => exact mirrors_onHost (Host.mirrors_debug_within G _ _)

/-! The run of a script. -/

theorem mirrors_runCall (hG : G.engine.WellFormed) (script : Script)
    (bytecode : Option (List UInt8)) (tag : SourceContext) :
    Mirrors (Host.Within G) (runCall script bytecode (G.source tag)) (runCall script bytecode tag)
      (Via (Prod.map id (List.map G.signal)) (Host.Within G)) (Host.Above G) := by
  cases bytecode with
  | none =>
    exact Host.mirrors_performStep _ (fun e he => Engine.runScript_atop hG he script.text tag)
      fun e => (Engine.effects_runScript e script.text tag).setting.current
  | some bytes =>
    exact Host.mirrors_performStep _ (fun e he => Engine.runSerialized_atop hG he bytes tag)
      fun e => (Engine.effects_runSerialized e bytes tag).setting.current

theorem receive_atop (G : Ground) (hook : Hook) (signals : List Signal) :
    TaskQueue.empty.receive (G.hook hook) (signals.map G.signal) =
      (TaskQueue.empty.receive hook signals).carry G.task := by
  rw [TaskQueue.receive_eq_moveAll, Host.moves_atop, TaskQueue.receive_eq_moveAll,
    ← TaskQueue.moveAll_carry]
  rfl

theorem mirrors_drain (hG : G.engine.WellFormed) (hook : Hook) (queue : TaskQueue) :
    Mirrors (Beside (Host.Within G)) (drain (G.hook hook) (queue.carry G.task)) (drain hook queue)
      (Via (Prod.map id (TaskQueue.carry G.task)) (Beside (Host.Within G)))
      (Beside (Host.Above G)) := by
  intro s s' h
  obtain ⟨hpasses, hsucceeded, hending, hqueue, hhost⟩ := TaskQueue.settle_carry G.task
    (fun _ _ task hwithin => Host.taskCallback_atop hG hook hwithin task) queue s.host s'.host h.1
  unfold drain
  dsimp only
  rw [hpasses, hsucceeded, hending, hqueue, h.2]
  cases (queue.settle (Host.taskCallback hook) s'.host).ending with
  | ok => exact .ok ⟨rfl, hhost, rfl⟩
  | error e => exact .ok ⟨rfl, hhost, rfl⟩
  | fault payload => exact .fault ⟨hhost.toAbove, rfl⟩

theorem within_clearHook (hG : G.engine.WellFormed) {h h' : Host} (hwithin : Host.Within G h h') :
    Host.Within G (clearHook h) (clearHook h') := by
  have heq : h.engine.setHook none =
      ((h'.engine.setHook none).1.map id, (h'.engine.setHook none).2.atop G) := by
    rw [hwithin.engine]
    exact Engine.setHook_atop hG hwithin.entered none
  have hcurrent := (Engine.effects_setHook h'.engine none).setting.current
  have hentered := hwithin.entered
  rw [← hcurrent] at hentered
  unfold clearHook
  rw [heq]
  generalize h'.engine.setHook none = r at hentered
  obtain ⟨code | u, e⟩ := r
  · exact Host.Within.note ⟨hwithin.toAbove.engineTo, hentered⟩ _ _
  · exact ⟨hwithin.toAbove.engineTo, hentered⟩

theorem within_noteUndrained {h h' : Host} (hwithin : Host.Within G h h') (queue : TaskQueue) :
    Host.Within G (noteUndrained (queue.carry G.task) h) (noteUndrained queue h') := by
  have hempty : (queue.carry G.task).isEmpty = queue.isEmpty := List.isEmpty_map
  unfold noteUndrained
  rw [hempty]
  split
  · exact hwithin
  · exact hwithin.note _ _

theorem mirrors_runScript (hG : G.engine.WellFormed) (script : Script)
    (bytecode : Option (List UInt8)) :
    Mirrors (Beside (Host.Within G)) (runScript script bytecode) (runScript script bytecode)
      (Same (Beside (Host.Above G))) (Beside (Host.Above G)) := by
  refine .bind_via (mirrors_onHost (Host.mirrors_newHook G)) fun hook => ?_
  refine .bind_same (mirrors_onHost (Host.mirrors_call_within _
    (fun e he => Engine.setHook_atop hG he (some hook))
    fun e => (Engine.effects_setHook e (some hook)).setting.current)) fun _ => ?_
  refine .bind_same (mirrors_transition_within G _) fun _ => ?_
  refine .bind_via (mirrors_onHost (Host.mirrors_nextSourceContext G)) fun tag => ?_
  refine .bind_via (mirrors_onHost (mirrors_runCall hG script bytecode tag)) fun ran => ?_
  obtain ⟨ran, signals⟩ := ran
  refine .bind_same (mirrors_noteFailure G _ ran) fun _ => ?_
  refine .bind_same (mirrors_transition_within G _) fun _ => ?_
  have hdrain := mirrors_drain hG hook (TaskQueue.empty.receive hook signals)
  rw [← receive_atop] at hdrain
  refine .bind_via hdrain fun drained => ?_
  obtain ⟨drained, queue⟩ := drained
  refine .bind_same (mirrors_noteFailure G _ drained) fun _ => ?_
  refine .bind_same (.change fun s s' h => ?_) fun _ => .ofExcept _ fun _ _ h => h
  exact ⟨(within_noteUndrained (within_clearHook hG h.1) queue).toAbove, h.2⟩

theorem mirrors_runInFreshRuntime (hG : G.engine.WellFormed) (script : Script)
    (bytecode : List UInt8) :
    Mirrors (Beside (Host.Above G)) (runInFreshRuntime script bytecode)
      (runInFreshRuntime script bytecode) (Same (Beside (Host.Above G)))
      (Beside (Host.Above G)) := by
  refine .bind_state fun s s' h => ?_
  rw [h.2]
  refine .bind_via (mirrors_onHost (Host.mirrors_openContext hG _)) fun active => ?_
  refine .bind_same (mirrors_onHost (Host.mirrors_debug_within G _ _)) fun _ => ?_
  refine .bind_same (.attempt (.onFault (mirrors_runScript hG script _) fun s s' h => ?_))
    fun ran => ?_
  · exact ⟨h.1.abandon _ _ _ _, h.2⟩
  refine .bind_same (mirrors_onHost (.attempt (Host.mirrors_close hG active))) fun closed => ?_
  exact .ofExcept _ fun _ _ h => h

theorem mirrors_dispatch (hG : G.engine.WellFormed) (script : Script) :
    Mirrors (Beside (Host.Within G)) (dispatch script) (dispatch script)
      (Same (Beside (Host.Above G))) (Beside (Host.Above G)) := by
  have hcheck : ∀ {α : Type} (r : Except HostError α), Mirrors (Beside (Host.Within G))
      (Step.ofExcept r) (Step.ofExcept r) (Same (Beside (Host.Within G)))
      (Beside (Host.Above G)) := by
    intro α r
    exact .ofExcept r fun _ _ h => h.above
  refine .bind_state fun s s' h => ?_
  rw [h.2, h.1.files]
  refine .bind_same (hcheck _) fun _ => ?_
  -- the same mode on both sides, so one program is mirrored by itself
  cases s'.supervisor.mode with
  | source => exact mirrors_runScript hG script none
  | preSerialized path =>
    refine .bind_same (hcheck _) fun _ => ?_
    refine .bind_same (mirrors_onHost ((Host.mirrors_emitting hG).readBytecode path))
      fun bytecode => ?_
    exact mirrors_runScript hG script _
  | serialized =>
    refine .bind_same (hcheck _) fun _ => ?_
    refine .bind_same (mirrors_transition_within G _) fun _ => ?_
    refine .bind_same (mirrors_onHost ((Host.mirrors_emitting hG).serialize _)) fun bytecode => ?_
    exact (mirrors_runInFreshRuntime hG script bytecode).weaken (fun _ _ h => h.above)
      fun _ _ _ _ h => h
  | emitHeader output =>
    refine .bind_same (hcheck _) fun _ => .bind_same (hcheck _) fun symbol => ?_
    refine .bind_same (mirrors_transition_within G _) fun _ => ?_
    exact (mirrors_onHost ((Host.mirrors_emitting hG).emitHeader script output symbol)).weaken
      (fun _ _ h => h) fun _ _ _ _ h => ⟨h.1, h.2.above⟩
  | emitBytecode output =>
    refine .bind_same (hcheck _) fun _ => ?_
    refine .bind_same (mirrors_transition_within G _) fun _ => ?_
    exact (mirrors_onHost ((Host.mirrors_emitting hG).emitBytecode script.text output)).weaken
      (fun _ _ h => h) fun _ _ _ _ h => ⟨h.1, h.2.above⟩

theorem mirrors_execute (hG : G.engine.WellFormed) (script : Script) :
    Mirrors (Beside (Host.Above G)) (execute script) (execute script)
      (Same (Beside (Host.Above G))) (Beside (Host.Above G)) := by
  refine .bind_state fun s s' h => ?_
  rw [h.2]
  refine .bind_via (mirrors_onHost (Host.mirrors_createRuntime hG _)) fun runtime => ?_
  refine .bind_same (mirrors_transition_above G _) fun _ => ?_
  refine .bind_via (mirrors_onHost (Host.mirrors_enterNew hG runtime)) fun scope => ?_
  refine .bind_same (mirrors_transition_within G _) fun _ => ?_
  refine .bind_same (.attempt (.onFault (mirrors_dispatch hG script) fun s s' h => ?_))
    fun ran => ?_
  · exact ⟨h.1.abandon _ _ _ _, h.2⟩
  refine .bind_same (mirrors_onHost (.attempt (Host.mirrors_exit hG scope))) fun exited => ?_
  refine .bind_same (mirrors_onHost (.attempt (Host.mirrors_dispose hG runtime)))
    fun disposed => ?_
  exact .ofExcept _ fun _ _ h => h

/-- A run on ground goes as the run without, whichever way it ends. -/
theorem mirrors_run (hG : G.engine.WellFormed) (script : Script) :
    Mirrors (Beside (Host.Above G)) (run script) (run script) (Same (Beside (Host.Above G)))
      (Beside (Host.Above G)) := by
  have hresult : Mirrors (Beside (Host.Above G)) (result script) (result script)
      (Same (Beside (Host.Above G))) (Beside (Host.Above G)) := by
    intro s s' h
    unfold result
    rw [h.2]
    split
    · exact Mirrors.attempt (mirrors_execute hG script) s s' h
    · exact .ok ⟨rfl, h⟩
  refine .bind_same hresult fun r => ?_
  refine .bind_same (.change fun s s' h => ?_) fun _ => .pure fun _ _ h => ⟨rfl, h⟩
  refine ⟨(h.1.note _ _).say _ _, ?_⟩
  exact congrArg (Supervisor.moveTo · (.finished (Outcome.ofResult r).kind)) h.2

end Supervised

/-! Two runs. -/

namespace Host

/-- A host as ground: its engine, and what it has handed out. -/
def ground (h : Host) : Ground := ⟨h.engine, h.hooks, h.sourceContexts⟩

/-- The host over a new engine that fails and reports sizes as its own does. -/
def renewed (h : Host) : Host where
  engine := { Engine.initial with injected := h.engine.injected, sizes := h.engine.sizes }
  files := h.files

theorem above_renewed {h : Host} (hquiet : h.engine.exception = none) :
    Above h.ground h h.renewed := by
  refine ⟨?_, rfl, rfl, rfl⟩
  obtain ⟨e, files, sourceContexts, hooks, messages⟩ := h
  obtain ⟨issued, runtimes, contexts, current, exception, journal, output, injected, sizes⟩ := e
  obtain rfl : exception = none := hquiet
  simp [Engine.atop, ground, renewed, Engine.initial, Table.atop, Ground.entered]

end Host

namespace Supervised

/-- A run is the run over a new engine: it ends alike, prints the same lines after those that
    are there, and leaves the same supervisor and the same files. -/
theorem run_renewed {h : Host} (script : Script) (mode : Mode) (hreach : h.engine.Reachable)
    (hquiet : h.engine.exception = none) :
    (run script (h.under mode)).1 = (run script (h.renewed.under mode)).1 ∧
      (run script (h.under mode)).2.host.engine.output =
        h.engine.output ++ (run script (h.renewed.under mode)).2.host.engine.output ∧
      (run script (h.under mode)).2.supervisor = (run script (h.renewed.under mode)).2.supervisor ∧
      (run script (h.under mode)).2.host.files =
        (run script (h.renewed.under mode)).2.host.files := by
  have hbase : h.ground.engine.WellFormed := Engine.wellFormed_of_reachable hreach
  obtain ⟨hending, habove, hsupervisor⟩ := (mirrors_run hbase script (h.under mode)
    (h.renewed.under mode) ⟨Host.above_renewed hquiet, rfl⟩).same
  exact ⟨hending, congrArg Engine.output habove.engine, hsupervisor, habove.files⟩

/-- **A run does not depend on what was done to the engine before.** Let the same script be run
    in the same mode on two hosts with the same files, of which the system refuses the same, and
    whose engines were used in whatever ways but are quiet, fail alike and report sizes alike. The
    two runs end alike, be it in the same outcome or in the same fault; each prints the same lines
    after those its engine had printed; and they leave the same supervisor, with its history and
    its counts, and the same files. -/
theorem run_independent {h₁ h₂ : Host} (script : Script) (mode : Mode)
    (hreach₁ : h₁.engine.Reachable) (hreach₂ : h₂.engine.Reachable)
    (hquiet₁ : h₁.engine.exception = none) (hquiet₂ : h₂.engine.exception = none)
    (hinjected : h₁.engine.injected = h₂.engine.injected)
    (hsizes : h₁.engine.sizes = h₂.engine.sizes) (hfiles : h₁.files = h₂.files) :
    let r₁ := run script (h₁.under mode)
    let r₂ := run script (h₂.under mode)
    r₁.1 = r₂.1 ∧
      (∃ lines, r₁.2.host.engine.output = h₁.engine.output ++ lines ∧
        r₂.2.host.engine.output = h₂.engine.output ++ lines) ∧
      r₁.2.supervisor = r₂.2.supervisor ∧ r₁.2.host.files = r₂.2.host.files := by
  have hrenewed : h₁.renewed = h₂.renewed := by
    unfold Host.renewed
    rw [hinjected, hsizes, hfiles]
  obtain ⟨hending₁, hprinted₁, hsupervisor₁, hfiles₁⟩ := run_renewed script mode hreach₁ hquiet₁
  obtain ⟨hending₂, hprinted₂, hsupervisor₂, hfiles₂⟩ := run_renewed script mode hreach₂ hquiet₂
  rw [hrenewed] at hending₁ hprinted₁ hsupervisor₁ hfiles₁
  exact ⟨hending₁.trans hending₂.symm, ⟨_, hprinted₁, hprinted₂⟩,
    hsupervisor₁.trans hsupervisor₂.symm, hfiles₁.trans hfiles₂.symm⟩

/-- A host in whose engine a source was run and everything was left as it was then. -/
def deserted (source : String) : Host where
  engine := (occupied .source).host.engine.after (.runScript source ⟨0⟩)
  files := { workingDirectory := [] }
  sourceContexts := 1

theorem reachable_deserted (source : String) : (deserted source).engine.Reachable :=
  .next (reachable_occupied .source) (.runScript source ⟨0⟩)

theorem setting_deserted (source : String) :
    Engine.SameSetting (occupied .source).host.engine (deserted source).engine :=
  (Engine.effects_runScript _ source ⟨0⟩).setting

/-- A script that faults with a task of its own not called. -/
def wrecking : String := "print a\ndefer print b\nfault 0xc0000005"

/-- A script that goes on to a task after it has thrown. -/
def careless : Script := .ofText (.ofText "c.js") "print c\ndefer print d\nthrow e"

/-- Where a script faulted, with its context still entered and a task not called, another one
    runs as it does in a new engine. -/
theorem run_independent_deserted :
    let wreck := deserted wrecking
    let ran := run careless (wreck.under .serialized)
    wreck.engine.current = some ⟨2⟩ ∧ wreck.engine.issued = 3 ∧ wreck.engine.output = ["a"] ∧
      ran.1 = .ok (.scriptError .runSerializedScript .scriptException (some ⟨"e", some 3, some 1⟩)) ∧
      ran.2.host.engine.output = ["a", "c", "d"] ∧ ran.2.supervisor.tasksInvoked = 1 ∧
      ran.2.host.files = (run careless (emptyHost.under .serialized)).2.host.files := by
  have hissued : (deserted wrecking).engine.issued = 3 := by
    decide +kernel
  have hquiet : (deserted wrecking).engine.exception = none := by
    decide +kernel
  have hprinted : (deserted wrecking).engine.output = ["a"] := by
    decide +kernel
  have hfiles : (deserted wrecking).files = emptyHost.files := rfl
  have hsetting := setting_deserted wrecking
  have hreach := reachable_deserted wrecking
  have hempty : emptyHost.engine.Reachable := .initial
  -- no more of the host is needed than these facts
  generalize deserted wrecking = wreck at *
  obtain ⟨hending, ⟨lines, hnew, hafter⟩, hsupervisor, hleft⟩ := run_independent careless .serialized
    hempty hreach rfl hquiet hsetting.injected.symm hsetting.sizes.symm hfiles.symm
  have hlines : lines = ["c", "d"] := hnew.symm.trans (by decide +kernel)
  dsimp only
  rw [← hending, hafter, ← hsupervisor, ← hleft, hprinted, hlines]
  exact ⟨hsetting.current, hissued, rfl, by decide +kernel, rfl, by decide +kernel, rfl⟩

end Supervised
end ScriptHost

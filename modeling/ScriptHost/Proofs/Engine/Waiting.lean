import ScriptHost.Proofs.Engine.Opened
import ScriptHost.Proofs.Engine.Signals
import ScriptHost.Proofs.Engine.Tasks

/- How many calls the pending tasks of a context come to. A task that waits behind some
   `defer`s is called once for each of them and once more for its action, and each call puts
   it back one `defer` less deep. So what a table of tasks still comes to is the sum over its
   tasks, whatever their order; executing adds to it the depth of what is executed, and a call
   that ends well takes one off.

   `Waiting` is the part of `Holding` that this needs. It asks nothing of the exception or of
   injected failures, so it is kept by calls that fail.

   What is proved: `Waiting.executes` for a program, from it `Waiting.runScript` and
   `Waiting.runSerialized` for the calls that run one, and `Waiting.callTask` for the call
   of the first pending task. -/
namespace ScriptHost

/-- The number of calls that pending tasks come to. -/
def callsLeft : List (TaskId × PendingTask) → Nat
  | [] => 0
  | (_, t) :: tasks => t.statement.depth + 1 + callsLeft tasks

/-- The `defer`s of executed statements, all together. -/
def depthOf : List Executed → Nat
  | [] => 0
  | x :: xs => x.statement.depth + depthOf xs

@[simp]
theorem callsLeft_cons (id : TaskId) (t : PendingTask) (tasks : List (TaskId × PendingTask)) :
    callsLeft ((id, t) :: tasks) = t.statement.depth + 1 + callsLeft tasks := rfl

theorem callsLeft_append (tasks new : List (TaskId × PendingTask)) :
    callsLeft (tasks ++ new) = callsLeft tasks + callsLeft new := by
  induction tasks with
  | nil => exact (Nat.zero_add _).symm
  | cons t tasks ih =>
    rw [List.cons_append, callsLeft_cons, callsLeft_cons, ih, Nat.add_assoc _ _ (callsLeft new)]

namespace Engine

/-- The current context has the hook and exactly the tasks. -/
structure Waiting (hook : Hook) (id : ContextId) (tasks : List (TaskId × PendingTask))
    (e : Engine) : Prop where
  context : ∃ c, e.currentContext? = some (id, c) ∧ c.hook = some hook ∧ c.tasks.entries = tasks
  numbered : ∀ t ∈ tasks, t.1.value ≤ e.issued
  distinct : (tasks.map Prod.fst).Nodup

/-- What executing adds to the waiting tasks: the hook is told of the new ones, and they come to
    as many calls as said. -/
def Adds (hook : Hook) (id : ContextId) (tasks : List (TaskId × PendingTask)) (x : Execution)
    (calls : Nat) : Prop :=
  ∃ new, x.signals = hook.told new ∧ callsLeft new = calls ∧ Waiting hook id (tasks ++ new) x.engine

variable {hook : Hook} {id : ContextId} {tasks : List (TaskId × PendingTask)} {e e' : Engine}

theorem Waiting.of_same (h : Waiting hook id tasks e) (hissued : e.issued ≤ e'.issued)
    (hcontexts : e'.contexts = e.contexts) (hcurrent : e'.current = e.current) :
    Waiting hook id tasks e' where
  context := by
    rw [currentContext?, hcurrent, hcontexts]
    exact h.context
  numbered t ht := Nat.le_trans (h.numbered t ht) hissued
  distinct := h.distinct

theorem Waiting.adds_nothing {x : Execution} (h : Waiting hook id tasks x.engine)
    (hsignals : x.signals = []) : Adds hook id tasks x 0 :=
  ⟨[], hsignals, rfl, by rwa [List.append_nil]⟩

theorem Waiting.schedule (h : Waiting hook id tasks e) (line : UInt32) (inner : Statement) :
    Adds hook id tasks (e.schedule line inner) (inner.depth + 1) := by
  obtain ⟨c, hc, hhook, htasks⟩ := h.context
  have hnew : (⟨e.issued + 1⟩ : TaskId) ∉ tasks.map Prod.fst := by
    intro hmem
    obtain ⟨t, ht, heq⟩ := List.mem_map.1 hmem
    have hle := h.numbered t ht
    rw [heq] at hle
    exact Nat.not_succ_le_self _ hle
  refine ⟨[(⟨e.issued + 1⟩, ⟨line, inner⟩)], ?_, rfl, ?_⟩
  · simp only [Engine.schedule, hc, hhook]
    rfl
  simp only [Engine.schedule, hc]
  refine ⟨⟨_, currentContext?_insert hc _ _, hhook, ?_⟩, fun t ht => ?_, ?_⟩
  · have hkeys : (⟨e.issued + 1⟩ : TaskId) ∉ c.tasks.keys := by
      rw [Table.keys, htasks]
      exact hnew
    rw [Table.entries_insert_of_not_mem _ hkeys, htasks]
  · rcases List.mem_append.1 ht with ht | ht
    · exact Nat.le_succ_of_le (h.numbered t ht)
    · obtain rfl := List.mem_singleton.1 ht
      exact Nat.le_refl _
  · rw [List.map_append, List.map_singleton, ← List.concat_eq_append]
    exact h.distinct.concat hnew

/-- A statement adds as many calls as it has `defer`s. -/
theorem Waiting.execute (h : Waiting hook id tasks e) (line : UInt32) (s : Statement) :
    Adds hook id tasks (e.execute line s) s.depth := by
  cases s with
  | act column action =>
    refine adds_nothing ?_ ?_ <;> cases action
    · exact h.of_same (Nat.le_refl _) rfl rfl
    · exact h.of_same (Nat.le_refl _) rfl rfl
    · exact h
    all_goals rfl
  | defer column inner => exact h.schedule line inner

theorem Waiting.executes (h : Waiting hook id tasks e) (p : Program) :
    Adds hook id tasks (e.executeAll p) (depthOf (e.statementsAll p)) := by
  induction p generalizing tasks e with
  | nil => exact h.adds_nothing rfl
  | cons i rest ih =>
    obtain ⟨new, hsignals, hcalls, hwaiting⟩ := h.execute i.line i.statement
    by_cases hok : (e.execute i.line i.statement).ending = .ok ()
    · obtain ⟨-, hengine, hstatements⟩ := executeAll_of_ok hok rest
      -- what the rest defers waits behind what this statement does
      obtain ⟨later, hsignals', hcalls', hwaiting'⟩ := ih hwaiting
      refine ⟨new ++ later, ?_, ?_, ?_⟩
      · rw [executeAll_cons, Execution.andThen, hok]
        dsimp only
        rw [hsignals, hsignals', Hook.told, Hook.told, Hook.told, List.map_append]
      · rw [callsLeft_append, hcalls, hcalls', hstatements]
        rfl
      · rw [hengine, ← List.append_assoc]
        exact hwaiting'
    · obtain ⟨hexecute, hstatements⟩ := executeAll_of_not_ok hok rest
      rw [hexecute, hstatements]
      exact ⟨new, hsignals, hcalls, hwaiting⟩

theorem Waiting.goes (h : Waiting hook id tasks e) {x : Execution} {ss : List Executed}
    (hgoes : Goes e e.contexts x ss) (hsetting : SameSetting e x.engine) :
    Adds hook id tasks x (depthOf ss) := by
  cases hgoes with
  | refused hissued hcontexts =>
    exact adds_nothing (h.of_same (Nat.le_of_eq hissued.symm) hcontexts hsetting.current) rfl
  | executed p hbegun hcontexts =>
    exact (h.of_same (Nat.le_of_eq hbegun.issued.symm) hcontexts
      hbegun.effects.setting.current).executes p

theorem Waiting.runScript (h : Waiting hook id tasks e) (source : String) (tag : SourceContext) :
    Adds hook id tasks (e.runScript source tag) (depthOf (e.statements (.runScript source tag))) :=
  h.goes (e.goes_runScript source tag) (effects_runScript e source tag).setting

theorem Waiting.runSerialized (h : Waiting hook id tasks e) (bytecode : List UInt8)
    (tag : SourceContext) : Adds hook id tasks (e.runSerialized bytecode tag)
      (depthOf (e.statements (.runSerialized bytecode tag))) :=
  h.goes (e.goes_runSerialized bytecode tag) (effects_runSerialized e bytecode tag).setting

theorem Waiting.withoutTask {task : TaskId} {p : PendingTask}
    (h : Waiting hook id ((task, p) :: tasks) e) : Waiting hook id tasks (e.withoutTask task) := by
  obtain ⟨c, hc, hhook, htasks⟩ := h.context
  rw [withoutTask_of_current hc]
  exact ⟨⟨_, currentContext?_insert hc _ e.issued, hhook,
      Table.entries_erase_of_cons h.distinct htasks⟩,
    fun t ht => h.numbered t (List.mem_cons_of_mem _ ht), (List.nodup_cons.1 h.distinct).2⟩

/-- A call of the first task that ends well takes one off what the tasks come to. -/
theorem Waiting.callTask {task : TaskId} {p : PendingTask}
    (h : Waiting hook id ((task, p) :: tasks) e) (hok : (e.callTask task).ending = .ok ()) :
    Adds hook id tasks (e.callTask task) p.statement.depth := by
  rcases e.callTask_cases task with ⟨⟨code, hcall⟩, -⟩ | ⟨id', c, p', -, -, hc, hget, hcall, -⟩
  · rw [hcall] at hok
    cases hok
  · obtain ⟨c', hc', -, htasks⟩ := h.context
    cases hc.symm.trans hc'
    obtain rfl : p' = p := by
      rw [Table.get?_of_cons htasks] at hget
      exact (Option.some.inj hget).symm
    rw [hcall]
    exact h.withoutTask.execute p'.line p'.statement

/-- The current context is a new one: it has neither a hook nor a task. -/
def Unused (e : Engine) : Prop :=
  ∃ id r, e.currentContext? = some (id, { runtime := r })

theorem unused_opened (e : Engine) (a : Attributes) : (e.opened a).Unused :=
  ⟨_, _, currentContext?_opened e a⟩

theorem Unused.waiting (h : e.Unused) (hset : e.setHook (some hook) = (.ok (), e')) :
    ∃ id, Waiting hook id [] e' := by
  obtain ⟨id, r, hcurrent⟩ := h
  rcases e.setHook_cases (some hook) with ⟨code, heq⟩ | ⟨-, id', c, hc, heq⟩
  · cases heq.symm.trans hset
  · cases heq.symm.trans hset
    cases hcurrent.symm.trans hc
    exact ⟨id, ⟨_, currentContext?_insert hc _ e.issued, rfl, rfl⟩, List.forall_mem_nil _,
      List.nodup_nil⟩

end Engine
end ScriptHost

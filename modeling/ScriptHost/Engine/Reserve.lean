import ScriptHost.Engine.Execution

/- Why draining ends. The reserve of an engine is the number of tasks its pending
   tasks can still schedule: the sum of their depths. A call of a pending task
   calls hooks at most as often as it lowers the reserve, so the hooks called over
   any number of task calls are no more than the reserve there was at the start. -/
namespace ScriptHost.Engine

theorem get?_of_currentContext? {e : Engine} {id : ContextId} {c : Context}
    (h : e.currentContext? = some (id, c)) : e.contexts.get? id = some c := by
  unfold currentContext? at h
  split at h
  · cases h
  · obtain ⟨c', hc', heq⟩ := Option.map_eq_some_iff.1 h
    cases heq
    exact hc'

theorem schedule_reserve_le (e : Engine) (line : UInt32) (s : Statement) :
    (e.schedule line s).signals.length + (e.schedule line s).engine.reserve
      ≤ e.reserve + s.depth + 1 := by
  unfold schedule
  split
  · simp only [reserve, List.length_nil]; omega
  · rename_i id c hc
    have hmove := Table.sum_insert_of_get? e.contexts
      (fun c => c.tasks.sum fun t => t.statement.depth)
      { c with tasks := c.tasks.insert ⟨e.issued + 1⟩ ⟨line, s⟩ } (get?_of_currentContext? hc)
    have hadd := Table.sum_insert_le c.tasks (fun t => t.statement.depth)
      (⟨e.issued + 1⟩ : TaskId) ⟨line, s⟩
    have hhook : (c.hook.toList.map (Signal.mk · ⟨e.issued + 1⟩)).length ≤ 1 := by
      cases c.hook <;> simp
    simp only [reserve] at hmove hadd ⊢
    omega

/-- Executing a statement takes from its depth what it adds to the reserve and to the hook calls. -/
theorem execute_reserve_le (e : Engine) (line : UInt32) (s : Statement) :
    (e.execute line s).signals.length + (e.execute line s).engine.reserve
      ≤ e.reserve + s.depth := by
  cases s with
  | act column action => cases action <;> simp [execute, reserve]
  | defer column inner =>
    have h := schedule_reserve_le e line inner
    simp only [execute, Statement.depth_defer]
    omega

theorem callTask_reserve_le (e : Engine) (task : TaskId) :
    (e.callTask task).signals.length + (e.callTask task).engine.reserve ≤ e.reserve := by
  unfold callTask
  split
  · simp
  split
  · simp
  split
  · simp
  rename_i id c hc
  split
  · simp
  rename_i pending hp
  have hdo := execute_reserve_le
    { e with contexts := e.contexts.insert id { c with tasks := c.tasks.erase task } }
    pending.line pending.statement
  have hmove := Table.sum_insert_of_get? e.contexts
    (fun c => c.tasks.sum fun t => t.statement.depth)
    { c with tasks := c.tasks.erase task } (get?_of_currentContext? hc)
  have htake := Table.sum_erase_of_get? c.tasks (fun t => t.statement.depth) hp
  simp only [reserve] at hdo hmove htake ⊢
  omega

end ScriptHost.Engine

import Mathlib.Data.List.Nodup
import ScriptHost.Proofs.Engine.Pending
import ScriptHost.Proofs.Script.Plan

/- The current context while tasks are pending in it. `Holding` fixes what executing
   depends on: the hook, the pending tasks in the order they were deferred, the
   lines printed so far and the pending exception; and that nothing is made to fail.
   Tasks are called in the order in which they are pending, so a call always takes
   the first of them.

   What is proved: what `Holding` becomes when a statement executes, a program
   executes or the first pending task is called, with the ending and the signals of
   each. A program leaves its deferred leaves pending, one `defer` less deep. -/
namespace ScriptHost

/-- How executing ends when it stops at a leaf or, with none, at its end. -/
def codeEnding : Option Leaf → Ending ErrorCode Unit
  | none => .ok ()
  | some l =>
    match l.action with
    | .print _ => .ok ()
    | .throw _ => .error .scriptException
    | .fault code => .fault (.structured code)

/-- A pending task as work to be scheduled. -/
def PendingTask.work (t : PendingTask) : Nat × Leaf :=
  (t.statement.depth, t.statement.leaf t.line)

/-- Pending tasks with their numbers as work to be scheduled. -/
def taskWork (tasks : List (TaskId × PendingTask)) : List (Nat × Leaf) :=
  tasks.map fun t => t.2.work

/-- The signals that tell a hook of tasks. -/
def Hook.told (hook : Hook) (tasks : List (TaskId × PendingTask)) : List Signal :=
  tasks.map fun t => ⟨hook, t.1⟩

namespace Engine

/-- The current context has the hook and exactly the tasks; the lines were printed and the
    exception is pending; and nothing is made to fail. -/
structure Holding (hook : Hook) (tasks : List (TaskId × PendingTask)) (lines : List String)
    (x : Option ScriptException) (e : Engine) : Prop where
  context : ∃ id c, e.currentContext? = some (id, c) ∧ c.hook = some hook ∧
    c.tasks.entries = tasks
  numbered : ∀ t ∈ tasks, t.1.value ≤ e.issued
  distinct : (tasks.map Prod.fst).Nodup
  output : e.output = lines
  exception : e.exception = x
  free : ∀ op, e.injected op = none

variable {hook : Hook} {tasks : List (TaskId × PendingTask)} {lines : List String}
  {x : Option ScriptException} {e : Engine}

theorem Holding.not_mem (h : Holding hook tasks lines x e) :
    (⟨e.issued + 1⟩ : TaskId) ∉ tasks.map Prod.fst := by
  intro hmem
  obtain ⟨t, ht, heq⟩ := List.mem_map.1 hmem
  have hle := h.numbered t ht
  rw [heq] at hle
  exact Nat.not_succ_le_self _ hle

/-! One statement. -/

theorem Holding.execute_act (h : Holding hook tasks lines none e) (line column : UInt32)
    (action : Action) :
    ∃ e', e.execute line (.act column action) =
        ⟨codeEnding (some ⟨line, column, action⟩), e', []⟩ ∧
      Holding hook tasks (lines ++ (Leaf.printed? ⟨line, column, action⟩).toList)
        (Leaf.exception? ⟨line, column, action⟩) e' := by
  have hsilent : e.output = lines ++ [] := by
    rw [h.output, List.append_nil]
  cases action with
  | print text =>
    have hprinted : e.output ++ [text] = lines ++ [text] := by
      rw [h.output]
    exact ⟨_, rfl, h.context, h.numbered, h.distinct, hprinted, h.exception, h.free⟩
  | throw message => exact ⟨_, rfl, h.context, h.numbered, h.distinct, hsilent, rfl, h.free⟩
  | fault code => exact ⟨_, rfl, h.context, h.numbered, h.distinct, hsilent, h.exception, h.free⟩

/-- A deferred statement becomes the last pending task, and the hook is told. -/
theorem Holding.execute_defer (h : Holding hook tasks lines none e) (line column : UInt32)
    (inner : Statement) :
    ∃ id e', e.execute line (.defer column inner) = ⟨.ok (), e', [⟨hook, id⟩]⟩ ∧
      Holding hook (tasks ++ [(id, ⟨line, inner⟩)]) lines none e' := by
  obtain ⟨id, c, hc, hhook, htasks⟩ := h.context
  have hnew : (⟨e.issued + 1⟩ : TaskId) ∉ c.tasks.keys := by
    rw [Table.keys, htasks]
    exact h.not_mem
  refine ⟨⟨e.issued + 1⟩, { e with
      issued := e.issued + 1
      contexts := e.contexts.insert id
        { c with tasks := c.tasks.insert ⟨e.issued + 1⟩ ⟨line, inner⟩ } }, ?_, ?_⟩
  · simp only [execute, schedule, hc, hhook, Option.toList_some, List.map_cons, List.map_nil]
  · refine ⟨⟨id, _, currentContext?_insert hc _ _, hhook, ?_⟩, fun t ht => ?_, ?_, h.output,
      h.exception, h.free⟩
    · rw [Table.entries_insert_of_not_mem _ hnew, htasks]
    · rcases List.mem_append.1 ht with ht | ht
      · exact Nat.le_succ_of_le (h.numbered t ht)
      · obtain rfl := List.mem_singleton.1 ht
        exact Nat.le_refl _
    · rw [List.map_append, List.map_singleton, ← List.concat_eq_append]
      exact h.distinct.concat h.not_mem

/-! A whole program. -/

theorem andThen_of_ok {e₁ : Engine} {signals : List Signal} (next : Engine → Execution) :
    Execution.andThen ⟨.ok (), e₁, signals⟩ next =
      { next e₁ with signals := signals ++ (next e₁).signals } := rfl

theorem andThen_of_stops {l : Leaf} (hstops : l.stops) {e₁ : Engine} {signals : List Signal}
    (next : Engine → Execution) : Execution.andThen ⟨codeEnding (some l), e₁, signals⟩ next =
      ⟨codeEnding (some l), e₁, signals⟩ := by
  obtain ⟨line, column, action⟩ := l
  cases action with
  | print text => cases hstops
  | throw message => rfl
  | fault code => rfl

/-- Executing the program prints its immediate lines, leaves its deferred leaves pending
    behind the tasks there were, and ends where the main program ends. -/
def Executes (hook : Hook) (tasks : List (TaskId × PendingTask)) (lines : List String)
    (p : Program) (e : Engine) : Prop :=
  ∃ new e', e.executeAll p = ⟨codeEnding p.main?, e', hook.told new⟩ ∧
    taskWork new = p.work ∧
    Holding hook (tasks ++ new) (lines ++ p.immediate.filterMap (·.printed?))
      (p.main?.bind (·.exception?)) e'

theorem Holding.executes_stop (h : Holding hook tasks lines none e) {line column : UInt32}
    {action : Action} (hstops : Leaf.stops ⟨line, column, action⟩ = true) (rest : Program) :
    Executes hook tasks lines (⟨line, .act column action⟩ :: rest) e := by
  have hlast : Instruction.stops ⟨line, .act column action⟩ = true := hstops
  have hsilent : Leaf.printed? ⟨line, column, action⟩ = none :=
    Option.isNone_iff_eq_none.1 hstops
  obtain ⟨e₁, hexecute, h₁⟩ := h.execute_act line column action
  refine ⟨[], e₁, ?_, ?_, ?_⟩
  · rw [Engine.executeAll, hexecute, andThen_of_stops hstops, Program.main?_of_stops hlast]
    rfl
  · rw [Program.work, Program.reached_of_stops hlast]
    rfl
  · rw [Program.immediate, Program.reached_of_stops hlast, Program.main?_of_stops hlast,
      List.append_nil]
    rwa [hsilent] at h₁

theorem Holding.executes_print (h : Holding hook tasks lines none e) (line column : UInt32)
    (text : String) {rest : Program}
    (ih : ∀ {e₁}, Holding hook tasks (lines ++ [text]) none e₁ →
      Executes hook tasks (lines ++ [text]) rest e₁) :
    Executes hook tasks lines (⟨line, .act column (.print text)⟩ :: rest) e := by
  have hgoes : Instruction.stops ⟨line, .act column (.print text)⟩ = false := rfl
  obtain ⟨e₁, hexecute, h₁⟩ := h.execute_act line column (.print text)
  obtain ⟨new, e₂, hrest, hwork, h₂⟩ := ih h₁
  refine ⟨new, e₂, ?_, ?_, ?_⟩
  · rw [Engine.executeAll, hexecute]
    show Execution.andThen ⟨.ok (), e₁, []⟩ _ = _
    rw [andThen_of_ok, hrest, Program.main?_of_not_stops hgoes]
    rfl
  · rw [Program.work, Program.reached_of_not_stops hgoes]
    exact hwork
  · rw [Program.main?_of_not_stops hgoes, Program.immediate, Program.reached_of_not_stops hgoes]
    rw [List.append_assoc] at h₂
    exact h₂

theorem Holding.executes_defer (h : Holding hook tasks lines none e) (line column : UInt32)
    (inner : Statement) {rest : Program}
    (ih : ∀ {id e₁}, Holding hook (tasks ++ [(id, ⟨line, inner⟩)]) lines none e₁ →
      Executes hook (tasks ++ [(id, ⟨line, inner⟩)]) lines rest e₁) :
    Executes hook tasks lines (⟨line, .defer column inner⟩ :: rest) e := by
  have hgoes : Instruction.stops ⟨line, .defer column inner⟩ = false := rfl
  obtain ⟨id, e₁, hexecute, h₁⟩ := h.execute_defer line column inner
  obtain ⟨new, e₂, hrest, hwork, h₂⟩ := ih h₁
  refine ⟨(id, ⟨line, inner⟩) :: new, e₂, ?_, ?_, ?_⟩
  · rw [Engine.executeAll, hexecute, andThen_of_ok, hrest, Program.main?_of_not_stops hgoes]
    rfl
  · rw [Program.work, Program.reached_of_not_stops hgoes]
    exact congrArg (List.cons _) hwork
  · rw [Program.main?_of_not_stops hgoes, Program.immediate, Program.reached_of_not_stops hgoes]
    rw [List.append_assoc] at h₂
    exact h₂

/-- Every program executes so. -/
theorem Holding.executeAll (h : Holding hook tasks lines none e) (p : Program) :
    Executes hook tasks lines p e := by
  induction p generalizing tasks lines e with
  | nil =>
    refine ⟨[], e, rfl, rfl, ?_⟩
    simpa [Program.immediate, Program.reached, Program.main?] using h
  | cons i rest ih =>
    obtain ⟨line, s⟩ := i
    cases s with
    | act column action =>
      cases action with
      | print text => exact h.executes_print line column text ih
      | throw message => exact h.executes_stop rfl rest
      | fault code => exact h.executes_stop rfl rest
    | defer column inner => exact h.executes_defer line column inner ih

/-! The calls. -/

theorem setHook_holding {id : ContextId} {r : RuntimeId} (hook : Hook)
    (hcontext : e.currentContext? = some (id, { runtime := r })) (hquiet : e.exception = none)
    (hfree : ∀ op, e.injected op = none) :
    ∃ e', e.setHook (some hook) = (.ok (), e') ∧ Holding hook [] e.output none e' := by
  refine ⟨_, ?_, ⟨id, { runtime := r, hook := some hook },
    currentContext?_insert hcontext _ e.issued, rfl, rfl⟩, ?_, List.nodup_nil, rfl,
    hquiet, hfree⟩
  · rw [setHook, unlessInjected_of_none _ (hfree _), hcontext]
  · intro t ht
    cases ht

/-- Calling the first pending task takes it and executes its statement. -/
theorem Holding.callTask {id : TaskId} {t : PendingTask}
    (h : Holding hook ((id, t) :: tasks) lines none e) :
    ∃ e', e.callTask id = e'.execute t.line t.statement ∧ Holding hook tasks lines none e' := by
  obtain ⟨current, c, hc, hhook, htasks⟩ := h.context
  have hget : c.tasks.get? id = some t := Table.get?_of_cons htasks
  have herase := Table.entries_erase_of_cons h.distinct htasks
  refine ⟨{ e with contexts := e.contexts.insert current { c with tasks := c.tasks.erase id } },
    ?_, ⟨current, _, currentContext?_insert hc _ e.issued, hhook, herase⟩,
    fun entry hentry => h.numbered entry (List.mem_cons_of_mem _ hentry),
    (List.nodup_cons.1 h.distinct).2, h.output, h.exception, h.free⟩
  simp only [Engine.callTask, h.free, h.exception, hc, hget, Option.isSome_none, Bool.false_eq_true,
    if_false]

theorem Holding.record (h : Holding hook tasks lines x e) (entry : JournalEntry) :
    Holding hook tasks lines x (e.record entry) :=
  ⟨h.context, h.numbered, h.distinct, h.output, h.exception, h.free⟩

theorem Holding.current_isSome (h : Holding hook tasks lines x e) :
    e.currentContext?.isNone = false := by
  obtain ⟨id, c, hc, -⟩ := h.context
  rw [hc]
  rfl

theorem Holding.runScript (h : Holding hook tasks lines none e) {source : String} {p : Program}
    (hparse : Program.parse source = .ok p) (tag : SourceContext) :
    e.runScript source tag = (e.record (.runScript tag)).executeAll p := by
  simp only [Engine.runScript, whenCurrent, h.free, h.current_isSome, Bool.false_eq_true, if_false,
    compile, hparse, executeProgram, (h.record _).exception, Option.isSome_none]

theorem Holding.runSerialized (h : Holding hook tasks lines none e) {bytecode : List UInt8}
    {p : Program} (hdecode : Bytecode.decode bytecode = some p) (tag : SourceContext) :
    e.runSerialized bytecode tag = (e.record (.runSerializedScript tag)).executeAll p := by
  simp only [Engine.runSerialized, whenCurrent, h.free, h.current_isSome, Bool.false_eq_true,
    if_false, hdecode, executeProgram, (h.record _).exception, Option.isSome_none]

theorem Holding.runScript_error (h : Holding hook tasks lines none e) {source : String}
    {err : CompileError} (hparse : Program.parse source = .error err) (tag : SourceContext) :
    ∃ e', e.runScript source tag = ⟨.error .scriptCompile, e', []⟩ ∧
      Holding hook tasks lines (some err.toException) e' := by
  refine ⟨{ e.record (.runScript tag) with exception := some err.toException }, ?_,
    h.context, h.numbered, h.distinct, h.output, rfl, h.free⟩
  simp only [Engine.runScript, whenCurrent, h.free, h.current_isSome, Bool.false_eq_true, if_false,
    compile, hparse]

end Engine
end ScriptHost

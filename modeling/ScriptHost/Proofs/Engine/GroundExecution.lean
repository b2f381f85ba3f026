import ScriptHost.Proofs.Engine.Ground
import ScriptHost.Proofs.Engine.Pending

/- Executing on ground. A call that acts in the current context looks at nothing but that
   context and the counter, so where the context is not the ground's the call does on
   ground what it does without: it ends alike, prints alike, and its signals are those
   of the hooks and the tasks as they are numbered there.

   What is proved: one equation for each such call, `execute_atop` for a statement and
   from it `runScript_atop`, `runSerialized_atop` and `callTask_atop`. -/
namespace ScriptHost

namespace Ground

variable (G : Ground) (c : Context)

theorem task_not_mem_empty (t : TaskId) :
    G.task t ∉ (Table.empty : Table TaskId PendingTask).keys :=
  List.not_mem_nil

theorem get?_record (t : TaskId) : (G.record c).tasks.get? (G.task t) = c.tasks.get? t := by
  rw [record, Table.get?_atop G.task_injective (G.task_not_mem_empty t), Option.map_id]
  rfl

theorem record_insert (t : TaskId) (p : PendingTask) :
    { G.record c with tasks := (G.record c).tasks.insert (G.task t) p } =
      G.record { c with tasks := c.tasks.insert t p } :=
  congrArg (fun tasks => { G.record c with tasks := tasks })
    (Table.insert_atop G.task_injective (G.task_not_mem_empty t) p)

theorem record_erase (t : TaskId) :
    { G.record c with tasks := (G.record c).tasks.erase (G.task t) } =
      G.record { c with tasks := c.tasks.erase t } :=
  congrArg (fun tasks => { G.record c with tasks := tasks })
    (Table.erase_atop G.task_injective (G.task_not_mem_empty t))

theorem signals_hook (hook : Option Hook) (t : TaskId) :
    ((hook.map G.hook).toList.map (⟨·, G.task t⟩) : List Signal) =
      (hook.toList.map (⟨·, t⟩)).map G.signal := by
  cases hook <;> rfl

end Ground

namespace Engine

variable {G : Ground} {e : Engine}

theorem contexts_insert_atop (hG : G.engine.WellFormed) (e : Engine) (id : ContextId)
    (c : Context) :
    { e.atop G with contexts := (e.atop G).contexts.insert (G.context id) (G.record c) } =
      { e with contexts := e.contexts.insert id c }.atop G :=
  congrArg (fun contexts => { e.atop G with contexts := contexts })
    (Table.insert_atop G.context_injective (Ground.context_not_mem hG id) c)

theorem record_atop (G : Ground) (e : Engine) (entry : JournalEntry) :
    (e.atop G).record (G.entry entry) = (e.record entry).atop G :=
  congrArg (fun journal => { e.atop G with journal := journal }) (journal_append G e entry)

/-! Statements and programs. -/

theorem schedule_atop (hG : G.engine.WellFormed) (he : e.current.isSome) (line : UInt32)
    (s : Statement) : (e.atop G).schedule line s = (e.schedule line s).atop G := by
  unfold schedule
  rw [currentContext?_atop hG he, next_task, next_issued]
  cases e.currentContext? with
  | none => exact congrArg (fun e' => (⟨.error .noCurrentContext, e', []⟩ : Execution)) rfl
  | some entry =>
    obtain ⟨id, c⟩ := entry
    dsimp only [Option.map_some]
    have hsignals := G.signals_hook c.hook ⟨e.issued + 1⟩
    have hcontexts := contexts_insert_atop hG { e with issued := e.issued + 1 } id
      { c with tasks := c.tasks.insert ⟨e.issued + 1⟩ ⟨line, s⟩ }
    rw [G.record_insert]
    exact congr (congrArg (Execution.mk (.ok ())) hcontexts) hsignals

theorem execute_atop (hG : G.engine.WellFormed) (he : e.current.isSome) (line : UInt32)
    (s : Statement) : (e.atop G).execute line s = (e.execute line s).atop G := by
  cases s with
  | act column action =>
    cases action with
    | print text =>
      have houtput : (e.atop G).output ++ [text] = G.engine.output ++ (e.output ++ [text]) :=
        List.append_assoc _ _ _
      exact congrArg (fun output => (⟨.ok (), { e.atop G with output := output }, []⟩ : Execution))
        houtput
    | throw message => rfl
    | fault code => rfl
  | defer column inner => exact schedule_atop hG he line inner

theorem andThen_atop (G : Ground) (x : Execution) {next next' : Engine → Execution}
    (h : next' (x.engine.atop G) = (next x.engine).atop G) :
    (x.atop G).andThen next' = (x.andThen next).atop G := by
  obtain ⟨ending, e, signals⟩ := x
  cases ending with
  | ok =>
    show { next' (e.atop G) with signals := signals.map G.signal ++ (next' (e.atop G)).signals } =
      Execution.atop { next e with signals := signals ++ (next e).signals } G
    rw [h, Execution.atop, Execution.atop, List.map_append]
  | error code => rfl
  | fault code => rfl

theorem executeAll_atop (hG : G.engine.WellFormed) (he : e.current.isSome) (p : Program) :
    (e.atop G).executeAll p = (e.executeAll p).atop G := by
  induction p generalizing e with
  | nil => rfl
  | cons i rest ih =>
    have hcurrent : (e.execute i.line i.statement).engine.current.isSome := by
      rw [(effects_execute e i.line i.statement).setting.current]
      exact he
    rw [executeAll, execute_atop hG he, executeAll]
    exact andThen_atop G _ (ih hcurrent)

theorem executeProgram_atop (hG : G.engine.WellFormed) (he : e.current.isSome) (p : Program) :
    (e.atop G).executeProgram p = (e.executeProgram p).atop G := by
  have hexception : (e.atop G).exception = e.exception := rfl
  unfold executeProgram
  rw [hexception]
  split
  · rfl
  · exact executeAll_atop hG he p

theorem compile_atop (G : Ground) (e : Engine) (source : String) :
    (e.atop G).compile source = ((e.compile source).1, (e.compile source).2.atop G) := by
  unfold compile
  cases Program.parse source with
  | ok p => rfl
  | error err => rfl

/-! Calls in the current context. -/

theorem whenCurrent_atop {α β : Type} (hG : G.engine.WellFormed) (he : e.current.isSome)
    (op : Operation) (f : β → α) {fail : ErrorCode → α} {fail' : ErrorCode → β} {call : α}
    {call' : β} (hfail : ∀ code, fail code = f (fail' code)) (hcall : call = f call') :
    (e.atop G).whenCurrent op fail call = f (e.whenCurrent op fail' call') := by
  have hinjected : (e.atop G).injected op = e.injected op := rfl
  unfold whenCurrent
  rw [hinjected, currentContext?_atop hG he, Option.isNone_map]
  cases e.injected op with
  | some code => exact hfail code
  | none =>
    cases e.currentContext?.isNone with
    | true => exact hfail _
    | false => exact hcall

theorem setHook_atop (hG : G.engine.WellFormed) (he : e.current.isSome) (hook : Option Hook) :
    (e.atop G).setHook (hook.map G.hook) =
      ((e.setHook hook).1.map id, (e.setHook hook).2.atop G) := by
  apply unlessInjected_atop
  rw [currentContext?_atop hG he]
  cases e.currentContext? with
  | none => rfl
  | some entry =>
    obtain ⟨id, c⟩ := entry
    exact Prod.ext rfl (contexts_insert_atop hG e id { c with hook := hook })

theorem serializedSize_atop (hG : G.engine.WellFormed) (he : e.current.isSome) (source : String) :
    (e.atop G).serializedSize source =
      ((e.serializedSize source).1.map id, (e.serializedSize source).2.atop G) := by
  apply whenCurrent_atop hG he _ fun r : Except ErrorCode Nat × Engine => (r.1.map id, r.2.atop G)
  · intro code
    rfl
  · rw [compile_atop]
    obtain ⟨code | p, e'⟩ := e.compile source
    · rfl
    · rfl

theorem serializeInto_atop (hG : G.engine.WellFormed) (he : e.current.isSome) (source : String)
    (buffer : List UInt8) :
    (e.atop G).serializeInto source buffer = ((e.serializeInto source buffer).1,
      (e.serializeInto source buffer).2.1, (e.serializeInto source buffer).2.2.atop G) := by
  apply whenCurrent_atop hG he _
    fun r : Except ErrorCode Nat × List UInt8 × Engine => (r.1, r.2.1, r.2.2.atop G)
  · intro code
    rfl
  · rw [compile_atop]
    obtain ⟨code | p, e'⟩ := e.compile source
    · rfl
    · have hsizes : (e.atop G).sizes = e.sizes := rfl
      by_cases hshort : buffer.length < (Bytecode.encode p).length
      · simp [hshort]
      · simp [hshort, hsizes]

theorem runScript_atop (hG : G.engine.WellFormed) (he : e.current.isSome) (source : String)
    (tag : SourceContext) :
    (e.atop G).runScript source (G.source tag) = (e.runScript source tag).atop G := by
  have hrecord : (e.atop G).record (.runScript (G.source tag)) =
      (e.record (.runScript tag)).atop G := record_atop G e (.runScript tag)
  have hcurrent := (effects_compile (e.record (.runScript tag)) source).setting.current
  apply whenCurrent_atop hG he _ (Execution.atop · G)
  · intro code
    rfl
  · rw [hrecord, compile_atop]
    generalize (e.record (.runScript tag)).compile source = r at hcurrent
    obtain ⟨code | p, e'⟩ := r
    · rfl
    · have he' : e'.current.isSome := by
        rw [hcurrent]
        exact he
      exact executeProgram_atop hG he' p

theorem runSerialized_atop (hG : G.engine.WellFormed) (he : e.current.isSome)
    (bytecode : List UInt8) (tag : SourceContext) :
    (e.atop G).runSerialized bytecode (G.source tag) = (e.runSerialized bytecode tag).atop G := by
  have hrecord : (e.atop G).record (.runSerializedScript (G.source tag)) =
      (e.record (.runSerializedScript tag)).atop G := record_atop G e (.runSerializedScript tag)
  apply whenCurrent_atop hG he _ (Execution.atop · G)
  · intro code
    rfl
  · rw [hrecord]
    cases Bytecode.decode bytecode with
    | none => rfl
    | some p => exact executeProgram_atop (e := e.record (.runSerializedScript tag)) hG he p

theorem callTask_atop (hG : G.engine.WellFormed) (he : e.current.isSome) (t : TaskId) :
    (e.atop G).callTask (G.task t) = (e.callTask t).atop G := by
  have hinjected : (e.atop G).injected .callTask = e.injected .callTask := rfl
  have hexception : (e.atop G).exception = e.exception := rfl
  unfold callTask
  rw [hinjected, hexception, currentContext?_atop hG he]
  cases e.injected .callTask with
  | some code => rfl
  | none =>
    cases e.exception.isSome with
    | true => rfl
    | false =>
      cases hc : e.currentContext? with
      | none => rfl
      | some entry =>
        obtain ⟨id, c⟩ := entry
        dsimp only [Option.map_some]
        rw [G.get?_record]
        cases c.tasks.get? t with
        | none => rfl
        | some p =>
          have hcontexts := contexts_insert_atop hG e id { c with tasks := c.tasks.erase t }
          have hexecute := execute_atop
            (e := { e with contexts := e.contexts.insert id { c with tasks := c.tasks.erase t } })
            hG he p.line p.statement
          rw [← hcontexts, ← G.record_erase] at hexecute
          exact hexecute

end Engine
end ScriptHost

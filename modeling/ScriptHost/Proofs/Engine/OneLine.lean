import ScriptHost.Proofs.Engine.Opened
import ScriptHost.Proofs.Script.OneLine

/- One-line exceptions. An exception gets its message from a statement that throws or from
   a source that does not compile. A statement that throws was executed from a program or
   from a task, and a task was deferred by a program; so while the tasks of the current
   context and the programs that are run have one-line texts, so have the exceptions.

   What is proved: `Engine.OneLine` is kept by every call that executes or compiles. Other
   contexts may hold anything: their tasks are not called. -/
namespace ScriptHost.Engine

/-- The pending exception, if there is one, has a message of one line. -/
def PendsOneLine (e : Engine) : Prop := ∀ x, e.exception = some x → x.OneLine

/-- What the current context can still raise has a message of one line, and so has the pending
    exception. -/
structure OneLine (e : Engine) : Prop where
  pends : e.PendsOneLine
  tasks : ∀ {id c task t}, e.currentContext? = some (id, c) → c.tasks.get? task = some t →
    t.statement.OneLine

theorem PendsOneLine.pending {e : Engine} {x : ScriptException} (hx : x.OneLine) :
    { e with exception := some x }.PendsOneLine := by
  intro y hy
  cases hy
  exact hx

theorem PendsOneLine.handled {e : Engine} (h : e.PendsOneLine) (error : Option ErrorCode) :
    (e.handled error).PendsOneLine := by
  unfold Engine.handled
  split
  · split
    · exact nofun
    · exact h
  · exact h

namespace OneLine

variable {e : Engine}

theorem handled (h : e.OneLine) (error : Option ErrorCode) : (e.handled error).OneLine := by
  refine ⟨h.pends.handled error, ?_⟩
  obtain ⟨x, heq, -⟩ := handled_eq e error
  rw [heq]
  exact h.tasks

theorem record (h : e.OneLine) (entry : JournalEntry) : (e.record entry).OneLine :=
  ⟨h.pends, h.tasks⟩

theorem insert (h : e.OneLine) {id : ContextId} {c c' : Context}
    (hc : e.currentContext? = some (id, c)) (n : Nat)
    (htasks : ∀ {task t}, c'.tasks.get? task = some t → t.statement.OneLine) :
    { e with issued := n, contexts := e.contexts.insert id c' }.OneLine := by
  refine ⟨h.pends, fun hcurrent hget => ?_⟩
  cases (currentContext?_insert hc c' n).symm.trans hcurrent
  exact htasks hget

/-! Statements and programs. -/

theorem schedule (h : e.OneLine) (line : UInt32) {s : Statement} (hs : s.OneLine) :
    (e.schedule line s).engine.OneLine := by
  unfold Engine.schedule
  split
  · exact ⟨h.pends, h.tasks⟩
  · rename_i id c hc
    refine h.insert hc _ fun {task t} hget => ?_
    by_cases htask : task = ⟨e.issued + 1⟩
    · rw [htask, Table.get?_insert_self] at hget
      cases hget
      exact hs
    · rw [Table.get?_insert_of_ne _ _ htask] at hget
      exact h.tasks hc hget

theorem execute (h : e.OneLine) (line : UInt32) {s : Statement} (hs : s.OneLine) :
    (e.execute line s).engine.OneLine := by
  cases s with
  | act column action =>
    cases action with
    | print text => exact ⟨h.pends, h.tasks⟩
    | throw message => exact ⟨.pending (hs message rfl), h.tasks⟩
    | fault code => exact h
  | defer column inner => exact h.schedule line hs

theorem executeAll (h : e.OneLine) {p : Program} (hp : p.OneLine) :
    (e.executeAll p).engine.OneLine := by
  induction p generalizing e with
  | nil => exact h
  | cons i rest ih =>
    obtain ⟨hi, hrest⟩ := List.forall_mem_cons.1 hp
    have hfirst := h.execute i.line hi
    rw [Engine.executeAll, Execution.andThen]
    split
    · exact ih hfirst hrest
    · exact hfirst
    · exact hfirst

theorem executeProgram (h : e.OneLine) {p : Program} (hp : p.OneLine) :
    (e.executeProgram p).engine.OneLine := by
  unfold Engine.executeProgram
  split
  · exact h
  · exact h.executeAll hp

/-! Calls. -/

theorem compile (h : e.OneLine) (source : String) :
    (e.compile source).2.OneLine ∧ ∀ p, (e.compile source).1 = .ok p → p.OneLine := by
  unfold Engine.compile
  split
  · rename_i p hparse
    refine ⟨h, fun q hq => ?_⟩
    cases hq
    exact Program.oneLine_of_parse hparse
  · rename_i err hparse
    exact ⟨⟨.pending (CompileError.oneLine_of_parse hparse), h.tasks⟩, nofun⟩

theorem serializedSize (h : e.OneLine) (source : String) : (e.serializedSize source).2.OneLine := by
  have hcompile := (h.compile source).1
  unfold Engine.serializedSize whenCurrent
  split
  · exact h
  split
  · exact h
  split <;> rename_i heq <;> rwa [heq] at hcompile

theorem serializeInto (h : e.OneLine) (source : String) (buffer : List UInt8) :
    (e.serializeInto source buffer).2.2.OneLine := by
  have hcompile := (h.compile source).1
  unfold Engine.serializeInto whenCurrent
  split
  · exact h
  split
  · exact h
  split
  · rename_i heq
    rwa [heq] at hcompile
  · rename_i heq
    rw [heq] at hcompile
    dsimp only
    split <;> exact hcompile

theorem runScript (h : e.OneLine) (source : String) (tag : SourceContext) :
    (e.runScript source tag).engine.OneLine := by
  obtain ⟨hcompile, hprogram⟩ := (h.record (.runScript tag)).compile source
  unfold Engine.runScript whenCurrent
  split
  · exact h
  split
  · exact h
  split
  · rename_i heq
    rwa [heq] at hcompile
  · rename_i p e' heq
    rw [heq] at hcompile hprogram
    exact hcompile.executeProgram (hprogram p rfl)

theorem runSerialized (h : e.OneLine) {bytecode : List UInt8} (tag : SourceContext)
    (hbytecode : ∀ p, Bytecode.decode bytecode = some p → p.OneLine) :
    (e.runSerialized bytecode tag).engine.OneLine := by
  have hrecord := h.record (.runSerializedScript tag)
  unfold Engine.runSerialized whenCurrent
  split
  · exact h
  split
  · exact h
  dsimp only
  split
  · exact hrecord
  · rename_i p hdecode
    exact hrecord.executeProgram (hbytecode p hdecode)

theorem callTask (h : e.OneLine) (task : TaskId) : (e.callTask task).engine.OneLine := by
  unfold Engine.callTask
  split
  · exact h
  split
  · exact h
  split
  · exact h
  rename_i id c hc
  split
  · exact h
  rename_i pending hpending
  refine execute (h.insert hc e.issued fun {other t} hget => ?_) _ (h.tasks hc hpending)
  by_cases hother : other = task
  · rw [hother, Table.get?_erase_self] at hget
    cases hget
  · rw [Table.get?_erase_of_ne _ hother] at hget
    exact h.tasks hc hget

theorem setHook (h : e.OneLine) (hook : Option Hook) : (e.setHook hook).2.OneLine := by
  rcases e.setHook_cases hook with ⟨code, heq⟩ | ⟨-, id, c, hc, heq⟩ <;> rw [heq]
  · exact h
  · exact h.insert hc e.issued fun hget => h.tasks hc hget

end OneLine

theorem PendsOneLine.entered {e : Engine} (h : e.PendsOneLine) (r : RuntimeId) :
    ((e.withContext r).withCurrent (some ⟨e.issued + 1⟩)).OneLine := by
  refine ⟨h, fun {id c task t} hcurrent hget => ?_⟩
  have hcontext : ((e.withContext r).withCurrent (some ⟨e.issued + 1⟩)).currentContext? =
      some (⟨e.issued + 1⟩, { runtime := r }) := by
    show ((e.contexts.insert ⟨e.issued + 1⟩ { runtime := r }).get? ⟨e.issued + 1⟩).map _ = _
    rw [Table.get?_insert_self]
    rfl
  cases hcontext.symm.trans hcurrent
  cases hget

end ScriptHost.Engine

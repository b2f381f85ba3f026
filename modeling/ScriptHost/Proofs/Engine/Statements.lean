import ScriptHost.Proofs.Engine.Reachable

/- The statements that a call executes, each with the engine it is executed in. A call
   that executes is refused before its first statement, or it executes a program: the
   one that was compiled or decoded, or the single statement of a pending task. What
   such a call does to the engine is then told by its statements.

   What is proved:
     1. `performs_runScript`, `performs_runSerialized` and `performs_callTask` — the two
        ways in which a call can go.
     2. `Performs.output` — it prints what its statements print, however it ends.
     3. `Performs.fault_of_mem` and `Performs.exists_fault` — it faults exactly when one of
        its statements does, with that code, and leaves the engine as that statement met it.
     4. `Performs.scene` — it leaves alone the runtimes, which context is current, the hook
        on it, and but for the entry of the run the journal. -/
namespace ScriptHost

/-- A statement at the moment it is executed. -/
structure Executed where
  engine : Engine
  line : UInt32
  statement : Statement

namespace Executed

def execution (x : Executed) : Execution :=
  x.engine.execute x.line x.statement

def printed? (x : Executed) : Option String :=
  match x.statement with
  | .act _ (.print text) => some text
  | _ => none

def fault? (x : Executed) : Option UInt32 :=
  match x.statement with
  | .act _ (.fault code) => some code
  | _ => none

/-- The task the statement schedules; with no current context there is nowhere to schedule it. -/
def scheduled? (x : Executed) : Option TaskId :=
  match x.statement with
  | .defer _ _ => x.engine.currentContext?.map fun _ => ⟨x.engine.issued + 1⟩
  | .act _ _ => none

theorem output_execution (x : Executed) :
    x.execution.engine.output = x.engine.output ++ x.printed?.toList := by
  obtain ⟨e, line, s⟩ := x
  cases s with
  | act column action =>
    cases action with
    | print text => rfl
    | throw message => exact (List.append_nil _).symm
    | fault code => exact (List.append_nil _).symm
  | defer column inner =>
    show (e.schedule line inner).engine.output = e.output ++ []
    rw [List.append_nil, Engine.schedule]
    split <;> rfl

/-- A statement that faults leaves the engine as it was. -/
theorem execution_of_fault {x : Executed} {code : UInt32} (h : x.fault? = some code) :
    x.execution = ⟨.fault (.structured code), x.engine, []⟩ := by
  obtain ⟨e, line, s⟩ := x
  cases s with
  | act column action =>
    cases action with
    | print text => cases h
    | throw message => cases h
    | fault code' =>
      cases h
      rfl
  | defer column inner => cases h

theorem fault?_of_execution {x : Executed} {payload : Payload}
    (h : x.execution.ending = .fault payload) :
    ∃ code, payload = .structured code ∧ x.fault? = some code := by
  obtain ⟨e, line, s⟩ := x
  cases s with
  | act column action =>
    cases action with
    | print text => cases h
    | throw message => cases h
    | fault code =>
      cases h
      exact ⟨code, rfl, rfl⟩
  | defer column inner =>
    have hschedule : (e.schedule line inner).ending = .fault payload := h
    unfold Engine.schedule at hschedule
    split at hschedule <;> cases hschedule

theorem pending_of_scheduled {x : Executed} {task : TaskId} (h : x.scheduled? = some task) :
    ∃ id c column inner, x.statement = .defer column inner ∧
      x.engine.currentContext? = some (id, c) ∧
      x.execution.engine.currentContext? =
        some (id, { c with tasks := c.tasks.insert task ⟨x.line, inner⟩ }) ∧
      x.execution.signals = c.hook.toList.map (⟨·, task⟩) := by
  obtain ⟨e, line, s⟩ := x
  cases s with
  | act column action => cases h
  | defer column inner =>
    obtain ⟨⟨id, c⟩, hc, rfl⟩ := Option.map_eq_some_iff.1 h
    dsimp only at hc
    refine ⟨id, c, column, inner, rfl, hc, ?_, ?_⟩
    · show (e.schedule line inner).engine.currentContext? = _
      rw [Engine.schedule, hc]
      exact Engine.currentContext?_insert hc _ _
    · show (e.schedule line inner).signals = _
      rw [Engine.schedule, hc]

end Executed

namespace Engine

/-- The statements that executing instructions comes to, up to the first that does not end well. -/
def statementsAll (e : Engine) : Program → List Executed
  | [] => []
  | i :: rest =>
    let x : Executed := ⟨e, i.line, i.statement⟩
    x :: if x.execution.ending.isOk then x.execution.engine.statementsAll rest else []

/-- The engine and the program that a call executes, if it executes. -/
def program? (e : Engine) : EngineCall → Option (Engine × Program)
  | .runScript source tag =>
    e.whenCurrent .runScript (fun _ => none) <|
      match (e.record (.runScript tag)).compile source with
      | (.error _, _) => none
      | (.ok p, e') => if e'.exception.isSome then none else some (e', p)
  | .runSerialized bytecode tag =>
    e.whenCurrent .runSerializedScript (fun _ => none) <|
      let e' := e.record (.runSerializedScript tag)
      match Bytecode.decode bytecode with
      | none => none
      | some p => if e'.exception.isSome then none else some (e', p)
  | .callTask task =>
    if (e.injected .callTask).isSome ∨ e.exception.isSome then none
    else
      match e.currentContext? with
      | none => none
      | some (id, c) =>
        (c.tasks.get? task).map fun pending =>
          ({ e with contexts := e.contexts.insert id { c with tasks := c.tasks.erase task } },
            [⟨pending.line, pending.statement⟩])
  | _ => none

/-- The statements that a call executes, in order. -/
def statements (e : Engine) (call : EngineCall) : List Executed :=
  match e.program? call with
  | none => []
  | some (e', p) => e'.statementsAll p

/-- What statements leave alone: the journal, the runtimes, and the current context with its
    runtime and its hook. -/
structure Scene where
  journal : List JournalEntry
  runtimes : Table RuntimeId Attributes
  current : Option ContextId
  entered : Option (ContextId × RuntimeId × Option Hook)

def scene (e : Engine) : Scene where
  journal := e.journal
  runtimes := e.runtimes
  current := e.current
  entered := e.currentContext?.map fun c => (c.1, c.2.runtime, c.2.hook)

/-! Programs. -/

theorem executeAll_cons (e : Engine) (i : Instruction) (rest : Program) :
    e.executeAll (i :: rest) =
      (e.execute i.line i.statement).andThen fun e' => e'.executeAll rest := rfl

theorem executeAll_singleton (e : Engine) (line : UInt32) (s : Statement) :
    e.executeAll [⟨line, s⟩] = e.execute line s := by
  rw [executeAll_cons, Execution.andThen]
  split
  · rename_i hok
    generalize hx : e.execute line s = x at hok
    obtain ⟨ending, e', signals⟩ := x
    simp only at hok
    rw [hok]
    simp [executeAll]
  · rfl
  · rfl

theorem executeAll_of_ok {e : Engine} {i : Instruction}
    (h : (e.execute i.line i.statement).ending = .ok ()) (rest : Program) :
    (e.executeAll (i :: rest)).ending =
        ((e.execute i.line i.statement).engine.executeAll rest).ending ∧
      (e.executeAll (i :: rest)).engine =
        ((e.execute i.line i.statement).engine.executeAll rest).engine ∧
      e.statementsAll (i :: rest) = ⟨e, i.line, i.statement⟩ ::
        (e.execute i.line i.statement).engine.statementsAll rest := by
  rw [executeAll_cons, Execution.andThen, h, statementsAll, Executed.execution, h]
  exact ⟨rfl, rfl, rfl⟩

theorem executeAll_of_not_ok {e : Engine} {i : Instruction}
    (h : (e.execute i.line i.statement).ending ≠ .ok ()) (rest : Program) :
    e.executeAll (i :: rest) = e.execute i.line i.statement ∧
      e.statementsAll (i :: rest) = [⟨e, i.line, i.statement⟩] := by
  have hnot : (e.execute i.line i.statement).ending.isOk = false := by
    revert h
    cases (e.execute i.line i.statement).ending with
    | ok => exact fun h => absurd rfl h
    | error code => exact fun _ => rfl
    | fault code => exact fun _ => rfl
  constructor
  · rw [executeAll_cons, Execution.andThen]
    split
    · rename_i hok
      exact absurd hok h
    · rfl
    · rfl
  · rw [statementsAll, Executed.execution, hnot]
    rfl

theorem output_executeAll (e : Engine) (p : Program) :
    (e.executeAll p).engine.output = e.output ++ (e.statementsAll p).filterMap (·.printed?) := by
  induction p generalizing e with
  | nil => exact (List.append_nil _).symm
  | cons i rest ih =>
    have hfirst := Executed.output_execution ⟨e, i.line, i.statement⟩
    by_cases hok : (e.execute i.line i.statement).ending = .ok ()
    · obtain ⟨-, hengine, hstatements⟩ := executeAll_of_ok hok rest
      rw [hengine, hstatements, ih, ← Executed.execution.eq_def ⟨e, i.line, i.statement⟩, hfirst]
      cases h : Executed.printed? ⟨e, i.line, i.statement⟩ <;> simp [h]
    · obtain ⟨hx, hstatements⟩ := executeAll_of_not_ok hok rest
      rw [hx, hstatements, ← Executed.execution.eq_def ⟨e, i.line, i.statement⟩, hfirst]
      cases h : Executed.printed? ⟨e, i.line, i.statement⟩ <;> simp [h]

/-- A statement that faults ends the program there, and nothing is done to the engine after it. -/
theorem executeAll_of_fault {e : Engine} {p : Program} {x : Executed} {code : UInt32}
    (hx : x ∈ e.statementsAll p) (hfault : x.fault? = some code) :
    (e.executeAll p).ending = .fault (.structured code) ∧
      (e.executeAll p).engine = x.engine := by
  -- along the program: what comes before a statement that is executed has ended well
  induction p generalizing e with
  | nil => cases hx
  | cons i rest ih =>
    by_cases hok : (e.execute i.line i.statement).ending = .ok ()
    · obtain ⟨hending, hengine, hstatements⟩ := executeAll_of_ok hok rest
      rw [hstatements] at hx
      rw [hending, hengine]
      rcases List.mem_cons.1 hx with rfl | hx
      · -- a statement that faults has not ended well
        have hexecution := Executed.execution_of_fault hfault
        rw [Executed.execution] at hexecution
        rw [hexecution] at hok
        cases hok
      · exact ih hx
    · obtain ⟨hexecute, hstatements⟩ := executeAll_of_not_ok hok rest
      rw [hstatements] at hx
      rw [hexecute]
      obtain rfl := List.mem_singleton.1 hx
      have hexecution := Executed.execution_of_fault hfault
      rw [Executed.execution] at hexecution
      rw [hexecution]
      exact ⟨rfl, rfl⟩

theorem exists_fault_of_executeAll {e : Engine} {p : Program} {payload : Payload}
    (h : (e.executeAll p).ending = .fault payload) :
    ∃ x ∈ e.statementsAll p, ∃ code, payload = .structured code ∧ x.fault? = some code := by
  induction p generalizing e with
  | nil => cases h
  | cons i rest ih =>
    by_cases hok : (e.execute i.line i.statement).ending = .ok ()
    · obtain ⟨hending, -, hstatements⟩ := executeAll_of_ok hok rest
      rw [hending] at h
      obtain ⟨x, hx, hfault⟩ := ih h
      rw [hstatements]
      exact ⟨x, List.mem_cons_of_mem _ hx, hfault⟩
    · obtain ⟨hexecute, hstatements⟩ := executeAll_of_not_ok hok rest
      rw [hexecute] at h
      rw [hstatements]
      exact ⟨_, List.mem_singleton_self _, Executed.fault?_of_execution h⟩

theorem scene_of_tasks {e : Engine} {id : ContextId} {c : Context}
    (hc : e.currentContext? = some (id, c)) (tasks : Table TaskId PendingTask) (n : Nat) :
    { e with issued := n, contexts := e.contexts.insert id { c with tasks := tasks } }.scene =
      e.scene := by
  rw [scene, currentContext?_insert hc _ n, scene, hc]
  rfl

theorem scene_execute (e : Engine) (line : UInt32) (s : Statement) :
    (e.execute line s).engine.scene = e.scene := by
  cases s with
  | act column action => cases action <;> rfl
  | defer column inner =>
    show (e.schedule line inner).engine.scene = e.scene
    unfold schedule
    split
    · rfl
    · rename_i id c hc
      exact scene_of_tasks hc _ _

theorem scene_executeAll (e : Engine) (p : Program) : (e.executeAll p).engine.scene = e.scene := by
  induction p generalizing e with
  | nil => rfl
  | cons i rest ih =>
    by_cases hok : (e.execute i.line i.statement).ending = .ok ()
    · rw [(executeAll_of_ok hok rest).2.1, ih, scene_execute]
    · rw [(executeAll_of_not_ok hok rest).1, scene_execute]

/-! Calls. -/

/-- An engine in which the first statement of a call can be executed: nothing was printed or
    numbered, no number came into use, and of the scene only the journal has changed. -/
structure Prepared (e : Engine) (begun : List JournalEntry) (e' : Engine) : Prop where
  output : e'.output = e.output
  issued : e'.issued = e.issued
  ids : ∀ n ∈ e'.ids, n ∈ e.ids
  scene : e'.scene = { e.scene with journal := e.journal ++ begun }

/-- How an executing call goes: it is refused and has printed, numbered and told nothing, or it
    executes a program. The journal entry that it begins with is a parameter. -/
inductive Performs (e : Engine) (begun : List JournalEntry) :
    Execution → List Executed → Prop where
  | refused {code : ErrorCode} {e' : Engine} (houtput : e'.output = e.output)
      (hissued : e'.issued = e.issued) (hids : e'.ids = e.ids) :
      Performs e begun ⟨.error code, e', []⟩ []
  | executed {e' : Engine} (p : Program) (h : Prepared e begun e') :
      Performs e begun (e'.executeAll p) (e'.statementsAll p)

/-- A refusal that leaves all but the journal and the pending exception. -/
theorem Performs.refuse {e : Engine} {begun : List JournalEntry} (code : ErrorCode)
    (journal : List JournalEntry) (x : Option ScriptException) :
    Performs e begun ⟨.error code, { e with journal := journal, exception := x }, []⟩ [] :=
  .refused rfl rfl rfl

theorem Prepared.record (e : Engine) (entry : JournalEntry) :
    Prepared e [entry] (e.record entry) :=
  ⟨rfl, rfl, fun _ h => h, rfl⟩

theorem performs_runScript (e : Engine) (source : String) (tag : SourceContext) :
    Performs e [.runScript tag] (e.runScript source tag)
      (e.statements (.runScript source tag)) := by
  have hexception : (e.record (.runScript tag)).exception = e.exception := rfl
  simp only [statements, program?, runScript, whenCurrent, compile, executeProgram]
  cases e.injected .runScript with
  | some code => exact .refuse code e.journal e.exception
  | none =>
    cases e.currentContext?.isNone with
    | true => exact .refuse _ e.journal e.exception
    | false =>
      cases Program.parse source with
      | error err => exact .refuse _ _ _
      | ok p =>
        simp only [hexception]
        cases e.exception.isSome with
        | true => exact .refuse _ _ e.exception
        | false => exact .executed p (.record e _)

theorem performs_runSerialized (e : Engine) (bytecode : List UInt8) (tag : SourceContext) :
    Performs e [.runSerializedScript tag] (e.runSerialized bytecode tag)
      (e.statements (.runSerialized bytecode tag)) := by
  have hexception : (e.record (.runSerializedScript tag)).exception = e.exception := rfl
  simp only [statements, program?, runSerialized, whenCurrent, executeProgram]
  cases e.injected .runSerializedScript with
  | some code => exact .refuse code e.journal e.exception
  | none =>
    cases e.currentContext?.isNone with
    | true => exact .refuse _ e.journal e.exception
    | false =>
      cases Bytecode.decode bytecode with
      | none => exact .refuse _ _ e.exception
      | some p =>
        simp only [hexception]
        cases e.exception.isSome with
        | true => exact .refuse _ _ e.exception
        | false => exact .executed p (.record e _)

theorem Prepared.consume {e : Engine} {id : ContextId} {c : Context}
    (hc : e.currentContext? = some (id, c)) (task : TaskId) :
    Prepared e []
      { e with contexts := e.contexts.insert id { c with tasks := c.tasks.erase task } } where
  output := rfl
  issued := rfl
  ids := by
    intro n hn
    have htrade := count_ids_insert (get?_of_currentContext? hc)
      { c with tasks := c.tasks.erase task } e.issued n
    have hfewer := ((Table.keys_erase_sublist c.tasks task).map (·.value)).count_le n
    have hpos := List.count_pos_iff.2 hn
    dsimp only at htrade
    exact List.count_pos_iff.1 (by omega)
  scene := by
    rw [scene_of_tasks hc (c.tasks.erase task) e.issued, List.append_nil]
    rfl

theorem performs_callTask (e : Engine) (task : TaskId) :
    Performs e [] (e.callTask task) (e.statements (.callTask task)) := by
  unfold statements program? callTask
  cases hop : e.injected .callTask with
  | some code => exact .refuse code e.journal e.exception
  | none =>
    cases hx : e.exception.isSome with
    | true => exact .refuse _ e.journal e.exception
    | false =>
      cases hc : e.currentContext? with
      | none => exact .refuse _ e.journal e.exception
      | some entry =>
        obtain ⟨id, c⟩ := entry
        cases hget : c.tasks.get? task with
        | none =>
          simp only [hget]
          exact .refuse _ e.journal e.exception
        | some pending =>
          simp only [hget]
          rw [← executeAll_singleton]
          exact .executed _ (.consume hc task)

namespace Performs

variable {e : Engine} {begun : List JournalEntry} {x : Execution} {ss : List Executed}

theorem output (h : Performs e begun x ss) :
    x.engine.output = e.output ++ ss.filterMap (·.printed?) := by
  cases h with
  | refused houtput => exact houtput.trans (List.append_nil _).symm
  | executed p hprepared => rw [output_executeAll, hprepared.output]

theorem fault_of_mem (h : Performs e begun x ss) {s : Executed} {code : UInt32} (hs : s ∈ ss)
    (hfault : s.fault? = some code) :
    x.ending = .fault (.structured code) ∧ x.engine = s.engine := by
  cases h with
  | refused => cases hs
  | executed p hprepared => exact executeAll_of_fault hs hfault

theorem exists_fault (h : Performs e begun x ss) {payload : Payload}
    (hx : x.ending = .fault payload) :
    ∃ s ∈ ss, ∃ code, payload = .structured code ∧ s.fault? = some code := by
  cases h with
  | refused => cases hx
  | executed p hprepared => exact exists_fault_of_executeAll hx

/-- A call that is refused tells no hook of any task; any other has begun, and has changed
    nothing else of the scene. -/
theorem scene (h : Performs e begun x ss) :
    (x.ending.isOk = false ∧ (∀ payload, x.ending ≠ .fault payload) ∧ x.signals = []) ∨
      x.engine.scene = { e.scene with journal := e.journal ++ begun } := by
  cases h with
  | refused => exact .inl ⟨rfl, nofun, rfl⟩
  | executed p hprepared => exact .inr ((scene_executeAll _ p).trans hprepared.scene)

end Performs

end Engine
end ScriptHost

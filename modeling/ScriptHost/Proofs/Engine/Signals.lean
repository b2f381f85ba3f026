import ScriptHost.Proofs.Engine.Numbers

/- Which hooks are called, and with which tasks. Only a statement that is deferred calls a
   hook: that of the context it is deferred in, once, with the number it is given. A call
   of the engine calls the hooks that its statements call, in order, and what a task was
   numbered with tells the moment of its signal from all others.

   What is proved:
     1. `goes_runScript`, `goes_runSerialized` and `goes_callTask` — how the calls that
        execute go on the contexts.
     2. `told_eq` — a call tells hooks what its statements tell them.
     3. `statementsAll_split` — what was done before a statement of a program, and what
        the rest of it does.
     4. `exists_deferral` — where in its call a deferred statement stands. -/
namespace ScriptHost

namespace Executed

theorem signals_of_not_scheduled {x : Executed} (h : x.scheduled? = none) :
    x.execution.signals = [] := by
  obtain ⟨e, line, s⟩ := x
  cases s with
  | act column action => cases action <;> rfl
  | defer column inner =>
    have hnone : e.currentContext? = none := Option.map_eq_none_iff.1 h
    show (e.schedule line inner).signals = []
    rw [Engine.schedule, hnone]

theorem execution_of_defer {x : Executed} {column : UInt32} {inner : Statement}
    (hdefer : x.statement = .defer column inner) {id : ContextId} {c : Context}
    (hc : x.engine.currentContext? = some (id, c)) :
    x.execution = ⟨.ok (),
      { x.engine with
        issued := x.engine.issued + 1
        contexts := x.engine.contexts.insert id
          { c with tasks := c.tasks.insert ⟨x.engine.issued + 1⟩ ⟨x.line, inner⟩ } },
      c.hook.toList.map (⟨·, ⟨x.engine.issued + 1⟩⟩)⟩ := by
  rw [execution, hdefer]
  show x.engine.schedule x.line inner = _
  rw [Engine.schedule, hc]

end Executed

namespace Engine

def withoutTask (e : Engine) (task : TaskId) : Engine :=
  match e.currentContext? with
  | none => e
  | some (id, c) =>
    { e with contexts := e.contexts.insert id { c with tasks := c.tasks.erase task } }

def toldBy (ss : List Executed) : List Signal :=
  ss.flatMap (·.execution.signals)

/-- The hooks that a call calls, in order. -/
def told (e : Engine) : EngineCall → List Signal
  | .runScript source tag => (e.runScript source tag).signals
  | .runSerialized bytecode tag => (e.runSerialized bytecode tag).signals
  | .callTask task => (e.callTask task).signals
  | _ => []

def toldAll (e : Engine) : List EngineCall → List Signal
  | [] => []
  | call :: rest => e.told call ++ (e.after call).toldAll rest

theorem withoutTask_of_current {e : Engine} {id : ContextId} {c : Context}
    (hc : e.currentContext? = some (id, c)) (task : TaskId) :
    e.withoutTask task =
      { e with contexts := e.contexts.insert id { c with tasks := c.tasks.erase task } } := by
  rw [withoutTask, hc]

/-! Calls on the contexts. -/

/-- An engine in which the first statement of a call can be executed. -/
structure Begun (e e' : Engine) : Prop where
  effects : Effects e e'
  issued : e'.issued = e.issued
  entered : e'.currentContext?.isSome

/-- How an executing call goes on the contexts: it is refused and leaves them, or it executes a
    program in a context, having made of the contexts what is a parameter here. -/
inductive Goes (e : Engine) (contexts : Table ContextId Context) :
    Execution → List Executed → Prop where
  | refused {code : ErrorCode} {e' : Engine} (hissued : e'.issued = e.issued)
      (hcontexts : e'.contexts = e.contexts) : Goes e contexts ⟨.error code, e', []⟩ []
  | executed {e' : Engine} (p : Program) (hbegun : Begun e e')
      (hcontexts : e'.contexts = contexts) :
      Goes e contexts (e'.executeAll p) (e'.statementsAll p)

theorem isSome_of_isNone_eq {α : Type} {x : Option α} (h : x.isNone = false) : x.isSome := by
  cases x with
  | none => cases h
  | some a => rfl

theorem goes_runScript (e : Engine) (source : String) (tag : SourceContext) :
    Goes e e.contexts (e.runScript source tag) (e.statements (.runScript source tag)) := by
  have hexception : (e.record (.runScript tag)).exception = e.exception := rfl
  simp only [statements, program?, runScript, whenCurrent, compile, executeProgram]
  cases e.injected .runScript with
  | some code => exact .refused rfl rfl
  | none =>
    cases hc : e.currentContext?.isNone with
    | true => exact .refused rfl rfl
    | false =>
      cases Program.parse source with
      | error err => exact .refused rfl rfl
      | ok p =>
        simp only [hexception]
        cases e.exception.isSome with
        | true => exact .refused rfl rfl
        | false =>
          exact .executed p ⟨.single (.begin trivial), rfl, isSome_of_isNone_eq hc⟩ rfl

theorem goes_runSerialized (e : Engine) (bytecode : List UInt8) (tag : SourceContext) :
    Goes e e.contexts (e.runSerialized bytecode tag)
      (e.statements (.runSerialized bytecode tag)) := by
  have hexception : (e.record (.runSerializedScript tag)).exception = e.exception := rfl
  simp only [statements, program?, runSerialized, whenCurrent, executeProgram]
  cases e.injected .runSerializedScript with
  | some code => exact .refused rfl rfl
  | none =>
    cases hc : e.currentContext?.isNone with
    | true => exact .refused rfl rfl
    | false =>
      cases Bytecode.decode bytecode with
      | none => exact .refused rfl rfl
      | some p =>
        simp only [hexception]
        cases e.exception.isSome with
        | true => exact .refused rfl rfl
        | false =>
          exact .executed p ⟨.single (.begin trivial), rfl, isSome_of_isNone_eq hc⟩ rfl

/-- A task is called if nothing is in the way and it is pending in the current context, and then
    it is taken off there and its statement executed. Otherwise the engine stays as it is. -/
theorem callTask_cases (e : Engine) (task : TaskId) :
    ((∃ code, e.callTask task = ⟨.error code, e, []⟩) ∧ e.statements (.callTask task) = [] ∧
      ∀ id c p, e.injected .callTask = none → e.exception = none →
        e.currentContext? = some (id, c) → c.tasks.get? task ≠ some p) ∨
    ∃ id c p, e.injected .callTask = none ∧ e.exception = none ∧
      e.currentContext? = some (id, c) ∧ c.tasks.get? task = some p ∧
      e.callTask task = (e.withoutTask task).execute p.line p.statement ∧
      e.statements (.callTask task) = [⟨e.withoutTask task, p.line, p.statement⟩] := by
  unfold statements program? callTask withoutTask
  -- one check after the other, as the call makes them
  cases hop : e.injected .callTask with
  | some code =>
    refine .inl ⟨⟨_, rfl⟩, rfl, ?_⟩
    intro id c p hfree
    cases hfree
  | none =>
    cases hx : e.exception with
    | some x =>
      refine .inl ⟨⟨_, rfl⟩, rfl, ?_⟩
      intro id c p _ hquiet
      cases hquiet
    | none =>
      cases hc : e.currentContext? with
      | none =>
        refine .inl ⟨⟨_, rfl⟩, rfl, ?_⟩
        intro id c p _ _ hcurrent
        cases hcurrent
      | some entry =>
        obtain ⟨id, c⟩ := entry
        cases hget : c.tasks.get? task with
        | none =>
          refine .inl ⟨⟨.invalidArgument, by simp [hget]⟩, by simp [hget], ?_⟩
          intro id' c' p _ _ hcurrent hpending
          cases hcurrent
          cases hget.symm.trans hpending
        | some p => exact .inr ⟨id, c, p, rfl, rfl, rfl, hget, by simp [hget], by
            simp [hget, statementsAll]⟩

theorem goes_callTask (e : Engine) (task : TaskId) :
    Goes e (e.withoutTask task).contexts (e.callTask task) (e.statements (.callTask task)) := by
  rcases e.callTask_cases task with ⟨⟨code, hcall⟩, hss, -⟩ | ⟨id, c, p, -, -, hc, -, hcall, hss⟩
  · rw [hcall, hss]
    exact .refused rfl rfl
  · have hsingle : e.statements (.callTask task) =
        (e.withoutTask task).statementsAll [⟨p.line, p.statement⟩] := by
      rw [hss]
      simp [statementsAll]
    rw [hcall, hsingle, ← executeAll_singleton]
    refine .executed _ ?_ rfl
    rw [withoutTask_of_current hc]
    refine ⟨.single (.consume task hc), rfl, ?_⟩
    rw [currentContext?_insert hc _ e.issued]
    rfl

/-! Signals. -/

theorem signals_executeAll (e : Engine) (p : Program) :
    (e.executeAll p).signals = toldBy (e.statementsAll p) := by
  induction p generalizing e with
  | nil => rfl
  | cons i rest ih =>
    by_cases hok : (e.execute i.line i.statement).ending = .ok ()
    · obtain ⟨-, -, hstatements⟩ := executeAll_of_ok hok rest
      rw [hstatements, toldBy, List.flatMap_cons, executeAll_cons, Execution.andThen, hok]
      exact congrArg (_ ++ ·) (ih _)
    · obtain ⟨hexecute, hstatements⟩ := executeAll_of_not_ok hok rest
      rw [hexecute, hstatements, toldBy, List.flatMap_singleton]
      rfl

theorem Goes.signals {e : Engine} {contexts : Table ContextId Context} {x : Execution}
    {ss : List Executed} (h : Goes e contexts x ss) : x.signals = toldBy ss := by
  cases h with
  | refused => rfl
  | executed p => exact signals_executeAll _ p

theorem told_eq (e : Engine) (call : EngineCall) : e.told call = toldBy (e.statements call) := by
  cases call with
  | runScript source tag => exact (e.goes_runScript source tag).signals
  | runSerialized bytecode tag => exact (e.goes_runSerialized bytecode tag).signals
  | callTask task => exact (e.goes_callTask task).signals
  | _ => rfl

/-- Hooks are told of tasks that were handed a number. -/
theorem mem_handedOutBy_of_toldBy {ss : List Executed} {signal : Signal}
    (h : signal ∈ toldBy ss) : signal.task.value ∈ handedOutBy ss := by
  obtain ⟨x, hx, hsignal⟩ := List.mem_flatMap.1 h
  cases hscheduled : x.scheduled? with
  | none =>
    rw [Executed.signals_of_not_scheduled hscheduled] at hsignal
    cases hsignal
  | some task =>
    obtain ⟨id, c, column, inner, -, -, -, hsignals⟩ := Executed.pending_of_scheduled hscheduled
    rw [hsignals] at hsignal
    obtain ⟨hook, -, rfl⟩ := List.mem_map.1 hsignal
    refine List.mem_filterMap.2 ⟨x, hx, ?_⟩
    rw [hscheduled]
    rfl

theorem mem_handedOut_of_told {e : Engine} {call : EngineCall} {signal : Signal}
    (h : signal ∈ e.told call) : signal.task.value ∈ e.handedOut call := by
  rw [told_eq] at h
  cases call with
  | createRuntime attributes => cases h
  | createContext runtime => cases h
  | _ => exact mem_handedOutBy_of_toldBy h

theorem mem_handedOutAll_of_toldAll {e : Engine} {calls : List EngineCall} {signal : Signal}
    (h : signal ∈ e.toldAll calls) : signal.task.value ∈ e.handedOutAll calls := by
  induction calls generalizing e with
  | nil => cases h
  | cons call rest ih =>
    cases List.mem_append.1 h with
    | inl hfirst => exact List.mem_append_left _ (mem_handedOut_of_told hfirst)
    | inr hrest => exact List.mem_append_right _ (ih hrest)

theorem toldAll_append (e : Engine) (before after : List EngineCall) :
    e.toldAll (before ++ after) = e.toldAll before ++ (e.afterAll before).toldAll after := by
  induction before generalizing e with
  | nil => rfl
  | cons call rest ih =>
    rw [List.cons_append, toldAll, ih, toldAll, List.append_assoc]
    rfl

/-! One statement of many. -/

/-- Before a statement of a program the engine has had the effects of the statements before it,
    and if it ends well the rest of the program is executed in what it leaves. -/
theorem statementsAll_split {e : Engine} {p : Program} {earlier later : List Executed}
    {x : Executed} (h : e.statementsAll p = earlier ++ x :: later) :
    Effects e x.engine ∧ Hands e x.engine (handedOutBy earlier) ∧
      (x.execution.ending = .ok () → ∃ rest,
        (e.executeAll p).engine = (x.execution.engine.executeAll rest).engine ∧
        later = x.execution.engine.statementsAll rest) := by
  -- along the statements that come before: each of them has ended well
  induction earlier generalizing e p with
  | nil =>
    cases p with
    | nil => cases h
    | cons i rest =>
      obtain ⟨rfl, hlater⟩ := List.cons.inj h
      refine ⟨.refl, .refl e, fun hok => ⟨rest, ?_, ?_⟩⟩
      · exact (executeAll_of_ok hok rest).2.1
      · rw [← hlater, hok]
        rfl
  | cons y ys ih =>
    cases p with
    | nil => cases h
    | cons i rest =>
      by_cases hok : (e.execute i.line i.statement).ending = .ok ()
      · obtain ⟨-, hengine, hstatements⟩ := executeAll_of_ok hok rest
        rw [hstatements] at h
        obtain ⟨rfl, hrest⟩ := List.cons.inj h
        obtain ⟨heff, hhands, hafter⟩ := ih hrest
        refine ⟨(effects_execute e i.line i.statement).trans heff, ?_, ?_⟩
        · have hfirst := hands_execution ⟨e, i.line, i.statement⟩
          rw [← List.singleton_append, handedOutBy, List.filterMap_append]
          exact hfirst.trans hhands
        · rw [hengine]
          exact hafter
      · -- nothing comes after a statement that did not end well
        obtain ⟨-, hstatements⟩ := executeAll_of_not_ok hok rest
        rw [hstatements] at h
        obtain ⟨-, hnil⟩ := List.cons.inj h
        exact absurd hnil.symm (List.append_ne_nil_of_right_ne_nil _ (List.cons_ne_nil _ _))

/-- Where a deferred statement stands in its call: the context it is deferred in, what was done
    before it, and the program that is executed in what it leaves. -/
structure Deferral (e : Engine) (call : EngineCall) (earlier : List Executed) (x : Executed)
    (later : List Executed) (id : ContextId) (c : Context) : Prop where
  entered : x.engine.currentContext? = some (id, c)
  effects : Effects e x.engine
  le : e.issued ≤ x.engine.issued
  numbers : ∀ n ∈ handedOutBy earlier, n ≤ x.engine.issued
  rest : ∃ rest, e.after call = (x.execution.engine.executeAll rest).engine ∧
    later = x.execution.engine.statementsAll rest

theorem Goes.deferral {e : Engine} {call : EngineCall} {contexts : Table ContextId Context}
    {result : Execution} {earlier later : List Executed} {x : Executed} {column : UInt32}
    {inner : Statement} (h : Goes e contexts result (e.statements call))
    (hafter : e.after call = result.engine) (hx : e.statements call = earlier ++ x :: later)
    (hdefer : x.statement = .defer column inner) :
    ∃ id c, Deferral e call earlier x later id c := by
  rw [hx] at h
  generalize hss : earlier ++ x :: later = ss at h
  cases h with
  | refused => exact absurd hss (List.append_ne_nil_of_right_ne_nil _ (List.cons_ne_nil _ _))
  | @executed e' p hbegun hcontexts =>
    obtain ⟨heff, hhands, hrest⟩ := statementsAll_split hss.symm
    -- the context that the call began in is still the current one
    obtain ⟨⟨id, c⟩, hc⟩ := Option.isSome_iff_exists.1 hbegun.entered
    obtain ⟨-, c', hc', -⟩ := heff.contexts hc
    have hok : x.execution.ending = .ok () := by
      rw [Executed.execution_of_defer hdefer hc']
    refine ⟨id, c', hc', hbegun.effects.trans heff, ?_, fun n hn => (hhands.new n hn).2, ?_⟩
    · rw [← hbegun.issued]
      exact hhands.le
    · rw [hafter]
      exact hrest hok

theorem exists_deferral {e : Engine} {call : EngineCall} {earlier later : List Executed}
    {x : Executed} {column : UInt32} {inner : Statement}
    (hx : e.statements call = earlier ++ x :: later)
    (hdefer : x.statement = .defer column inner) :
    ∃ id c, Deferral e call earlier x later id c := by
  cases call with
  | runScript source tag => exact (e.goes_runScript source tag).deferral rfl hx hdefer
  | runSerialized bytecode tag => exact (e.goes_runSerialized bytecode tag).deferral rfl hx hdefer
  | callTask task => exact (e.goes_callTask task).deferral rfl hx hdefer
  | _ => exact absurd hx.symm (List.append_ne_nil_of_right_ne_nil _ (List.cons_ne_nil _ _))

end Engine
end ScriptHost

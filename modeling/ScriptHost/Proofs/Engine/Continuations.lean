import ScriptHost.Proofs.Engine.Signals

/- A deferred statement is run at most once, and nowhere but where it was deferred. Its
   task is numbered anew, recorded in the context that is current at that moment, and
   stays there through whatever is called, until it is called itself or its context is
   disposed of with its runtime. No other context ever has it, and neither its number
   nor that of its context is handed out again.

   What is proved:
     1. `Tracks.after` — what a call does to a task, one case for each call, and from it
        `Tracks.afterAll` for any calls.
     2. `defers_once` — over any calls on a new engine, what becomes of a deferred
        statement: its number, its record, its signals, and every call of its task. -/
namespace ScriptHost

namespace Engine

/-- Where a task is: in one context while it is pending, and nowhere when it is not. -/
structure Tracks (e : Engine) (task : TaskId) (id : ContextId) (p : PendingTask)
    (pending : Bool) : Prop where
  task_le : task.value ≤ e.issued
  context_le : id.value ≤ e.issued
  found : ∀ id' c, e.contexts.get? id' = some c →
    c.tasks.get? task = if id' = id ∧ pending = true then some p else none

/-- Whether a call is one of a task, and executes it. -/
def executes (e : Engine) (task : TaskId) : EngineCall → Bool
  | .callTask task' => task' = task && !(e.statements (.callTask task')).isEmpty
  | _ => false

def timesCalled (e : Engine) (task : TaskId) : List EngineCall → Nat
  | [] => 0
  | call :: rest => (e.executes task call).toNat + (e.after call).timesCalled task rest

theorem timesCalled_append (e : Engine) (task : TaskId) (before after : List EngineCall) :
    e.timesCalled task (before ++ after) =
      e.timesCalled task before + (e.afterAll before).timesCalled task after := by
  induction before generalizing e with
  | nil => exact (Nat.zero_add _).symm
  | cons call rest ih =>
    rw [List.cons_append, timesCalled, ih, timesCalled, Nat.add_assoc]
    rfl

namespace Tracks

variable {e e' : Engine} {task : TaskId} {id : ContextId} {p : PendingTask} {pending : Bool}

/-! Changes that leave the task where it is. -/

theorem of_contexts (h : Tracks e task id p pending) (hissued : e.issued ≤ e'.issued)
    (hcontexts : e'.contexts = e.contexts) : Tracks e' task id p pending where
  task_le := Nat.le_trans h.task_le hissued
  context_le := Nat.le_trans h.context_le hissued
  found := by
    rw [hcontexts]
    exact h.found

theorem of_record (h : Tracks e task id p pending) (hissued : e.issued ≤ e'.issued)
    {id' : ContextId} {c c' : Context} (hc : e.contexts.get? id' = some c)
    (hcontexts : e'.contexts = e.contexts.insert id' c')
    (htask : c'.tasks.get? task = c.tasks.get? task) : Tracks e' task id p pending where
  task_le := Nat.le_trans h.task_le hissued
  context_le := Nat.le_trans h.context_le hissued
  found := by
    intro id'' c'' hfound
    rw [hcontexts] at hfound
    by_cases hid : id'' = id'
    · rw [hid, Table.get?_insert_self] at hfound
      cases hfound
      rw [htask, hid]
      exact h.found id' c hc
    · rw [Table.get?_insert_of_ne _ _ hid] at hfound
      exact h.found id'' c'' hfound

theorem execution {x : Executed} (h : Tracks x.engine task id p pending) :
    Tracks x.execution.engine task id p pending := by
  obtain ⟨e, line, s⟩ := x
  cases s with
  | act column action =>
    cases action with
    | print text => exact h.of_contexts (Nat.le_refl _) rfl
    | throw message => exact h.of_contexts (Nat.le_refl _) rfl
    | fault code => exact h
  | defer column inner =>
    show Tracks (e.schedule line inner).engine task id p pending
    cases hc : e.currentContext? with
    | none =>
      rw [schedule, hc]
      exact h.of_contexts (Nat.le_succ _) rfl
    | some entry =>
      obtain ⟨id', c⟩ := entry
      -- the task has an older number than the one that is scheduled
      have hne : task ≠ ⟨e.issued + 1⟩ := by
        intro hsame
        have hle : task.value ≤ e.issued := h.task_le
        rw [hsame] at hle
        exact Nat.not_succ_le_self _ hle
      rw [schedule, hc]
      exact h.of_record (Nat.le_succ _) (get?_of_currentContext? hc) rfl
        (Table.get?_insert_of_ne _ _ hne)

theorem executeAll (h : Tracks e task id p pending) (q : Program) :
    Tracks (e.executeAll q).engine task id p pending := by
  induction q generalizing e with
  | nil => exact h
  | cons i rest ih =>
    have hfirst : Tracks (e.execute i.line i.statement).engine task id p pending :=
      execution (x := ⟨e, i.line, i.statement⟩) h
    by_cases hok : (e.execute i.line i.statement).ending = .ok ()
    · rw [(executeAll_of_ok hok rest).2.1]
      exact ih hfirst
    · rw [(executeAll_of_not_ok hok rest).1]
      exact hfirst

theorem goes (h : Tracks e task id p pending) {x : Execution} {ss : List Executed}
    (hgoes : Goes e e.contexts x ss) : Tracks x.engine task id p pending := by
  cases hgoes with
  | refused hissued hcontexts => exact h.of_contexts (Nat.le_of_eq hissued.symm) hcontexts
  | executed q hbegun hcontexts =>
    exact (h.of_contexts (Nat.le_of_eq hbegun.issued.symm) hcontexts).executeAll q

theorem withContext (h : Tracks e task id p pending) (r : RuntimeId) :
    Tracks (e.withContext r) task id p pending where
  task_le := Nat.le_succ_of_le h.task_le
  context_le := Nat.le_succ_of_le h.context_le
  found := by
    intro id' c hfound
    by_cases hid : id' = ⟨e.issued + 1⟩
    · have hold : id' ≠ id := by
        intro hsame
        have hle := h.context_le
        rw [← hsame, hid] at hle
        exact Nat.not_succ_le_self _ hle
      rw [hid] at hfound
      cases (Table.get?_insert_self _ _ _).symm.trans hfound
      rw [if_neg fun hboth => hold hboth.1]
      rfl
    · exact h.found id' c ((Table.get?_insert_of_ne _ _ hid).symm.trans hfound)

theorem withoutRuntime (h : Tracks e task id p pending) (hwell : e.WellFormed) (r : RuntimeId) :
    Tracks (e.withoutRuntime r) task id p pending where
  task_le := h.task_le
  context_le := h.context_le
  found := by
    intro id' c hfound
    exact h.found id' c (Table.get?_of_get?_filter hwell.nodup_contexts hfound)

/-! Calls. -/

/-- A task that is taken off the current context is gone if it is the one in question. -/
theorem withoutTask (h : Tracks e task id p pending) {task' : TaskId} {id' : ContextId}
    {c : Context} {p' : PendingTask} (hc : e.currentContext? = some (id', c))
    (hget : c.tasks.get? task' = some p') :
    Tracks (e.withoutTask task') task id p (pending && !decide (task' = task)) := by
  have hcontext := get?_of_currentContext? hc
  rw [withoutTask_of_current hc]
  by_cases htask : task' = task
  · have hfound := h.found id' c hcontext
    rw [← htask, hget] at hfound
    have hhere : id' = id ∧ pending = true := by
      by_contra hnot
      rw [if_neg hnot] at hfound
      cases hfound
    refine ⟨h.task_le, h.context_le, fun id'' c'' hfound'' => ?_⟩
    rw [if_neg (by simp [htask])]
    by_cases hid : id'' = id'
    · rw [hid] at hfound''
      cases (Table.get?_insert_self _ _ _).symm.trans hfound''
      rw [← htask]
      exact Table.get?_erase_self _ _
    · have hold := h.found id'' c'' ((Table.get?_insert_of_ne _ _ hid).symm.trans hfound'')
      rw [if_neg fun hboth => hid (hboth.1.trans hhere.1.symm)] at hold
      exact hold
  · have hsame : (pending && !decide (task' = task)) = pending := by simp [htask]
    rw [hsame]
    exact h.of_record (Nat.le_refl _) hcontext rfl
      (Table.get?_erase_of_ne _ fun heq => htask heq.symm)

theorem callTask (h : Tracks e task id p pending) (task' : TaskId) :
    Tracks (e.callTask task').engine task id p
      (pending && !e.executes task (.callTask task')) := by
  rcases e.callTask_cases task' with
    ⟨⟨code, hcall⟩, hss, -⟩ | ⟨id', c, p', -, -, hc, hget, hcall, hss⟩
  · have hnot : e.executes task (.callTask task') = false := by simp [executes, hss]
    rw [hcall, hnot, Bool.not_false, Bool.and_true]
    exact h
  · have hthis : e.executes task (.callTask task') = decide (task' = task) := by
      simp [executes, hss]
    rw [hcall, hthis]
    exact execution (x := ⟨e.withoutTask task', p'.line, p'.statement⟩) (h.withoutTask hc hget)

theorem after_of_ne (h : Tracks e task id p pending) (hwell : e.WellFormed) {call : EngineCall}
    (hcall : ∀ task', call ≠ .callTask task') : Tracks (e.after call) task id p pending := by
  have hdoes := e.does call
  generalize e.after call = e' at hdoes ⊢
  cases hdoes with
  | refused => exact h.of_contexts (Nat.le_refl _) rfl
  | createRuntime => exact h.of_contexts (Nat.le_succ _) rfl
  | disposeRuntime => exact h.withoutRuntime hwell _
  | createContext => exact h.withContext _
  | getCurrentContext | serializedSize | serializeInto => exact h
  | setCurrentContext => exact h.of_contexts (Nat.le_refl _) rfl
  | runScript => exact h.goes (e.goes_runScript _ _)
  | runSerialized => exact h.goes (e.goes_runSerialized _ _)
  | setHook hook hc => exact h.of_record (Nat.le_refl _) (get?_of_currentContext? hc) rfl rfl
  | callTask => exact absurd rfl (hcall _)
  | takeException | injectFailure | setSizes => exact h.of_contexts (Nat.le_refl _) rfl

/-- What a call does to a task: nothing, unless it executes it. -/
theorem after (h : Tracks e task id p pending) (hwell : e.WellFormed) (call : EngineCall) :
    Tracks (e.after call) task id p (pending && !e.executes task call) := by
  cases call with
  | callTask task' => exact h.callTask task'
  | _ =>
    show Tracks _ task id p (pending && !false)
    rw [Bool.not_false, Bool.and_true]
    exact h.after_of_ne hwell nofun

/-- Only a pending task is executed. -/
theorem pending_of_executes (h : Tracks e task id p pending) {call : EngineCall}
    (hcall : e.executes task call = true) : pending = true := by
  cases call with
  | callTask task' =>
    obtain ⟨heq, hss⟩ := Bool.and_eq_true_iff.1 hcall
    obtain rfl := of_decide_eq_true heq
    rcases e.callTask_cases task' with ⟨-, hnil, -⟩ | ⟨id', c, p', -, -, hc, hget, -, -⟩
    · rw [hnil] at hss
      cases hss
    · have hfound := h.found id' c (get?_of_currentContext? hc)
      rw [hget] at hfound
      by_contra hnot
      rw [if_neg fun hboth => hnot hboth.2] at hfound
      cases hfound
  | _ => cases hcall

/-- Over any calls a pending task is executed once at most, and is pending until then. -/
theorem afterAll (h : Tracks e task id p pending) (hwell : e.WellFormed)
    (calls : List EngineCall) :
    Tracks (e.afterAll calls) task id p (pending && decide (e.timesCalled task calls = 0)) ∧
      e.timesCalled task calls ≤ pending.toNat := by
  induction calls generalizing e pending with
  | nil =>
    rw [timesCalled, decide_eq_true rfl, Bool.and_true]
    exact ⟨h, Nat.zero_le _⟩
  | cons call rest ih =>
    obtain ⟨htracks, hle⟩ := ih (h.after hwell call) (hwell.after call)
    have honly : e.executes task call = true → pending = true := h.pending_of_executes
    rw [timesCalled]
    cases hthis : e.executes task call with
    | false =>
      rw [hthis, Bool.not_false, Bool.and_true] at htracks hle
      rw [Bool.toNat_false, Nat.zero_add]
      exact ⟨htracks, hle⟩
    | true =>
      obtain rfl := honly hthis
      rw [hthis, Bool.not_true, Bool.and_false, Bool.false_and] at htracks
      rw [hthis, Bool.not_true, Bool.and_false, Bool.toNat_false] at hle
      rw [Nat.le_zero.1 hle]
      exact ⟨htracks, Nat.le_refl 1⟩

end Tracks

/-! Before the task is there. -/

theorem WellFormed.le_of_pending {e : Engine} (h : e.WellFormed) {id : ContextId} {c : Context}
    (hc : e.contexts.get? id = some c) {task : TaskId} {p : PendingTask}
    (hp : c.tasks.get? task = some p) : task.value ≤ e.issued := by
  have hkey : task ∈ c.tasks.keys := Table.mem_keys_iff.2 ⟨p, Table.mem_entries_of_get? hp⟩
  have hid : task.value ∈ contextIds (id, c) := List.mem_cons_of_mem _ (List.mem_map_of_mem hkey)
  have hids : task.value ∈ e.ids :=
    List.mem_append_right _ (List.mem_flatMap.2 ⟨_, Table.mem_entries_of_get? hc, hid⟩)
  exact (h.numbered _ hids).2

/-- A number that is still to be handed out is that of no task that could be called. -/
theorem WellFormed.not_executes {e : Engine} (h : e.WellFormed) {task : TaskId}
    (hnew : e.issued < task.value) (call : EngineCall) : e.executes task call = false := by
  cases call with
  | callTask task' =>
    rcases e.callTask_cases task' with ⟨-, hnil, -⟩ | ⟨id, c, p, -, -, hc, hget, -, -⟩
    · simp [executes, hnil]
    · have hle := h.le_of_pending (get?_of_currentContext? hc) hget
      have hne : task' ≠ task := by
        intro hsame
        rw [hsame] at hle
        omega
      simp [executes, hne]
  | _ => rfl

theorem WellFormed.timesCalled_eq_zero {e : Engine} (h : e.WellFormed) {task : TaskId}
    {calls : List EngineCall} (hnew : (e.afterAll calls).issued < task.value) :
    e.timesCalled task calls = 0 := by
  induction calls generalizing e with
  | nil => rfl
  | cons call rest ih =>
    have hle : e.issued ≤ (e.afterAll (call :: rest)).issued := (Hands.afterAll e _).le
    rw [timesCalled, h.not_executes (Nat.lt_of_le_of_lt hle hnew), ih (h.after call) hnew]
    rfl

/-! A deferred statement. -/

/-- Where a statement was deferred its task is pending, and nowhere else. -/
theorem Deferral.tracks {e : Engine} {call : EngineCall} {earlier later : List Executed}
    {x : Executed} {id : ContextId} {c : Context} (h : Deferral e call earlier x later id c)
    (hwell : e.WellFormed) {column : UInt32} {inner : Statement}
    (hdefer : x.statement = .defer column inner) :
    Tracks (e.after call) ⟨x.engine.issued + 1⟩ id ⟨x.line, inner⟩ true := by
  have hthen := h.effects.wellFormed hwell
  have hc := get?_of_currentContext? h.entered
  have hhere : Tracks x.execution.engine ⟨x.engine.issued + 1⟩ id ⟨x.line, inner⟩ true := by
    rw [Executed.execution_of_defer hdefer h.entered]
    refine ⟨Nat.le_refl _, ?_, fun id' c' hfound => ?_⟩
    · have hkey := hthen.le_of_mem_contexts (mem_contexts_keys_iff.2 ⟨c, hc⟩)
      exact Nat.le_succ_of_le hkey
    by_cases hid : id' = id
    · rw [hid] at hfound
      cases (Table.get?_insert_self _ _ _).symm.trans hfound
      rw [if_pos ⟨hid, rfl⟩]
      exact Table.get?_insert_self _ _ _
    · have hold := (Table.get?_insert_of_ne _ _ hid).symm.trans hfound
      rw [if_neg fun hboth => hid hboth.1]
      cases hp : c'.tasks.get? ⟨x.engine.issued + 1⟩ with
      | none => rfl
      | some p => exact absurd (hthen.le_of_pending hold hp) (Nat.not_succ_le_self _)
  obtain ⟨rest, hafter, -⟩ := h.rest
  rw [hafter]
  exact hhere.executeAll rest

theorem Deferral.filter_toldAll {e : Engine} {before after : List EngineCall} {call : EngineCall}
    {earlier later : List Executed} {x : Executed} {id : ContextId} {c : Context}
    (h : Deferral (e.afterAll before) call earlier x later id c)
    (hx : (e.afterAll before).statements call = earlier ++ x :: later) {column : UInt32}
    {inner : Statement} (hdefer : x.statement = .defer column inner) :
    (e.toldAll (before ++ call :: after)).filter (·.task = ⟨x.engine.issued + 1⟩) =
      c.hook.toList.map (⟨·, ⟨x.engine.issued + 1⟩⟩) := by
  -- signals are told apart by their numbers, which are below this one before and above it after
  have hapart : ∀ {signals : List Signal},
      (∀ signal ∈ signals, signal.task.value ≠ x.engine.issued + 1) →
        signals.filter (·.task = ⟨x.engine.issued + 1⟩) = [] := by
    intro signals hne
    refine List.filter_eq_nil_iff.2 fun signal hsignal hsame => hne signal hsignal ?_
    rw [of_decide_eq_true hsame]
  obtain ⟨rest, hafter, hlater⟩ := h.rest
  have hexecution := Executed.execution_of_defer hdefer h.entered
  have hissued : x.execution.engine.issued = x.engine.issued + 1 := by rw [hexecution]
  have hbefore : (e.toldAll before).filter (·.task = ⟨x.engine.issued + 1⟩) = [] := by
    refine hapart fun signal hsignal => ?_
    have hle := ((Hands.afterAll e before).new _ (mem_handedOutAll_of_toldAll hsignal)).2
    have hstep := h.le
    omega
  have hearlier : (toldBy earlier).filter (·.task = ⟨x.engine.issued + 1⟩) = [] := by
    refine hapart fun signal hsignal => ?_
    have hle := h.numbers _ (mem_handedOutBy_of_toldBy hsignal)
    omega
  have hthis : x.execution.signals.filter (·.task = ⟨x.engine.issued + 1⟩) =
      c.hook.toList.map (⟨·, ⟨x.engine.issued + 1⟩⟩) := by
    rw [hexecution, List.filter_eq_self]
    intro signal hsignal
    obtain ⟨hook, -, rfl⟩ := List.mem_map.1 hsignal
    exact decide_eq_true rfl
  have hlast : (toldBy later).filter (·.task = ⟨x.engine.issued + 1⟩) = [] := by
    refine hapart fun signal hsignal => ?_
    have hmem := mem_handedOutBy_of_toldBy hsignal
    rw [hlater] at hmem
    have hlt := ((hands_executeAll _ rest).new _ hmem).1
    omega
  have hthen : (((e.afterAll before).after call).toldAll after).filter
      (·.task = ⟨x.engine.issued + 1⟩) = [] := by
    refine hapart fun signal hsignal => ?_
    have hlt := ((Hands.afterAll _ after).new _ (mem_handedOutAll_of_toldAll hsignal)).1
    have hle := (hands_executeAll x.execution.engine rest).le
    rw [← hafter] at hle
    omega
  rw [toldAll_append, toldAll, told_eq, hx, toldBy, List.flatMap_append, List.flatMap_cons]
  simp only [List.filter_append]
  rw [← toldBy, ← toldBy, hbefore, hearlier, hthis, hlast, hthen]
  simp

/-- Whether nothing is in the way of the tasks of a context. -/
def Calls (e : Engine) (id : ContextId) : Prop :=
  e.injected .callTask = none ∧ e.exception = none ∧ e.current = some id

theorem Tracks.callTask_of_calls {e : Engine} {task : TaskId} {id : ContextId} {p : PendingTask}
    (h : Tracks e task id p true) (hwell : e.WellFormed) (hcalls : e.Calls id) :
    e.callTask task = (e.withoutTask task).execute p.line p.statement ∧
      e.statements (.callTask task) = [⟨e.withoutTask task, p.line, p.statement⟩] := by
  obtain ⟨hfree, hquiet, hcurrent⟩ := hcalls
  obtain ⟨c, hc⟩ := mem_contexts_keys_iff.1 (hwell.current id hcurrent)
  have hentered : e.currentContext? = some (id, c) := by
    rw [currentContext?, hcurrent]
    dsimp only
    rw [hc, Option.map_some]
  have hget : c.tasks.get? task = some p := by
    rw [h.found id c hc, if_pos ⟨rfl, rfl⟩]
  rcases e.callTask_cases task with ⟨-, -, hno⟩ | ⟨id', c', p', -, -, hc', hget', hcall, hss⟩
  · exact absurd hget (hno id c p hfree hquiet hentered)
  · cases hentered.symm.trans hc'
    cases hget.symm.trans hget'
    exact ⟨hcall, hss⟩

/-- Otherwise a call of it fails and leaves everything as it is. -/
theorem Tracks.callTask_of_not {e : Engine} {task : TaskId} {id : ContextId} {p : PendingTask}
    {pending : Bool} (h : Tracks e task id p pending) (hnot : ¬ (e.Calls id ∧ pending = true)) :
    (∃ code, e.callTask task = ⟨.error code, e, []⟩) ∧ e.statements (.callTask task) = [] := by
  rcases e.callTask_cases task with ⟨hcall, hss, -⟩ | ⟨id', c, p', hfree, hquiet, hc, hget, -, -⟩
  · exact ⟨hcall, hss⟩
  · have hfound := h.found id' c (get?_of_currentContext? hc)
    rw [hget] at hfound
    by_cases hboth : id' = id ∧ pending = true
    · have hcurrent := current_of_currentContext? hc
      rw [hboth.1] at hcurrent
      exact absurd ⟨⟨hfree, hquiet, hcurrent⟩, hboth.2⟩ hnot
    · rw [if_neg hboth] at hfound
      cases hfound

/-- What becomes of a statement that was deferred, in calls made on a new engine.
    `once` counts the calls of its task that executed something. -/
structure DeferredOnce (before : List EngineCall) (call : EngineCall) (after : List EngineCall)
    (earlier : List Executed) (x : Executed) (inner : Statement) (task : TaskId) (id : ContextId)
    (c : Context) (e : Engine) : Prop where
  entered : x.engine.currentContext? = some (id, c)
  numbered : ∀ n ∈ initial.handedOutAll before ++ handedOutBy earlier, n < task.value
  recorded : x.execution = ⟨.ok (),
    { x.engine with
      issued := task.value
      contexts := x.engine.contexts.insert id
        { c with tasks := c.tasks.insert task ⟨x.line, inner⟩ } },
    c.hook.toList.map (⟨·, task⟩)⟩
  told : (initial.toldAll (before ++ call :: after)).filter (·.task = task) =
    c.hook.toList.map (⟨·, task⟩)
  once : initial.timesCalled task (before ++ call :: after) ≤ 1
  called : e.Calls id ∧ initial.timesCalled task (before ++ call :: after) = 0 →
    e.callTask task = (e.withoutTask task).execute x.line inner ∧
      e.statements (.callTask task) = [⟨e.withoutTask task, x.line, inner⟩]
  refused : ¬ (e.Calls id ∧ initial.timesCalled task (before ++ call :: after) = 0) →
    (∃ code, e.callTask task = ⟨.error code, e, []⟩) ∧ e.statements (.callTask task) = []

/-- **Continuations.** In any calls on a new engine, `before` and `call` and then `after`: the call
    tells hooks what the statements that it executes tell them, and of these only those that
    are deferred tell anything. Each deferred statement has a task of its own, recorded in the
    context that is current, whose hook alone is told of it and once. Its task can be called
    where that context is current, no exception is pending, no failure is injected and it was
    not called before: then the statement is executed. All other calls of the task fail and
    change nothing. -/
theorem defers_once (before : List EngineCall) (call : EngineCall) (after : List EngineCall) :
    (initial.afterAll before).told call = toldBy ((initial.afterAll before).statements call) ∧
    (∀ x ∈ (initial.afterAll before).statements call, x.scheduled? = none →
      x.execution.signals = []) ∧
    ∀ (earlier later : List Executed) (x : Executed) (column : UInt32) (inner : Statement),
      (initial.afterAll before).statements call = earlier ++ x :: later →
      x.statement = .defer column inner →
      ∃ id c, DeferredOnce before call after earlier x inner ⟨x.engine.issued + 1⟩ id c
        (initial.afterAll (before ++ call :: after)) := by
  refine ⟨told_eq _ call, fun x _ h => Executed.signals_of_not_scheduled h, ?_⟩
  intro earlier later x column inner hx hdefer
  have hwell : (initial.afterAll before).WellFormed :=
    wellFormed_of_reachable (reachable_iff_exists_calls.2 ⟨before, rfl⟩)
  have hthen := hwell.after call
  have hend : initial.afterAll (before ++ call :: after) =
      ((initial.afterAll before).after call).afterAll after := List.foldl_append
  obtain ⟨id, c, h⟩ := exists_deferral hx hdefer
  obtain ⟨htracks, honce⟩ := (h.tracks hwell hdefer).afterAll hthen after
  -- before it was deferred, and in the call that did, the task is not called
  have hnew : (initial.afterAll before).issued < x.engine.issued + 1 := Nat.lt_succ_of_le h.le
  have htimes : initial.timesCalled ⟨x.engine.issued + 1⟩ (before ++ call :: after) =
      ((initial.afterAll before).after call).timesCalled ⟨x.engine.issued + 1⟩ after := by
    rw [timesCalled_append, wellFormed_initial.timesCalled_eq_zero hnew, timesCalled,
      hwell.not_executes hnew, Bool.toNat_false, Nat.zero_add, Nat.zero_add]
  rw [Bool.true_and, ← htimes, ← hend] at htracks
  rw [← htimes] at honce
  refine ⟨id, c, h.entered, ?_, Executed.execution_of_defer hdefer h.entered,
    h.filter_toldAll hx hdefer, honce, ?_, ?_⟩
  · intro n hn
    cases List.mem_append.1 hn with
    | inl hbefore =>
      have hle := ((Hands.afterAll initial before).new n hbefore).2
      exact Nat.lt_of_le_of_lt hle hnew
    | inr hearlier => exact Nat.lt_succ_of_le (h.numbers n hearlier)
  · rintro ⟨hcalls, hzero⟩
    rw [decide_eq_true hzero] at htracks
    refine htracks.callTask_of_calls ?_ hcalls
    exact wellFormed_of_reachable (reachable_iff_exists_calls.2 ⟨_, rfl⟩)
  · intro hnot
    exact htracks.callTask_of_not fun hboth => hnot ⟨hboth.1, of_decide_eq_true hboth.2⟩

def hooked : List EngineCall :=
  [.createRuntime .none, .createContext ⟨1⟩, .setCurrentContext (some ⟨2⟩), .setHook (some ⟨7⟩)]

/-- The task of a deferred statement is called and then refused. -/
theorem defers_once_hooked :
    ∃ x, (initial.afterAll hooked).statements (.runScript "defer print a" ⟨0⟩) = [x] ∧
      (initial.toldAll (hooked ++ [.runScript "defer print a" ⟨0⟩, .callTask ⟨3⟩])).filter
        (·.task = ⟨3⟩) = [⟨⟨7⟩, ⟨3⟩⟩] ∧
      ∃ code,
        (initial.afterAll (hooked ++ [.runScript "defer print a" ⟨0⟩, .callTask ⟨3⟩])).callTask ⟨3⟩ =
          ⟨.error code,
            initial.afterAll (hooked ++ [.runScript "defer print a" ⟨0⟩, .callTask ⟨3⟩]), []⟩ := by
  obtain ⟨-, -, hdefers⟩ := defers_once hooked (.runScript "defer print a" ⟨0⟩) [.callTask ⟨3⟩]
  have hone : ((initial.afterAll hooked).statements (.runScript "defer print a" ⟨0⟩)).map
      (fun x => (x.engine.issued, x.statement)) =
        [(2, .defer 1 (.act 7 (.print "a")))] := by decide +kernel
  have htimes : initial.timesCalled ⟨3⟩
      (hooked ++ [.runScript "defer print a" ⟨0⟩, .callTask ⟨3⟩]) = 1 := by decide +kernel
  have htold : (initial.toldAll (hooked ++ [.runScript "defer print a" ⟨0⟩, .callTask ⟨3⟩])).filter
      (·.task = ⟨3⟩) = [⟨⟨7⟩, ⟨3⟩⟩] := by decide +kernel
  obtain ⟨x, hx, hpair⟩ := List.map_eq_singleton_iff.1 hone
  obtain ⟨hissued, hdefer⟩ := Prod.mk.inj hpair
  obtain ⟨id, c, h⟩ := hdefers [] [] x _ _ hx hdefer
  have hrefused := h.refused
  rw [hissued, htimes] at hrefused
  exact ⟨x, hx, htold, (hrefused fun hboth => Nat.one_ne_zero hboth.2).1⟩

end Engine
end ScriptHost

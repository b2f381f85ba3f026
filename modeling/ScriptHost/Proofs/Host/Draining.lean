import ScriptHost.Proofs.Engine.Tasks
import ScriptHost.Proofs.Host.Keeps

/- Draining a hook's queue. The queue and the table of the current context hold the
   same tasks in the same order: a call takes the first of both, and a deferred
   statement goes to the end of both. So the tasks execute in the order in which
   `schedule` puts their leaves.

   What is proved: `drain_holding`, what a drain prints and how it ends. -/
namespace ScriptHost

open Engine (Holding)

/-- How a call of the host ends when executing stops at a leaf or, with none, at its end. -/
def stopEnding (op : Operation) : Option Leaf → Ending HostError Unit
  | none => .ok ()
  | some l =>
    match l.action with
    | .print _ => .ok ()
    | .throw _ => .error (.script op .scriptException l.exception?)
    | .fault code => .fault (.structured code)

variable {hook : Hook} {tasks : List (TaskId × PendingTask)} {lines : List String}

/-- An executing call takes the exception its leaf threw. -/
theorem Host.perform_holding {h : Host} (op : Operation) {f : Engine → Execution} {o : Option Leaf}
    {e : Engine} {signals : List Signal} (hf : f h.engine = ⟨codeEnding o, e, signals⟩)
    (he : Holding hook tasks lines (o.bind (·.exception?)) e) :
    ∃ h', h.perform op f = ⟨stopEnding op o, signals, h'⟩ ∧
      Holding hook tasks lines none h'.engine := by
  unfold Host.perform
  rw [hf]
  match o with
  | none => exact ⟨_, rfl, he⟩
  | some ⟨line, column, .print text⟩ => exact ⟨_, rfl, he⟩
  | some ⟨line, column, .throw message⟩ =>
    have hexception : e.exception = Leaf.exception? ⟨line, column, .throw message⟩ := he.exception
    refine ⟨({ h with engine := e }.failure op .scriptException).2, ?_,
      ⟨he.context, he.numbered, he.distinct, he.output, rfl, he.free⟩⟩
    show Host.Performed.mk (.error (.script op .scriptException e.exception)) _ _ = _
    rw [hexception]
    rfl
  | some ⟨line, column, .fault code⟩ => exact ⟨_, rfl, he⟩

namespace TaskQueue

theorem stopEnding_some (op : Operation) (l : Leaf) :
    stopEnding op (some l) = .ok () ↔ l.stops = false := by
  obtain ⟨line, column, action⟩ := l
  cases action with
  | print text => exact iff_of_true rfl rfl
  | throw message => exact iff_of_false nofun nofun
  | fault code => exact iff_of_false nofun nofun

theorem tasks_of_pop? {q q' : TaskQueue} {t : Task} (h : q.pop? = some (t, q')) :
    q.tasks = t :: q'.tasks := by
  unfold pop? at h
  split at h
  · cases h
  · rename_i hq
    cases h
    exact hq

/-! One call of the callback. -/

theorem react_act {h : Host} {t : Task} {line column : UInt32} {action : Action}
    (hh : Holding hook ((t.callback, ⟨line, .act column action⟩) :: tasks) lines none h.engine) :
    ∃ h', (Host.taskCallback hook).react h t =
        (⟨[], stopEnding .callTask (some ⟨line, column, action⟩)⟩, h') ∧
      Holding hook tasks (lines ++ (Leaf.printed? ⟨line, column, action⟩).toList) none
        h'.engine := by
  obtain ⟨e₁, hcall, h₁⟩ := hh.callTask
  obtain ⟨e₂, hexecute, h₂⟩ := h₁.execute_act line column action
  obtain ⟨h', hperform, h₃⟩ := Host.perform_holding (o := some ⟨line, column, action⟩) .callTask
    (f := (·.callTask t.callback)) (hcall.trans hexecute) h₂
  refine ⟨h', ?_, h₃⟩
  show (Reaction.mk (hook.moves (h.perform .callTask (·.callTask t.callback)).signals) _, _) = _
  rw [hperform]
  rfl

theorem react_defer {h : Host} {t : Task} {line column : UInt32} {inner : Statement}
    (hh : Holding hook ((t.callback, ⟨line, .defer column inner⟩) :: tasks) lines none h.engine) :
    ∃ id h', (Host.taskCallback hook).react h t = (⟨[.push id], .ok ()⟩, h') ∧
      Holding hook (tasks ++ [(id, ⟨line, inner⟩)]) lines none h'.engine := by
  obtain ⟨e₁, hcall, h₁⟩ := hh.callTask
  obtain ⟨id, e₂, hexecute, h₂⟩ := h₁.execute_defer line column inner
  obtain ⟨h', hperform, h₃⟩ := Host.perform_holding (o := none) .callTask
    (f := (·.callTask t.callback)) (hcall.trans hexecute) h₂
  refine ⟨id, h', ?_, h₃⟩
  show (Reaction.mk (hook.moves (h.perform .callTask (·.callTask t.callback)).signals) _, _) = _
  rw [hperform]
  simp [Hook.moves, stopEnding]

/-- A call of the oldest task executes the leaf that comes next in the schedule, or puts the
    task back and leaves the schedule alone. -/
theorem react_holding {q q' : TaskQueue} {t : Task} {h : Host} (hpop : q.pop? = some (t, q'))
    (hq : q.tasks.map (·.callback) = tasks.map Prod.fst)
    (hh : Holding hook tasks lines none h.engine) :
    ∃ o tasks', schedule (taskWork tasks) = o.toList ++ schedule (taskWork tasks') ∧
      ((Host.taskCallback hook).react h t).1.ending = stopEnding .callTask o ∧
      (q'.moveAll ((Host.taskCallback hook).react h t).1.moves).tasks.map (·.callback) =
        tasks'.map Prod.fst ∧
      Holding hook tasks' (lines ++ (o.bind (·.printed?)).toList) none
        ((Host.taskCallback hook).react h t).2.engine := by
  rw [tasks_of_pop? hpop, List.map_cons] at hq
  cases tasks with
  | nil => cases hq
  | cons entry rest =>
    obtain ⟨id, line, s⟩ := entry
    -- the oldest task of the queue is the first one pending
    obtain ⟨rfl, hrest⟩ := List.cons.inj hq
    cases s with
    | act column action =>
      obtain ⟨h', hreact, hholding⟩ := react_act hh
      refine ⟨some ⟨line, column, action⟩, rest, schedule_ready _ _, ?_, ?_, ?_⟩ <;> rw [hreact]
      · exact hrest
      · exact hholding
    | defer column inner =>
      obtain ⟨id, h', hreact, hholding⟩ := react_defer hh
      refine ⟨none, rest ++ [(id, ⟨line, inner⟩)], ?_, ?_, ?_, ?_⟩
      · rw [taskWork, taskWork, List.map_append]
        exact schedule_put_back _ _ _
      · rw [hreact]
        rfl
      · rw [hreact, List.map_append, ← hrest]
        exact List.map_append
      · rw [hreact]
        simpa using hholding

theorem stopped_holding {o : Option Leaf} {ending : Ending HostError Unit} {e : Engine}
    (hne : ending ≠ .ok ()) (hending : ending = stopEnding .callTask o)
    (he : Holding hook tasks (lines ++ (o.bind (·.printed?)).toList) none e) (rest : List Leaf) :
    ending = stopEnding .callTask (stop? (o.toList ++ rest)) ∧
      ∃ left, Holding hook left (lines ++ printed (o.toList ++ rest)) none e := by
  cases o with
  | none => exact absurd hending hne
  | some l =>
    have hstops : l.stops = true := by
      rw [hending, Ne, stopEnding_some, Bool.not_eq_false] at hne
      exact hne
    rw [Option.toList_some, List.singleton_append, stop?_cons, printed_cons, if_pos hstops,
      if_pos hstops]
    rw [Option.bind_some, Option.isNone_iff_eq_none.1 hstops] at he
    exact ⟨hending, tasks, he⟩

/-- A drain executes the leaves of the pending tasks as scheduled, up to the first that stops. -/
theorem drain_holding (q : TaskQueue) (h : Host)
    (hq : q.tasks.map (·.callback) = tasks.map Prod.fst)
    (hh : Holding hook tasks lines none h.engine) :
    (q.drain (Host.taskCallback hook) h).ending =
        stopEnding .callTask (stop? (schedule (taskWork tasks))) ∧
      ∃ left, Holding hook left (lines ++ printed (schedule (taskWork tasks))) none
        (q.drain (Host.taskCallback hook) h).state.engine := by
  -- one task at a time: the schedule loses its head, or stays as it is when a task is put back
  fun_induction TaskQueue.drain (Host.taskCallback hook) q h generalizing tasks lines with
  | case1 q h hpop =>
    have hempty : q.tasks = [] := by simpa [isEmpty] using (pop?_eq_none_iff q).1 hpop
    rw [hempty] at hq
    obtain rfl : tasks = [] := List.map_eq_nil_iff.1 hq.symm
    have hnone : schedule (taskWork []) = [] := schedule_nil
    rw [hnone]
    refine ⟨rfl, [], ?_⟩
    show Holding hook [] (lines ++ []) none h.engine
    rwa [List.append_nil]
  | case2 q h t q' hpop reaction queue =>
    rename_i hok ih
    obtain ⟨o, tasks', hschedule, hending, hq', hholding⟩ := react_holding hpop hq hh
    obtain ⟨hrest, left, hleft⟩ := ih hq' hholding
    rw [hschedule]
    cases o with
    | none =>
      refine ⟨hrest, left, ?_⟩
      rwa [Option.bind_none, Option.toList_none, List.append_nil] at hleft
    | some l =>
      have hgoes : ¬ l.stops = true := by
        rw [Bool.not_eq_true, ← stopEnding_some .callTask]
        exact hending.symm.trans hok
      rw [Option.toList_some, List.singleton_append, stop?_cons, printed_cons, if_neg hgoes,
        if_neg hgoes]
      refine ⟨hrest, left, ?_⟩
      rwa [Option.bind_some, List.append_assoc] at hleft
  | case3 q h t q' hpop reaction queue =>
    rename_i e herror
    obtain ⟨o, tasks', hschedule, hending, -, hholding⟩ := react_holding hpop hq hh
    have hne : Ending.error e ≠ .ok () := by
      intro heq
      cases heq
    rw [hschedule]
    exact stopped_holding hne (herror.symm.trans hending) hholding _
  | case4 q h t q' hpop reaction queue =>
    rename_i payload hfault
    obtain ⟨o, tasks', hschedule, hending, -, hholding⟩ := react_holding hpop hq hh
    have hne : (Ending.fault payload : Ending HostError Unit) ≠ .ok () := by
      intro heq
      cases heq
    rw [hschedule]
    exact stopped_holding hne (hfault.symm.trans hending) hholding _

end TaskQueue
end ScriptHost

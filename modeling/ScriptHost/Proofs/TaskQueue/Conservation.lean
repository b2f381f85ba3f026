import ScriptHost.Host.Basic
import ScriptHost.Proofs.TaskQueue.Rules

/- A queue loses nothing, adds nothing and keeps its order. Whatever is done to a queue
   comes down to moves: a push at the end and a pop at the front. A drain is moves too, a
   pop for each call and then those that the callback makes, so a task can leave the
   queue through the drain or through the callback that is being called, and the law is
   the same for both. What a callback does may hang on what it pops, for it can keep the
   queue in its state: it is called with what the drain takes, and knows its own moves.

   What is proved:
     1. `removed_append_tasks` — after any moves, what was removed followed by what is
        queued is what was queued before followed by what was pushed.
     2. `queue_drain` and `stopsAt_of_ending_ne` — a drain is such moves, and the call that
        does not end well is its last.
     3. `queue_conserves` — both, for any calls on a new queue. -/
namespace ScriptHost

def Move.callbacks (moves : List Move) : List TaskId :=
  moves.filterMap fun
    | .push callback => some callback
    | .pop => none

namespace TaskQueue

/-- Tasks for callbacks pushed one after another, numbered in push order from `first` on. -/
def numbered (first : Nat) (callbacks : List TaskId) : List Task :=
  (callbacks.zipIdx first).map fun e => ⟨e.1, .continuation, e.2⟩

/-- The task that the next pop takes. -/
def front (q : TaskQueue) : List Task :=
  (q.pop?.map Prod.fst).toList

/-- The tasks that moves remove, in order of removal. -/
def removed (q : TaskQueue) : List Move → List Task
  | [] => []
  | .push callback :: rest => (q.push callback).removed rest
  | .pop :: rest => q.front ++ (q.move .pop).removed rest

/-! Moves. -/

theorem numbered_append (first : Nat) (xs ys : List TaskId) :
    numbered first (xs ++ ys) = numbered first xs ++ numbered (first + xs.length) ys := by
  simp [numbered, List.zipIdx_append]

theorem front_append_tasks (q : TaskQueue) : q.front ++ (q.move .pop).tasks = q.tasks := by
  obtain ⟨tasks, pushed⟩ := q
  cases tasks with
  | nil => rfl
  | cons t rest => rfl

theorem moveAll_append (q : TaskQueue) (before after : List Move) :
    q.moveAll (before ++ after) = (q.moveAll before).moveAll after :=
  List.foldl_append

theorem removed_append (q : TaskQueue) (before after : List Move) :
    q.removed (before ++ after) = q.removed before ++ (q.moveAll before).removed after := by
  induction before generalizing q with
  | nil => rfl
  | cons m rest ih =>
    cases m with
    | push callback => exact ih (q.push callback)
    | pop =>
      rw [List.cons_append, removed, removed, List.append_assoc, ih]
      rfl

theorem callbacks_append (before after : List Move) :
    Move.callbacks (before ++ after) = Move.callbacks before ++ Move.callbacks after := by
  simp [Move.callbacks]

/-- The law of the queue. It asks nothing of the moves, so it holds at every moment of a drain,
    also of one that its callback never lets end. -/
theorem removed_append_tasks (q : TaskQueue) (moves : List Move) :
    q.removed moves ++ (q.moveAll moves).tasks =
      q.tasks ++ numbered q.pushed (Move.callbacks moves) := by
  induction moves generalizing q with
  | nil => simp [removed, moveAll, Move.callbacks, numbered]
  | cons m rest ih =>
    cases m with
    | push callback =>
      have hrest := ih (q.push callback)
      have hcallbacks : Move.callbacks (.push callback :: rest) =
          [callback] ++ Move.callbacks rest := by simp [Move.callbacks]
      rw [hcallbacks, numbered_append, ← List.append_assoc]
      exact hrest
    | pop =>
      -- of an empty queue a pop takes nothing, and then there is no front either
      have hrest := ih (q.move .pop)
      have hcallbacks : Move.callbacks (.pop :: rest) = Move.callbacks rest := by
        simp [Move.callbacks]
      calc q.removed (.pop :: rest) ++ (q.moveAll (.pop :: rest)).tasks
          = q.front ++ ((q.move .pop).removed rest ++ ((q.move .pop).moveAll rest).tasks) := by
            rw [removed, List.append_assoc]
            rfl
        _ = q.front ++ ((q.move .pop).tasks ++ numbered q.pushed (Move.callbacks rest)) := by
            rw [hrest]
            rfl
        _ = q.tasks ++ numbered q.pushed (Move.callbacks (.pop :: rest)) := by
            rw [← List.append_assoc, front_append_tasks, hcallbacks]

end TaskQueue

/-! Drains. -/

/-- A call that a drain makes: the task, the queue behind it when it is called, and the reaction. -/
structure DrainCall (ε : Type) where
  task : Task
  behind : TaskQueue
  reaction : Reaction ε

/-- The moves that calls of a drain come to: the drain takes each task, then its callback moves. -/
def DrainCall.moves {ε : Type} (is : List (DrainCall ε)) : List Move :=
  is.flatMap fun i => .pop :: i.reaction.moves

/-- The callback that also keeps the tasks that it was called with. -/
def Callback.logged {ε σ : Type} (cb : Callback ε σ) : Callback ε (σ × List Task) where
  react p t := ((cb.react p.1 t).1, (cb.react p.1 t).2, p.2 ++ [t])
  reserve p := cb.reserve p.1
  reserve_le p t := cb.reserve_le p.1 t

namespace TaskQueue

variable {ε σ : Type}

/-- The calls that a drain makes, in order. -/
def drainCalls (cb : Callback ε σ) (q : TaskQueue) (s : σ) : List (DrainCall ε) :=
  match _popped : q.pop? with
  | none => []
  | some (t, q') =>
    ⟨t, q', (cb.react s t).1⟩ ::
      if (cb.react s t).1.ending.isOk then
        drainCalls cb (q'.moveAll (cb.react s t).1.moves) (cb.react s t).2
      else []
termination_by q.size + cb.reserve s
decreasing_by
  have hpop := size_pop? _popped
  have hmove := size_moveAll_le q' (cb.react s t).1.moves
  have hcover := cb.reserve_le s t
  omega

theorem drainCalls_of_none {cb : Callback ε σ} {q : TaskQueue} (h : q.pop? = none) (s : σ) :
    drainCalls cb q s = [] := by
  rw [drainCalls]
  split
  · rfl
  · rename_i hpop
    cases hpop.symm.trans h

theorem drainCalls_of_some {cb : Callback ε σ} {q q' : TaskQueue} {t : Task}
    (h : q.pop? = some (t, q')) (s : σ) :
    drainCalls cb q s = ⟨t, q', (cb.react s t).1⟩ ::
      if (cb.react s t).1.ending.isOk then
        drainCalls cb (q'.moveAll (cb.react s t).1.moves) (cb.react s t).2
      else [] := by
  rw [drainCalls]
  split
  · rename_i hpop
    cases hpop.symm.trans h
  · rename_i hpop
    cases hpop.symm.trans h
    rfl

theorem move_pop_of_some {q q' : TaskQueue} {t : Task} (h : q.pop? = some (t, q')) :
    q.move .pop = q' := by
  obtain ⟨tasks, pushed⟩ := q
  cases tasks with
  | nil => cases h
  | cons t' rest =>
    cases h
    rfl

/-- The moves of a call: its task is taken, and its callback moves the queue behind it. -/
theorem moveAll_call {q q' : TaskQueue} {t : Task} (reaction : Reaction ε)
    (h : q.pop? = some (t, q')) (rest : List (DrainCall ε)) :
    q.moveAll (DrainCall.moves (⟨t, q', reaction⟩ :: rest)) =
      (q'.moveAll reaction.moves).moveAll (DrainCall.moves rest) := by
  rw [← moveAll_append, ← move_pop_of_some h]
  rfl

theorem calls_drain (cb : Callback ε σ) (q : TaskQueue) (s : σ) :
    (drain cb q s).calls = (drainCalls cb q s).map (·.task) := by
  fun_induction drain cb q s with
  | case1 q s hpop => simp [drainCalls_of_none hpop]
  | case2 q s t q' hpop reaction queue hok ih =>
    have hending : (cb.react s t).1.ending = .ok () := hok
    rw [drainCalls_of_some hpop, hending]
    exact congrArg (List.cons t) ih
  | case3 q s t q' hpop reaction queue e herror =>
    have hending : (cb.react s t).1.ending = .error e := herror
    rw [drainCalls_of_some hpop, hending]
    rfl
  | case4 q s t q' hpop reaction queue payload hfault =>
    have hending : (cb.react s t).1.ending = .fault payload := hfault
    rw [drainCalls_of_some hpop, hending]
    rfl

/-- A drain makes the moves of its calls and no others. -/
theorem queue_drain (cb : Callback ε σ) (q : TaskQueue) (s : σ) :
    (drain cb q s).queue = q.moveAll (DrainCall.moves (drainCalls cb q s)) := by
  fun_induction drain cb q s with
  | case1 q s hpop => simp [drainCalls_of_none hpop, DrainCall.moves, moveAll]
  | case2 q s t q' hpop reaction queue hok ih =>
    have hending : (cb.react s t).1.ending = .ok () := hok
    rw [drainCalls_of_some hpop, hending, moveAll_call _ hpop]
    exact ih
  | case3 q s t q' hpop reaction queue e herror =>
    have hending : (cb.react s t).1.ending = .error e := herror
    rw [drainCalls_of_some hpop, hending, moveAll_call _ hpop]
    rfl
  | case4 q s t q' hpop reaction queue payload hfault =>
    have hending : (cb.react s t).1.ending = .fault payload := hfault
    rw [drainCalls_of_some hpop, hending, moveAll_call _ hpop]
    rfl

theorem drain_logged (cb : Callback ε σ) (q : TaskQueue) (s : σ) (log : List Task) :
    (drain cb.logged q (s, log)).state.2 = log ++ (drain cb q s).calls := by
  fun_induction drain cb q s generalizing log with
  | case1 q s hpop => simp [drain_eq, hpop]
  | case2 q s t q' hpop reaction queue hok ih =>
    have hending : (cb.react s t).1.ending = .ok () := hok
    have hrest := ih (log ++ [t])
    rw [drain_eq, hpop]
    simp only [Callback.logged, hending]
    rw [List.append_assoc] at hrest
    exact hrest
  | case3 q s t q' hpop reaction queue e herror =>
    have hending : (cb.react s t).1.ending = .error e := herror
    rw [drain_eq, hpop]
    simp only [Callback.logged, hending]
  | case4 q s t q' hpop reaction queue payload hfault =>
    have hending : (cb.react s t).1.ending = .fault payload := hfault
    rw [drain_eq, hpop]
    simp only [Callback.logged, hending]

/-- Where a drain stops: all calls before ended well, the last one's task was taken off the
    queue, and what is left is what was behind it, after its moves. -/
structure StopsAt (cb : Callback ε σ) (q : TaskQueue) (s : σ) (before : List (DrainCall ε))
    (last : DrainCall ε) : Prop where
  calls : drainCalls cb q s = before ++ [last]
  fine : ∀ i ∈ before, i.reaction.ending = .ok ()
  ending : last.reaction.ending = (drain cb q s).ending
  taken : (q.moveAll (DrainCall.moves before)).pop? = some (last.task, last.behind)
  queue : (drain cb q s).queue = last.behind.moveAll last.reaction.moves

theorem stopsAt_first {cb : Callback ε σ} {q q' : TaskQueue} {t : Task} {s : σ}
    (hpop : q.pop? = some (t, q')) (h : (cb.react s t).1.ending ≠ .ok ()) :
    StopsAt cb q s [] ⟨t, q', (cb.react s t).1⟩ := by
  have hok : (cb.react s t).1.ending.isOk = false := by
    generalize (cb.react s t).1.ending = x at h ⊢
    cases x with
    | ok u => exact absurd rfl h
    | error e => rfl
    | fault payload => rfl
  have hdrain : (drain cb q s).ending = (cb.react s t).1.ending ∧
      (drain cb q s).queue = q'.moveAll (cb.react s t).1.moves := by
    rw [drain_eq, hpop]
    dsimp only
    generalize (cb.react s t).1.ending = x at h ⊢
    cases x with
    | ok u => exact absurd rfl h
    | error e => exact ⟨rfl, rfl⟩
    | fault payload => exact ⟨rfl, rfl⟩
  refine ⟨?_, ?_, hdrain.1.symm, hpop, hdrain.2⟩
  · rw [drainCalls_of_some hpop, hok]
    rfl
  · intro i hi
    exact absurd hi List.not_mem_nil

/-- A drain that does not end well stops at the call that did not. -/
theorem stopsAt_of_ending_ne (cb : Callback ε σ) (q : TaskQueue) (s : σ)
    (h : (drain cb q s).ending ≠ .ok ()) : ∃ before last, StopsAt cb q s before last := by
  fun_induction drain cb q s with
  | case1 q s hpop => exact absurd rfl h
  | case2 q s t q' hpop reaction queue hok ih =>
    have hending : (cb.react s t).1.ending = .ok () := hok
    -- the calls are those from the queue that this one leaves, with this one in front
    obtain ⟨before, last, hstops⟩ := ih h
    have hdrain : drain cb q s = (drain cb queue (cb.react s t).2).after t := by
      rw [drain_eq, hpop]
      dsimp only
      rw [hending]
    refine ⟨⟨t, q', reaction⟩ :: before, last, ?_, ?_, ?_, ?_, ?_⟩
    · rw [drainCalls_of_some hpop, hending]
      exact congrArg (List.cons ⟨t, q', reaction⟩) hstops.calls
    · intro i hi
      cases List.mem_cons.1 hi with
      | inl hfirst => exact hfirst ▸ hok
      | inr hlater => exact hstops.fine i hlater
    · rw [hdrain]
      exact hstops.ending
    · have hmoves : q.moveAll (DrainCall.moves (⟨t, q', reaction⟩ :: before)) =
          queue.moveAll (DrainCall.moves before) := moveAll_call reaction hpop before
      rw [hmoves]
      exact hstops.taken
    · rw [hdrain]
      exact hstops.queue
  | case3 q s t q' hpop reaction queue e herror =>
    have hfirst : (cb.react s t).1.ending ≠ .ok () := by
      intro hok
      cases hok.symm.trans herror
    exact ⟨[], ⟨t, q', reaction⟩, stopsAt_first hpop hfirst⟩
  | case4 q s t q' hpop reaction queue payload hfault =>
    have hfirst : (cb.react s t).1.ending ≠ .ok () := by
      intro hok
      cases hok.symm.trans hfault
    exact ⟨[], ⟨t, q', reaction⟩, stopsAt_first hpop hfirst⟩

/-- A drain that ends well tells how many calls it made, and leaves nothing queued. -/
theorem drain_of_ok {cb : Callback ε σ} {q : TaskQueue} {s : σ}
    (h : (drain cb q s).ending = .ok ()) :
    (drain cb q s).succeeded = (drain cb q s).calls.length ∧ (drain cb q s).queue.tasks = [] := by
  have hempty := drain_queue_of_ok cb q s h
  constructor
  · rw [Drained.succeeded, h]
    rfl
  · simpa [isEmpty] using hempty

theorem removed_moves_drainCalls (cb : Callback ε σ) (q : TaskQueue) (s : σ) :
    q.removed (DrainCall.moves (drainCalls cb q s)) =
      (drainCalls cb q s).flatMap fun i => i.task :: i.behind.removed i.reaction.moves := by
  fun_induction drainCalls cb q s with
  | case1 q s hpop => rfl
  | case2 q s t q' hpop ih =>
    have hfront : q.front = [t] := by simp [front, hpop]
    have hbehind := move_pop_of_some hpop
    rw [DrainCall.moves, List.flatMap_cons, List.cons_append, removed, hfront, hbehind,
      removed_append, List.flatMap_cons, List.cons_append]
    split
    · rw [← ih]
      rfl
    · rfl

/-! Calls. -/

/-- A call on a queue. A drain comes with its callback and the state that the callback starts in. -/
inductive Call (ε : Type) where
  | push (callback : TaskId)
  | receive (hook : Hook) (signals : List Signal)
  | pop
  | drain {σ : Type} (cb : Callback ε σ) (s : σ)

namespace Call

def after (q : TaskQueue) : Call ε → TaskQueue
  | .push callback => q.push callback
  | .receive hook signals => q.receive hook signals
  | .pop => (q.pop?.map Prod.snd).getD q
  | .drain cb s => (q.drain cb s).queue

/-- The callbacks that a call pushes, in push order. -/
def pushed (q : TaskQueue) : Call ε → List TaskId
  | .push callback => [callback]
  | .receive hook signals => (signals.filter (·.hook = hook)).map (·.task)
  | .pop => []
  | .drain cb s => (drainCalls cb q s).flatMap fun i => Move.callbacks i.reaction.moves

/-- The tasks that a call removes, in order of removal. In a drain the task of each callback call
    goes first, whichever way that call ends, and then what the callback pops. -/
def removed (q : TaskQueue) : Call ε → List Task
  | .push _ => []
  | .receive _ _ => []
  | .pop => q.front
  | .drain cb s => (drainCalls cb q s).flatMap fun i => i.task :: i.behind.removed i.reaction.moves

def moves (q : TaskQueue) : Call ε → List Move
  | .push callback => [.push callback]
  | .receive hook signals => hook.moves signals
  | .pop => [.pop]
  | .drain cb s => DrainCall.moves (drainCalls cb q s)

theorem after_eq (q : TaskQueue) (call : Call ε) : call.after q = q.moveAll (call.moves q) := by
  cases call with
  | push callback => rfl
  | receive hook signals => exact receive_eq_moveAll q hook signals
  | pop =>
    obtain ⟨tasks, pushed⟩ := q
    cases tasks with
    | nil => rfl
    | cons t rest => rfl
  | drain cb s => exact queue_drain cb q s

theorem pushed_eq (q : TaskQueue) (call : Call ε) :
    call.pushed q = Move.callbacks (call.moves q) := by
  cases call with
  | push callback => rfl
  | receive hook signals =>
    rw [moves, Hook.moves, Move.callbacks, List.filterMap_map]
    exact (congrFun List.filterMap_eq_map _).symm
  | pop => rfl
  | drain cb s =>
    simp only [pushed, moves, DrainCall.moves, Move.callbacks, List.filterMap_flatMap]
    rfl

theorem removed_eq (q : TaskQueue) (call : Call ε) :
    call.removed q = q.removed (call.moves q) := by
  cases call with
  | push callback => rfl
  | receive hook signals =>
    simp only [moves, Hook.moves]
    induction signals.filter (·.hook = hook) generalizing q with
    | nil => rfl
    | cons x rest ih => exact ih (q.push x.task)
  | pop => simp [removed, moves, TaskQueue.removed]
  | drain cb s => exact (removed_moves_drainCalls cb q s).symm

end Call

def afterAll (q : TaskQueue) (calls : List (Call ε)) : TaskQueue :=
  calls.foldl Call.after q

/-- The callbacks that calls push, in push order. -/
def pushedAll (q : TaskQueue) : List (Call ε) → List TaskId
  | [] => []
  | call :: rest => call.pushed q ++ (call.after q).pushedAll rest

/-- The tasks that calls remove, in order of removal. -/
def removedAll (q : TaskQueue) : List (Call ε) → List Task
  | [] => []
  | call :: rest => call.removed q ++ (call.after q).removedAll rest

def movesAll (q : TaskQueue) : List (Call ε) → List Move
  | [] => []
  | call :: rest => call.moves q ++ (call.after q).movesAll rest

theorem all_eq (q : TaskQueue) (calls : List (Call ε)) :
    q.afterAll calls = q.moveAll (q.movesAll calls) ∧
      q.pushedAll calls = Move.callbacks (q.movesAll calls) ∧
      q.removedAll calls = q.removed (q.movesAll calls) := by
  induction calls generalizing q with
  | nil => exact ⟨rfl, rfl, rfl⟩
  | cons call rest ih =>
    obtain ⟨hafter, hpushed, hremoved⟩ := ih (call.after q)
    have hcall := call.after_eq q
    refine ⟨?_, ?_, ?_⟩
    · rw [movesAll, moveAll_append, ← hcall]
      exact hafter
    · rw [movesAll, callbacks_append, ← call.pushed_eq, pushedAll, hpushed]
    · rw [movesAll, removed_append, ← call.removed_eq, ← hcall, removedAll, hremoved]

/-- What a drain does: its callback is called with the tasks that it tells of and with no others.
    One that ends well tells how many and leaves nothing queued. One that does not stops at the
    call that did not, and what was queued behind that call's task is still queued in order, less
    what the call popped, with what it pushed at the end. -/
structure Drains (cb : Callback ε σ) (q : TaskQueue) (s : σ) : Prop where
  calls : (drain cb q s).calls = (drainCalls cb q s).map (·.task)
  heard : (drain cb.logged q (s, [])).state.2 = (drain cb q s).calls
  ok : (drain cb q s).ending = .ok () →
    (drain cb q s).succeeded = (drain cb q s).calls.length ∧ (drain cb q s).queue.tasks = []
  stops : (drain cb q s).ending ≠ .ok () → ∃ before last, StopsAt cb q s before last ∧
    last.behind.removed last.reaction.moves ++ (drain cb q s).queue.tasks =
      last.behind.tasks ++
        numbered last.behind.pushed (Move.callbacks last.reaction.moves)

theorem drains (cb : Callback ε σ) (q : TaskQueue) (s : σ) : Drains cb q s where
  calls := calls_drain cb q s
  heard := drain_logged cb q s []
  ok := drain_of_ok
  stops h := by
    obtain ⟨before, last, hstops⟩ := stopsAt_of_ending_ne cb q s h
    refine ⟨before, last, hstops, ?_⟩
    rw [hstops.queue]
    exact removed_append_tasks last.behind last.reaction.moves

/-- Conservation and order. After any calls on a new queue, the tasks removed so far and then the
    tasks still queued are the tasks pushed so far, in push order and numbered from 0 without
    gaps. The same holds after any moves that follow, so it holds at every moment of a drain that
    is then made, and that drain does what drains do. -/
theorem queue_conserves (calls : List (Call ε)) :
    removedAll empty calls ++ (empty.afterAll calls).tasks = numbered 0 (empty.pushedAll calls) ∧
      (∀ moves : List Move,
        (empty.removedAll calls ++ (empty.afterAll calls).removed moves) ++
            ((empty.afterAll calls).moveAll moves).tasks =
          numbered 0 (empty.pushedAll calls ++ Move.callbacks moves)) ∧
      ∀ {σ : Type} (cb : Callback ε σ) (s : σ), Drains cb (empty.afterAll calls) s := by
  obtain ⟨hafter, hpushed, hremoved⟩ := all_eq empty calls
  have hlaw : ∀ moves : List Move,
      (empty.removedAll calls ++ (empty.afterAll calls).removed moves) ++
          ((empty.afterAll calls).moveAll moves).tasks =
        numbered 0 (empty.pushedAll calls ++ Move.callbacks moves) := by
    intro moves
    calc (empty.removedAll calls ++ (empty.afterAll calls).removed moves) ++
          ((empty.afterAll calls).moveAll moves).tasks
        = empty.removed (empty.movesAll calls ++ moves) ++
            (empty.moveAll (empty.movesAll calls ++ moves)).tasks := by
          rw [removed_append, moveAll_append, hafter, hremoved]
      _ = numbered 0 (Move.callbacks (empty.movesAll calls ++ moves)) :=
          removed_append_tasks empty _
      _ = numbered 0 (empty.pushedAll calls ++ Move.callbacks moves) := by
          rw [callbacks_append, hpushed]
  refine ⟨?_, hlaw, fun cb s => drains cb _ s⟩
  simpa [removed, moveAll, Move.callbacks] using hlaw []

end TaskQueue
end ScriptHost

import ScriptHost.Ending
import ScriptHost.TaskQueue.Basic

/- Draining a queue through a callback. The callback gets one task at a time and
   may push to the queue and take from it before it ends; the first error or fault
   stops the drain, and the tasks behind stay queued. A callback carries a bound on
   the pushes it can still make, which is why every drain ends. -/
namespace ScriptHost

/-- What a callback does to the queue it is called from. -/
inductive Move where
  | push (callback : TaskId)
  | pop
  deriving DecidableEq, Repr

/-- The number of pushes among moves. -/
def Move.pushes (moves : List Move) : Nat :=
  moves.countP fun
    | .push _ => true
    | .pop => false

/-- One call of a callback: its moves in order, and how it ended. -/
structure Reaction (ε : Type) where
  moves : List Move
  ending : Ending ε Unit

/-- A callback with a state of its own, and with a reserve that covers every push it makes. -/
structure Callback (ε σ : Type) where
  react : σ → Task → Reaction ε × σ
  reserve : σ → Nat
  reserve_le : ∀ s t, Move.pushes (react s t).1.moves + reserve (react s t).2 ≤ reserve s

namespace TaskQueue

/-- The queue after one move. A pop drops the oldest task, if there is one. -/
def move (q : TaskQueue) : Move → TaskQueue
  | .push callback => q.push callback
  | .pop => { q with tasks := q.tasks.tail }

def moveAll (q : TaskQueue) (moves : List Move) : TaskQueue :=
  moves.foldl move q

theorem size_moveAll_le (q : TaskQueue) (moves : List Move) :
    (q.moveAll moves).size ≤ q.size + Move.pushes moves := by
  induction moves generalizing q with
  | nil => simp [moveAll]
  | cons m rest ih =>
    have h := ih (q.move m)
    simp only [moveAll, List.foldl_cons] at h ⊢
    cases m with
    | push callback =>
      have hp : (q.move (.push callback)).size = q.size + 1 := size_push q callback
      simp only [Move.pushes, List.countP_cons] at h ⊢
      simp only [if_true]
      omega
    | pop =>
      have hp : (q.move .pop).size ≤ q.size := by simp [move, size]
      simp only [Move.pushes, List.countP_cons] at h ⊢
      simp only [Bool.false_eq_true, if_false]
      omega

end TaskQueue

/-- What a drain leaves: the tasks handed to the callback, a failing one included,
    how the drain ended, and the queue and the callback's state after it. -/
structure Drained (ε σ : Type) where
  calls : List Task
  ending : Ending ε Unit
  queue : TaskQueue
  state : σ

namespace Drained

variable {ε σ : Type}

def succeeded (d : Drained ε σ) : Nat :=
  if d.ending.isOk then d.calls.length else d.calls.length - 1

/-- The drain with one more call in front. -/
def after (t : Task) (d : Drained ε σ) : Drained ε σ :=
  { d with calls := t :: d.calls }

end Drained

namespace TaskQueue

variable {ε σ : Type}

/-- Calls the callback on the oldest task until none is left or a call does not end well. -/
def drain (cb : Callback ε σ) (q : TaskQueue) (s : σ) : Drained ε σ :=
  match _popped : q.pop? with
  | none => ⟨[], .ok (), q, s⟩
  | some (t, q') =>
    let reaction := (cb.react s t).1
    let queue := q'.moveAll reaction.moves
    match reaction.ending with
    | .ok () => (drain cb queue (cb.react s t).2).after t
    | .error e => ⟨[t], .error e, queue, (cb.react s t).2⟩
    | .fault payload => ⟨[t], .fault payload, queue, (cb.react s t).2⟩
termination_by q.size + cb.reserve s
decreasing_by
  have hpop := size_pop? _popped
  have hmove := size_moveAll_le q' (cb.react s t).1.moves
  have hcover := cb.reserve_le s t
  omega

theorem drain_queue_of_ok (cb : Callback ε σ) (q : TaskQueue) (s : σ)
    (h : (drain cb q s).ending = .ok ()) : (drain cb q s).queue.isEmpty := by
  fun_induction drain cb q s with
  | case1 q s hq => exact (pop?_eq_none_iff q).1 hq
  | case2 q s t q' hq reaction queue hr ih => exact ih h
  | case3 => cases h
  | case4 => cases h

end TaskQueue

/-- What draining until the queue settles leaves, with the passes made and the calls that ended
    well. -/
structure Settled (ε σ : Type) where
  passes : Nat
  succeeded : Nat
  ending : Ending ε Unit
  queue : TaskQueue
  state : σ

namespace TaskQueue

variable {ε σ : Type}

/-- Drains until a pass leaves the queue empty. A pass that faults counts as a pass, but its calls
    do not count. -/
def settle (cb : Callback ε σ) (q : TaskQueue) (s : σ) : Settled ε σ :=
  let pass := drain cb q s
  match _ended : pass.ending with
  | .ok () =>
    if _rest : pass.queue.isEmpty then ⟨1, pass.succeeded, .ok (), pass.queue, pass.state⟩
    else
      let later := settle cb pass.queue pass.state
      { later with passes := later.passes + 1, succeeded := pass.succeeded + later.succeeded }
  | .error e => ⟨1, pass.succeeded, .error e, pass.queue, pass.state⟩
  | .fault payload => ⟨1, 0, .fault payload, pass.queue, pass.state⟩
termination_by q.size + cb.reserve s
decreasing_by
  exact absurd (drain_queue_of_ok cb q s _ended) _rest

end TaskQueue
end ScriptHost

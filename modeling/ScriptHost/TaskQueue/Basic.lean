import ScriptHost.Engine.Basic

/- A first-in first-out queue of continuations. Each task carries its place in
   push order, counted from 0 for each queue. -/
namespace ScriptHost

inductive TaskSource where
  | continuation
  deriving DecidableEq, Repr

def TaskSource.value : TaskSource → Nat
  | continuation => 0

structure Task where
  callback : TaskId
  source : TaskSource
  sequence : Nat
  deriving DecidableEq, Repr

/-- Tasks waiting, oldest first, and how many were ever pushed. -/
structure TaskQueue where
  tasks : List Task := []
  pushed : Nat := 0
  deriving DecidableEq, Repr

namespace TaskQueue

def empty : TaskQueue := {}

def size (q : TaskQueue) : Nat := q.tasks.length

def isEmpty (q : TaskQueue) : Bool := q.tasks.isEmpty

/-- Appends a task. Its sequence number is the number of pushes before it. -/
def push (q : TaskQueue) (callback : TaskId) : TaskQueue :=
  { tasks := q.tasks ++ [⟨callback, .continuation, q.pushed⟩], pushed := q.pushed + 1 }

def pop? (q : TaskQueue) : Option (Task × TaskQueue) :=
  match q.tasks with
  | [] => none
  | t :: rest => some (t, { q with tasks := rest })

/-- Pushes the tasks that were signalled to a hook, in order. -/
def receive (q : TaskQueue) (hook : Hook) (signals : List Signal) : TaskQueue :=
  (signals.filter (·.hook = hook)).foldl (fun q s => q.push s.task) q

@[simp] theorem size_push (q : TaskQueue) (t : TaskId) : (q.push t).size = q.size + 1 := by
  simp [push, size]

theorem tasks_push (q : TaskQueue) (t : TaskId) :
    (q.push t).tasks = q.tasks ++ [⟨t, .continuation, q.pushed⟩] := rfl

theorem pop?_eq_none_iff (q : TaskQueue) : q.pop? = none ↔ q.isEmpty := by
  cases h : q.tasks <;> simp [pop?, isEmpty, h]

theorem size_pop? {q q' : TaskQueue} {t : Task} (h : q.pop? = some (t, q')) :
    q.size = q'.size + 1 := by
  unfold pop? at h
  split at h
  · cases h
  · rename_i hq
    cases h
    simp [size, hq]

end TaskQueue
end ScriptHost

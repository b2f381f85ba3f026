import ScriptHost.Ending
import ScriptHost.Outcome
import ScriptHost.Text.Quoted

/- The engine lock of a process. At most one holder has it, under a name; whoever
   asks while it is held is told that name. Ending the guard frees the lock, also
   when a fault passes. A guard that is released is still dropped afterwards, and
   bears a mark so that it does not free the lock twice. -/
namespace ScriptHost

/-- The name under which the program takes the lock. -/
def defaultLockName : String := "scripthost.engine"

structure EngineLock where
  holder : Option String := none
  deriving DecidableEq, Repr

/-- Proof of having taken the lock, with a mark once the lock was freed for it. -/
structure LockGuard where
  name : String
  released : Bool := false
  deriving DecidableEq, Repr

namespace EngineLock

/-- Takes the lock, unless it is held. -/
def acquire (l : EngineLock) (name : String) : Except HostError LockGuard × EngineLock :=
  match l.holder with
  | some holder => (.error (.lock holder), l)
  | none => (.ok { name }, ⟨some name⟩)

/-- Frees the lock for a guard, unless it was freed for that guard before. Who holds it is not
    looked at. -/
def free (l : EngineLock) (g : LockGuard) : LockGuard × EngineLock :=
  if g.released then (g, l) else ({ g with released := true }, ⟨none⟩)

/-- A guard goes out of scope. -/
def drop (l : EngineLock) (g : LockGuard) : EngineLock := (l.free g).2

/-- Ends a guard: the lock is freed for it, and then it goes out of scope. -/
def release (l : EngineLock) (g : LockGuard) : EngineLock :=
  let (g, l) := l.free g
  l.drop g

/-- A fault passes the scope of a guard. -/
def unwind (l : EngineLock) (g : LockGuard) (payload : Payload) :
    Ending HostError Unit × EngineLock :=
  (.fault payload, l.drop g)

/-- Takes the lock and raises a fault while holding it; the guard ends as the fault passes. -/
def faultWhileHeld (l : EngineLock) (name : String) (code : UInt32) :
    Ending HostError Unit × EngineLock :=
  match l.acquire name with
  | (.error e, l') => (.error e, l')
  | (.ok g, l') => l'.unwind g (.structured code)

theorem acquire_eq_ok_iff (l : EngineLock) (name : String) :
    l.acquire name = (.ok { name }, ⟨some name⟩) ↔ l.holder = none := by
  obtain ⟨holder⟩ := l
  cases holder <;> simp [acquire]

/-- A guard that was released leaves the lock alone as it goes out of scope. -/
theorem drop_of_released (l : EngineLock) {g : LockGuard} (h : g.released = true) :
    l.drop g = l := by
  rw [drop, free, if_pos h]

theorem drop_of_not_released (l : EngineLock) {g : LockGuard} (h : g.released = false) :
    l.drop g = ⟨none⟩ := by
  rw [drop, free, if_neg (by rw [h]; decide)]

theorem released_free (l : EngineLock) (g : LockGuard) : (l.free g).1.released = true := by
  unfold free
  split
  · assumption
  · rfl

/-- The drop that follows a release adds nothing to it. -/
theorem release_eq_drop (l : EngineLock) (g : LockGuard) : l.release g = l.drop g :=
  drop_of_released _ (l.released_free g)

end EngineLock

def LockGuard.acquiredLine (g : LockGuard) : String := s!"acquired engine lock '{g.name}'"

def LockGuard.releasedLine (g : LockGuard) : String := s!"released engine lock '{g.name}'"

def LockGuard.debug (g : LockGuard) : String :=
  "EngineLockGuard \x7b name: " ++ Text.quoted g.name ++ s!", released: {g.released} \x7d"

end ScriptHost

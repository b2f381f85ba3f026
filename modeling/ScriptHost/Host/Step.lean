import ScriptHost.Ending

/- Steps: computations that change a state and end in a value, an error or a fault.
   The state after an error or a fault is kept, and what comes after either is
   skipped. An error can be caught; a fault only passes by, and on its way can run
   a change of state that is meant for this case. -/
namespace ScriptHost

/-- A computation over a state, with its ending and the state it leaves. -/
def Step (σ ε α : Type) : Type := σ → Ending ε α × σ

namespace Step

variable {σ τ ε δ α β : Type}

def ok (a : α) : Step σ ε α := fun s => (.ok a, s)

def fail (e : ε) : Step σ ε α := fun s => (.error e, s)

def andThen (m : Step σ ε α) (next : α → Step σ ε β) : Step σ ε β := fun s =>
  match m s with
  | (.ok a, s') => next a s'
  | (.error e, s') => (.error e, s')
  | (.fault payload, s') => (.fault payload, s')

instance : Monad (Step σ ε) where
  pure := ok
  bind := andThen

def state : Step σ ε σ := fun s => (.ok s, s)

def change (f : σ → σ) : Step σ ε Unit := fun s => (.ok (), f s)

def ofExcept (r : Except ε α) : Step σ ε α := fun s => (.ofExcept r, s)

/-- Catches an error; a fault passes. -/
def attempt (m : Step σ ε α) : Step σ δ (Except ε α) := fun s =>
  match m s with
  | (.ok a, s') => (.ok (.ok a), s')
  | (.error e, s') => (.ok (.error e), s')
  | (.fault payload, s') => (.fault payload, s')

/-- Changes the state when an error passes. -/
def onError (m : Step σ ε α) (f : σ → σ) : Step σ ε α := fun s =>
  match m s with
  | (.error e, s') => (.error e, f s')
  | r => r

/-- Changes the state when a fault passes. -/
def onFault (m : Step σ ε α) (f : σ → σ) : Step σ ε α := fun s =>
  match m s with
  | (.fault payload, s') => (.fault payload, f s')
  | r => r

/-- A step over a part of a larger state. -/
def within (get : τ → σ) (put : τ → σ → τ) (m : Step σ ε α) : Step τ ε α := fun t =>
  let r := m (get t)
  (r.1, put t r.2)

theorem bind_apply (m : Step σ ε α) (next : α → Step σ ε β) (s : σ) :
    (m >>= next) s = match m s with
      | (.ok a, s') => next a s'
      | (.error e, s') => (.error e, s')
      | (.fault payload, s') => (.fault payload, s') := rfl

theorem bind_apply_of_ok {m : Step σ ε α} {a : α} {s s' : σ} (next : α → Step σ ε β)
    (h : m s = (.ok a, s')) : (m >>= next) s = next a s' := by
  simp [bind_apply, h]

theorem bind_apply_of_error {m : Step σ ε α} {e : ε} {s s' : σ} (next : α → Step σ ε β)
    (h : m s = (.error e, s')) : (m >>= next) s = (.error e, s') := by
  simp [bind_apply, h]

theorem bind_apply_of_fault {m : Step σ ε α} {payload : Payload} {s s' : σ}
    (next : α → Step σ ε β) (h : m s = (.fault payload, s')) :
    (m >>= next) s = (.fault payload, s') := by
  simp [bind_apply, h]

end Step
end ScriptHost

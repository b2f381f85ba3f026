/- How a call ends. A fault is neither a value nor an error return: what was raised
   passes through every caller up to the boundary that contains it. There it counts
   as a structured fault, whose code it has if it was raised as one. -/
namespace ScriptHost

/-- What unwinds after a fault: a structured fault with its code, or something that was
    raised without one, be it a text or not. -/
inductive Payload where
  | structured (code : UInt32)
  | text (message : String)
  | unknown
  deriving DecidableEq, Repr

/-- The code reported for what was raised without one. -/
def uncategorizedFault : UInt32 := 0xE0000001

namespace Payload

def code : Payload → UInt32
  | structured code => code
  | text _ => uncategorizedFault
  | unknown => uncategorizedFault

/-- What is noted of a payload that has no code of its own. -/
def remark? : Payload → Option String
  | structured _ => none
  | text message => some s!"uncategorized fault: {message}"
  | unknown => some "uncategorized fault: unknown panic payload"

end Payload

/-- A value, an error returned to the caller, or a fault with what was raised. -/
inductive Ending (ε α : Type) where
  | ok (value : α)
  | error (reason : ε)
  | fault (payload : Payload)
  deriving DecidableEq, Repr

namespace Ending

variable {ε α : Type}

/-- The ending of a call that cannot fault. -/
def ofExcept : Except ε α → Ending ε α
  | .ok a => .ok a
  | .error e => .error e

def isOk : Ending ε α → Bool
  | .ok _ => true
  | _ => false

end Ending

/-- The first of two results, unless it is fine and the second is not. -/
def firstFailure {ε : Type} : Except ε Unit → Except ε Unit → Except ε Unit
  | .ok _, second => second
  | .error e, _ => .error e

end ScriptHost

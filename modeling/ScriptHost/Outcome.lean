import ScriptHost.Engine.ErrorCode
import ScriptHost.Engine.Operation
import ScriptHost.Files.SystemError
import ScriptHost.Script.Exception

/- Errors of the host and outcomes of a run. A script error is an error of the host
   too until the run ends; then it is an outcome of its own, with an exit code and a
   diagnostic of its own. A fault has no diagnostic: it is reported when contained. -/
namespace ScriptHost

def hostName : String := "scripthost"

/-- Why the host could not go on. -/
inductive HostError where
  | engine (operation : Operation) (code : ErrorCode)
  | script (operation : Operation) (code : ErrorCode) (exception : Option ScriptException)
  | invariant (message : String)
  | system (context : String) (reason : SystemError)
  | encoding (message : String)
  | lock (holder : String)
  deriving DecidableEq, Repr

def HostError.message : HostError → String
  | engine op code => s!"{op.name} failed. JsErrorCode={code.render}"
  | script op code _ => s!"{op.name} failed. JsErrorCode={code.render}"
  | invariant message => s!"Invariant violation: {message}"
  | system context reason => s!"{context}: {reason.message}"
  | encoding message => message
  | lock holder => s!"Engine lock '{holder}' is already held"

/-- How a run ended, without the particulars. -/
inductive OutcomeKind where
  | success
  | scriptError
  | hostError
  | fault
  deriving DecidableEq, Repr

def OutcomeKind.name : OutcomeKind → String
  | success => "Success"
  | scriptError => "ScriptError"
  | hostError => "HostError"
  | fault => "Fault"

/-- How a run ended. -/
inductive Outcome where
  | success
  | scriptError (operation : Operation) (code : ErrorCode) (exception : Option ScriptException)
  | hostError (error : HostError)
  | fault (code : UInt32)
  deriving DecidableEq, Repr

def exitUsage : Int := 1

def exitHostError : Int := 2

def exitScriptError : Int := 3

/-- A 32-bit word read as a signed number. -/
def signed32 (w : UInt32) : Int :=
  if w.toNat < 0x80000000 then w.toNat else (w.toNat : Int) - 0x100000000

/-- What is left of an exit code when a process ends with it: its low eight bits. -/
def exitStatus (code : Int) : Nat :=
  (code.emod 256).toNat

namespace Outcome

/-- The outcome of a run that ended with an error. -/
def ofError : HostError → Outcome
  | .script op code exception => .scriptError op code exception
  | error => .hostError error

/-- The outcome of a run that was not cut off by a fault. -/
def ofResult : Except HostError Unit → Outcome
  | .ok () => .success
  | .error e => ofError e

def kind : Outcome → OutcomeKind
  | success => .success
  | scriptError .. => .scriptError
  | hostError _ => .hostError
  | fault _ => .fault

def isSuccess (o : Outcome) : Bool := o.kind = .success

def exitCode : Outcome → Int
  | success => 0
  | scriptError .. => exitScriptError
  | hostError _ => exitHostError
  | fault code => signed32 code

/-- The diagnostic line for a failure of the script with a given name. -/
def diagnostic (script : String) : Outcome → Option String
  | success => none
  | fault _ => none
  | scriptError op code (some e) => some s!"ERROR: {op.name} failed: {script}{e.render} [{code.name}]"
  | scriptError op code none => some s!"ERROR: {op.name} failed: {script} [{code.name}]"
  | hostError e => some s!"ERROR: {e.message}"

end Outcome
end ScriptHost

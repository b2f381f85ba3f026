import ScriptHost.Host.Supervisor

/- The worker: a run on a thread of its own, with the boundary where faults stop.
   By policy a fault ends the process with its code, is reported and becomes the
   outcome, or is not contained at all. Whether a thread is started is up to the
   system: for each stack size it may have a reason not to. -/
namespace ScriptHost

/-- What the boundary does with a fault. -/
inductive FaultPolicy where
  | terminate
  | report
  | propagate
  deriving DecidableEq, Repr

def FaultPolicy.name : FaultPolicy → String
  | terminate => "terminate"
  | report => "report"
  | propagate => "propagate"

def workerName : String := "scripthost-worker"

/-- The stack a worker gets unless told otherwise: 8 MiB. -/
def defaultStackSize : Nat := 8 * 1024 * 1024

structure WorkerOptions where
  stackSize : Nat := defaultStackSize
  faultPolicy : FaultPolicy := .terminate
  deriving DecidableEq, Repr

/-- The reason that the system has not to start a thread with a stack of so many bytes, if any. -/
abbrev ThreadRefusal := Nat → Option SystemError

/-- What comes back from a worker; with `terminated` nothing does, for the process has ended. -/
inductive WorkerResult where
  | outcome (outcome : Outcome)
  | failed (error : HostError)
  | propagated (payload : Payload)
  | terminated (code : UInt32)
  deriving DecidableEq, Repr

def renderFault (code : UInt32) : String :=
  s!"structured fault 0x{Text.hex code.toNat}"

namespace Supervised

/-- Runs a step that returns unless it faults. Of a fault only the code remains; a payload that
    has none is noted. -/
def contain {α : Type} (m : Step Supervised Empty α) (s : Supervised) :
    Except UInt32 α × Supervised :=
  match m s with
  | (.ok a, s') => (.ok a, s')
  | (.fault payload, s') =>
    (.error payload.code, changeHost (fun h => payload.remark?.elim h h.note) s')

end Supervised

namespace Worker

def startFailure : String := "failed to create worker thread"

def fatalLine (code : UInt32) : String :=
  s!"FATAL ERROR: {hostName} failed due to fault code {Text.hex code.toNat}"

/-- Reports a fault that was contained. -/
def report (code : UInt32) (s : Supervised) : Supervised :=
  Supervised.changeHost
    (fun h => (h.note s!"{workerName} faulted in {s.supervisor.state.name}").say
      (.plain (fatalLine code))) s

/-- A run with the boundary that the policy asks for. -/
def guarded (policy : FaultPolicy) (script : Script) (s : Supervised) : WorkerResult × Host :=
  match policy with
  | .propagate =>
    match Supervised.run script s with
    | (.ok outcome, s') => (.outcome outcome, s'.host)
    | (.fault payload, s') => (.propagated payload, s'.host)
  | .terminate =>
    match Supervised.contain (Supervised.run script) s with
    | (.ok outcome, s') => (.outcome outcome, s'.host)
    | (.error code, s') => (.terminated code, (report code s').host)
  | .report =>
    match Supervised.contain (Supervised.run script) s with
    | (.ok outcome, s') => (.outcome outcome, s'.host)
    | (.error code, s') =>
      let (outcome, s'') := Supervised.recordFault code (report code s')
      (.outcome outcome, s''.host)

/-- Runs a script on a worker, if the system starts one, and waits for it. -/
def run (refusal : ThreadRefusal) (script : Script) (mode : Mode) (options : WorkerOptions)
    (h : Host) : WorkerResult × Host :=
  let started := h.note s!"starting {workerName} for {script.displayName} in {mode.name} mode"
  match refusal options.stackSize with
  | some reason =>
    (.failed (.system startFailure reason), started.note s!"{startFailure}: {reason.message}")
  | none => guarded options.faultPolicy script ⟨started, { mode := mode }⟩

end Worker
end ScriptHost

import ScriptHost.Host.Guard
import ScriptHost.Host.Serializer
import ScriptHost.Mode

/- The supervisor takes one script through its mode:

   idle, runtime ready, context entered, then by mode
     source, pre-serialized     running, draining
     serialized                 compiling, running and draining in a second runtime
     emit header, byte code     compiling
   and finished. A fault contained outside is recorded as faulted.

   Once entered, the context is left and then the runtime disposed, whatever failed
   before; a run that failed is drained all the same. The first failure is the one
   returned. A supervisor runs once: from any state but idle it refuses. -/
namespace ScriptHost

inductive SupervisorState where
  | idle
  | runtimeReady
  | contextEntered
  | compiling
  | running
  | draining
  | finished (kind : OutcomeKind)
  | faulted
  deriving DecidableEq, Repr

def SupervisorState.name : SupervisorState → String
  | idle => "Idle"
  | runtimeReady => "RuntimeReady"
  | contextEntered => "ContextEntered"
  | compiling => "Compiling"
  | running => "Running"
  | draining => "Draining"
  | finished kind => s!"Finished({kind.name})"
  | faulted => "Faulted"

/-- A supervisor: its mode, its state and the states before it, and what its drains came to. -/
structure Supervisor where
  mode : Mode
  past : List SupervisorState := []
  state : SupervisorState := .idle
  tasksInvoked : Nat := 0
  drainPasses : Nat := 0
  deriving DecidableEq, Repr

/-- Every state visited, in order. -/
def Supervisor.history (s : Supervisor) : List SupervisorState :=
  s.past ++ [s.state]

def Supervisor.moveTo (s : Supervisor) (next : SupervisorState) : Supervisor :=
  { s with past := s.past ++ [s.state], state := next }

@[simp] theorem Supervisor.history_moveTo (s : Supervisor) (next : SupervisorState) :
    (s.moveTo next).history = s.history ++ [next] := by
  simp [history, moveTo]

/-- A host with a supervisor at work. -/
structure Supervised where
  host : Host
  supervisor : Supervisor

abbrev SupervisedStep (α : Type) := Step Supervised HostError α

namespace Supervised

/-- A step of the host alone. -/
def onHost {ε α : Type} (m : Step Host ε α) : Step Supervised ε α :=
  m.within host fun s h => { s with host := h }

def changeHost (f : Host → Host) (s : Supervised) : Supervised :=
  { s with host := f s.host }

def moved (next : SupervisorState) (s : Supervised) : Supervised :=
  { host := s.host.note s!"supervisor {s.supervisor.state.name} -> {next.name}"
    supervisor := s.supervisor.moveTo next }

def transition (next : SupervisorState) : SupervisedStep Unit :=
  .change (moved next)

/-- Notes a failure that is handed on. -/
def noteFailure (front : String) : Except HostError Unit → SupervisedStep Unit
  | .ok () => .ok ()
  | .error e => onHost (Host.debug s!"{front}{e.message}")

/-- Drains a hook's queue and counts the passes and the calls that ended well. -/
def drain (hook : Hook) (queue : TaskQueue) :
    SupervisedStep (Except HostError Unit × TaskQueue) := fun s =>
  let d := queue.settle (Host.taskCallback hook) s.host
  let s' : Supervised :=
    { host := d.state
      supervisor := { s.supervisor with
        tasksInvoked := s.supervisor.tasksInvoked + d.succeeded
        drainPasses := s.supervisor.drainPasses + d.passes } }
  match d.ending with
  | .ok () => (.ok (.ok (), d.queue), s')
  | .error e => (.ok (.error e, d.queue), s')
  | .fault payload => (.fault payload, s')

/-- Removes the hook from the current context; a refusal is only noted. -/
def clearHook (h : Host) : Host :=
  let (answer, engine) := h.engine.setHook none
  let h' := { h with engine := engine }
  match answer with
  | .ok () => h'
  | .error code => h'.note s!"clearing continuation callback failed. JsErrorCode={code.render}"

/-- Notes how many tasks a drain left behind, if any. -/
def noteUndrained (queue : TaskQueue) (h : Host) : Host :=
  if queue.isEmpty then h else h.note s!"{queue.size} continuation(s) left undrained"

/-- The engine call that runs a script, from source or from byte code. -/
def runCall (script : Script) (bytecode : Option (List UInt8)) (tag : SourceContext) :
    HostStep (Except HostError Unit × List Signal) :=
  match bytecode with
  | some bytes => Host.performStep .runSerializedScript (·.runSerialized bytes tag)
  | none => Host.performStep .runScript (·.runScript script.text tag)

/-- Runs a script in the current context, then drains what it deferred, even if the run failed. -/
def runScript (script : Script) (bytecode : Option (List UInt8)) : SupervisedStep Unit := do
  let hook ← onHost Host.newHook
  onHost (Host.call .setContinuationCallback (·.setHook (some hook)))
  transition .running
  let tag ← onHost Host.nextSourceContext
  let (ran, signals) ← onHost (runCall script bytecode tag)
  noteFailure s!"{script.displayName}: " ran
  transition .draining
  let (drained, queue) ← drain hook (TaskQueue.empty.receive hook signals)
  noteFailure s!"{script.displayName}: draining stopped: " drained
  .change (changeHost fun h => noteUndrained queue (clearHook h))
  .ofExcept (firstFailure ran drained)

/-- Runs byte code in a runtime of its own. -/
def runInFreshRuntime (script : Script) (bytecode : List UInt8) : SupervisedStep Unit := do
  let s ← Step.state
  let active ← onHost (Host.openContext s.supervisor.mode.attributes)
  onHost (Host.debug
    s!"running serialized byte code in {active.runtime.runtime.render} / {active.scope.context.render}")
  let ran ← ((runScript script (some bytecode)).onFault (changeHost active.abandon)).attempt
  let closed ← onHost active.close.attempt
  .ofExcept (firstFailure ran closed)

/-- What a mode does once a context is entered. -/
def dispatch (script : Script) : SupervisedStep Unit := do
  let s ← Step.state
  let _ ← Step.ofExcept (script.fullPath s.host.files.workingDirectory)
  match s.supervisor.mode with
  | .source => runScript script none
  | .preSerialized path => do
    .ofExcept (script.checkUtf8 "Pre-serialized byte code")
    let bytecode ← onHost (Host.readBytecode path)
    runScript script (some bytecode)
  | .serialized => do
    .ofExcept (script.checkUtf8 "Serialized flag")
    transition .compiling
    let bytecode ← onHost (Host.serialize script.text)
    runInFreshRuntime script bytecode
  | .emitHeader output => do
    .ofExcept (script.checkUtf8 "GenerateLibraryByteCodeHeader flag")
    let symbol ← Step.ofExcept script.symbol
    transition .compiling
    onHost (Host.emitHeader script output symbol)
  | .emitBytecode output => do
    .ofExcept (script.checkUtf8 "Byte code emission")
    transition .compiling
    onHost (Host.emitBytecode script.text output)

/-- Takes a script through the mode, from runtime to teardown. -/
def execute (script : Script) : SupervisedStep Unit := do
  let s ← Step.state
  let runtime ← onHost (Host.createRuntime s.supervisor.mode.attributes)
  transition .runtimeReady
  let scope ← onHost (Host.enterNew runtime)
  transition .contextEntered
  let ran ←
    ((dispatch script).onFault (changeHost fun h => runtime.abandon (scope.abandon h))).attempt
  let exited ← onHost scope.exit.attempt
  let disposed ← onHost runtime.dispose.attempt
  .ofExcept (firstFailure (firstFailure ran exited) disposed)

/-- The result of a whole run; a supervisor that is not idle has an error and does nothing. -/
def result (script : Script) : Step Supervised Empty (Except HostError Unit) := fun s =>
  if s.supervisor.state = .idle then (execute script).attempt s
  else
    let message := s!"supervisor started from {s.supervisor.state.name}"
    (.ok (.error (.invariant message)), s)

def finish (script : Script) (outcome : Outcome) (s : Supervised) : Supervised :=
  let done := moved (.finished outcome.kind) s
  changeHost
    (·.say (.log .info s!"{script.displayName} finished: {outcome.kind.name}")) done

/-- Runs a script and records its outcome. Only a fault keeps it from returning one. -/
def run (script : Script) : Step Supervised Empty Outcome := do
  let outcome := Outcome.ofResult (← result script)
  .change (finish script outcome)
  return outcome

/-- Records a fault contained outside. -/
def recordFault (code : UInt32) (s : Supervised) : Outcome × Supervised :=
  (.fault code, moved .faulted s)

end Supervised
end ScriptHost

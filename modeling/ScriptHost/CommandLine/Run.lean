import ScriptHost.CommandLine.Help
import ScriptHost.CommandLine.Invocation
import ScriptHost.Config.Format

/- What a run of the host comes to, from its arguments, its environment, the files it
   finds and the system's answer when it asks for a thread: an exit status, lines on
   standard output and standard error, and the files afterwards. The engine lock is held
   while the script is loaded and run; the process is the only one that could hold it. A
   fault that ends the process leaves it held. -/
namespace ScriptHost

structure Report where
  status : Nat
  output : List String := []
  messages : List String := []
  files : FileSystem

/-- The exit status when a fault is not contained. -/
def statusPropagated : Nat := 101

/-- The line for a failure that is not an outcome of the script. -/
def HostError.line (e : HostError) : String :=
  match e with
  | .system _ reason => s!"ERROR: {e.message}: {reason.message}"
  | _ => s!"ERROR: {e.message}"

namespace Host

/-- The host with the diagnostic of an outcome, if it has one. -/
def reportOutcome (h : Host) (script : Path) (o : Outcome) : Host :=
  match o.diagnostic script.display with
  | some line => h.say (.plain line)
  | none => h

/-- Loads the script of a configuration and runs it on a worker while a guard is held:
    the exit status, and the host afterwards. -/
def runHolding (refusal : ThreadRefusal) (g : LockGuard) (c : Config) (h : Host) : Nat × Host :=
  match h.files.load c.script with
  | .error e =>
    let outcome := Outcome.hostError e.toHostError
    (exitStatus outcome.exitCode, (h.reportOutcome c.script outcome).note g.releasedLine)
  | .ok loaded =>
    let size := loaded.script.raw.length
    let h := h.note s!"loaded {c.script.display} ({size} bytes, {loaded.encoding.name})"
    match Worker.run refusal loaded.script c.mode c.worker h with
    | (.outcome o, h) => (exitStatus o.exitCode, (h.reportOutcome c.script o).note g.releasedLine)
    | (.failed e, h) => (exitStatus exitHostError, (h.note g.releasedLine).say (.plain e.line))
    | (.propagated _, h) => (statusPropagated, h.note g.releasedLine)
    | (.terminated code, h) => (exitStatus (signed32 code), h)

/-- Takes the engine lock and runs a configuration. -/
def runConfig (refusal : ThreadRefusal) (c : Config) (h : Host) : Nat × Host :=
  let h := (h.note s!"{hostName} version: {hostVersion}").note "Host: linux"
  match EngineLock.acquire {} c.lockName with
  | (.error e, _) => (exitStatus exitHostError, h.say (.plain e.line))
  | (.ok g, _) => runHolding refusal g c (h.note g.acquiredLine)

end Host

namespace Report

/-- A report of lines on standard output and nothing else. -/
def printing (lines : List String) (files : FileSystem) : Report :=
  { status := 0, output := lines, files }

/-- A report of one error line. -/
def failing (exitCode : Int) (line : String) (files : FileSystem) : Report :=
  { status := exitStatus exitCode, messages := [line], files }

def ofConfig (refusal : ThreadRefusal) (c : Config) (files : FileSystem) : Report :=
  let (status, h) := Host.runConfig refusal c { files }
  { status, output := h.engine.output, messages := h.messages.filterMap (·.shown? c.logLevel),
    files := h.files }

def ofPrintedConfig (c : Config) (files : FileSystem) : Report :=
  match c.toText? with
  | some text => printing [text] files
  | none =>
    failing exitHostError s!"ERROR: Failed to print configuration: {Config.unwritableMessage}" files

/-- The report for what is asked for, once it is resolved. -/
def ofResolved (o : Overrides) (env : Environment) (files : FileSystem)
    (act : Config → FileSystem → Report) : Report :=
  match Config.resolve o env with
  | .ok c => act c files
  | .error e => failing exitUsage s!"ERROR: {e.message}" files

end Report

def mistakeLine : String := s!"error: usage is {hostName} [OPTIONS] <FILE>; see '--help'"

def Invocation.perform (i : Invocation) (env : Environment) (refusal : ThreadRefusal)
    (files : FileSystem) : Report :=
  match i with
  | .help => .printing helpLines files
  | .version => .printing [versionLine] files
  | .mistake => .failing exitUsage mistakeLine files
  | .printConfig o => .ofResolved o env files .ofPrintedConfig
  | .run o => .ofResolved o env files (.ofConfig refusal)

end ScriptHost

import ScriptHost.CommandLine.Flag
import ScriptHost.Host.Worker
import ScriptHost.Lock

/- The configuration of one run. Each setting comes from the command line, else from
   the environment, else from its default; what is asked for is checked in a fixed
   order, and the first thing wrong is the one reported. -/
namespace ScriptHost

/-- What one run does, and how. -/
structure Config where
  script : Path
  mode : Mode := .source
  logLevel : LogLevel := .warn
  worker : WorkerOptions := {}
  lockName : String := defaultLockName
  deriving DecidableEq, Repr

structure Overrides where
  script : Path
  serialized : Bool := false
  bytecode : Option Path := none
  header : Option Path := none
  emitBytecode : Option Path := none
  verbose : Bool := false
  logLevel : Option LogLevel := none
  workerStackSize : Option Nat := none
  crashOnFault : Bool := false
  deriving DecidableEq, Repr

abbrev Environment := EnvironmentVariable → Option String

inductive Setting where
  | file
  | flag (flag : Flag)
  | environment (name : EnvironmentVariable)
  deriving DecidableEq, Repr

def Setting.name : Setting → String
  | file => "FILE"
  | flag f => f.name
  | environment v => v.name

inductive ConfigError where
  | conflictingModes (first second : Flag)
  | emptyPath (setting : Setting)
  | invalidValue (setting : Setting) (value : String)
  deriving DecidableEq, Repr

def ConfigError.message : ConfigError → String
  | conflictingModes first second => s!"{first.name} cannot be combined with {second.name}"
  | emptyPath setting => s!"{setting.name} requires a non-empty path"
  | invalidValue setting value => s!"invalid value '{value}' for {setting.name}"

def stackSizeBound : Nat := 0x10000000000000000

namespace Config

/-- The mode asked for by a flag with a path, if the flag is given. -/
def modeWithPath (flag : Flag) (mode : Path → Mode) :
    Option Path → Except ConfigError (List (Flag × Mode))
  | none => .ok []
  | some path =>
    if path.isEmpty then .error (.emptyPath (.flag flag)) else .ok [(flag, mode path)]

def modesAskedFor (o : Overrides) : Except ConfigError (List (Flag × Mode)) := do
  let serialized := if o.serialized then [(Flag.serialized, Mode.serialized)] else []
  let bytecode ← modeWithPath .bytecode .preSerialized o.bytecode
  let header ← modeWithPath .header .emitHeader o.header
  let emitBytecode ← modeWithPath .emitBytecode .emitBytecode o.emitBytecode
  return serialized ++ bytecode ++ header ++ emitBytecode

/-- The one mode among those asked for. -/
def selectMode : List (Flag × Mode) → Except ConfigError Mode
  | [] => .ok .source
  | [(_, mode)] => .ok mode
  | (first, _) :: (second, _) :: _ => .error (.conflictingModes first second)

def resolveLogLevel (o : Overrides) (env : Environment) : Except ConfigError LogLevel :=
  match o.logLevel with
  | some level => .ok level
  | none =>
    if o.verbose then .ok .debug
    else
      match env .log with
      | none => .ok .warn
      | some text =>
        match LogLevel.ofText? text with
        | some level => .ok level
        | none => .error (.invalidValue (.environment .log) text)

/-- A stack size read from a text, with blanks around it. -/
def stackSize? (text : String) : Option Nat :=
  (Text.unsigned? 10 stackSizeBound (Text.trim text).toList).filter (0 < ·)

def resolveStackSize (o : Overrides) (env : Environment) : Except ConfigError Nat :=
  match o.workerStackSize with
  | some size =>
    if size = 0 then .error (.invalidValue (.flag .workerStackSize) "0") else .ok size
  | none =>
    match env .workerStack with
    | none => .ok defaultStackSize
    | some text =>
      match stackSize? text with
      | some size => .ok size
      | none => .error (.invalidValue (.environment .workerStack) text)

def resolve (o : Overrides) (env : Environment) : Except ConfigError Config := do
  if o.script.isEmpty then throw (.emptyPath .file)
  let mode ← selectMode (← modesAskedFor o)
  let logLevel ← resolveLogLevel o env
  let stackSize ← resolveStackSize o env
  let faultPolicy := if o.crashOnFault then FaultPolicy.propagate else .terminate
  return { script := o.script, mode, logLevel, worker := { stackSize, faultPolicy } }

end Config
end ScriptHost

import ScriptHost.Config.Basic
import ScriptHost.Json.Double
import ScriptHost.Json.Field
import ScriptHost.Json.Parser
import ScriptHost.Json.Printer

/- Configurations as JSON. Only a path in UTF-8 has a written form. Reading is more
   liberal than writing: fields may come in any order, those with a default may be
   left out, fields of other names are passed over, and an object may be given as the
   array of its values. A mode is read as a whole before its kind is known, so every
   string and every number in it must be good, and its height is limited. -/
namespace ScriptHost

def Path.text? (p : Path) : Option String := Text.ofUtf8? p.bytes

def Path.ofJson? (v : JsonValue) : Option Path := v.text?.map Path.ofText

def LogLevel.ofName? : String → Option LogLevel
  | "debug" => some debug
  | "info" => some info
  | "warn" => some warn
  | "error" => some error
  | _ => none

def FaultPolicy.ofName? : String → Option FaultPolicy
  | "terminate" => some terminate
  | "report" => some report
  | "propagate" => some propagate
  | _ => none

namespace Mode

/-- The field that holds a mode's path, and the path. -/
def pathField? : Mode → Option (String × Path)
  | preSerialized bytecode => some ("bytecode", bytecode)
  | emitHeader output => some ("output", output)
  | emitBytecode output => some ("output", output)
  | _ => none

/-- A mode as an object: its kind and its path, if it has one. -/
def toJson? (mode : Mode) : Option JsonValue :=
  let kind := ("kind", JsonValue.ofString mode.name)
  match mode.pathField? with
  | none => some (.ofFields [kind])
  | some (name, path) => path.text?.map fun text => .ofFields [kind, (name, .ofString text)]

/-- What a kind needs: nothing, or a path in a field of some name. -/
inductive Shape where
  | plain (mode : Mode)
  | withPath (field : String) (mode : Path → Mode)

def shape? : String → Option Shape
  | "source" => some (.plain source)
  | "serialized" => some (.plain serialized)
  | "pre-serialized" => some (.withPath "bytecode" preSerialized)
  | "emit-header" => some (.withPath "output" emitHeader)
  | "emit-bytecode" => some (.withPath "output" emitBytecode)
  | _ => none

/-- The mode an object describes. -/
def ofFields? (fields : List (Option String × JsonValue)) : Option Mode := do
  match ← shape? (← (JsonValue.field fields "kind").required JsonValue.text?) with
  | .plain mode => some mode
  | .withPath name mode => ((JsonValue.field fields name).required Path.ofJson?).map mode

/-- The mode an array describes: its kind and then its path, if it needs one, and nothing else. -/
def ofItems? (items : List JsonValue) : Option Mode := do
  match ← shape? (← (JsonValue.Field.at items 0).required JsonValue.text?), items.drop 1 with
  | .plain mode, [] => some mode
  | .withPath _ mode, [path] => (Path.ofJson? path).map mode
  | _, _ => none

/-- Reads a mode no higher than a limit. -/
def ofJson? (limit : Nat) (v : JsonValue) : Option Mode :=
  if limit < v.height || !v.isUsable JsonNumber.isFinite then none
  else
    match v with
    | .object fields => ofFields? fields
    | .array items => ofItems? items
    | _ => none

/-- The greatest height of a mode that stands alone. -/
def heightLimit : Nat := 127

def ofText? (text : String) : Option Mode :=
  (JsonValue.parse? text).bind (ofJson? heightLimit)

end Mode

namespace WorkerOptions

def toJson (o : WorkerOptions) : JsonValue :=
  .ofFields [("stack_size", .ofNat o.stackSize), ("fault_policy", .ofString o.faultPolicy.name)]

def ofFieldPair? (stackSize faultPolicy : JsonValue.Field) : Option WorkerOptions := do
  let stackSize ← stackSize.required (·.nat? stackSizeBound)
  let faultPolicy ← faultPolicy.required fun v => v.word?.bind FaultPolicy.ofName?
  return { stackSize, faultPolicy }

def ofJson? : JsonValue → Option WorkerOptions
  | .object fields =>
    if fields.all (·.1.isSome) then
      ofFieldPair? (JsonValue.field fields "stack_size") (JsonValue.field fields "fault_policy")
    else none
  | .array [stackSize, faultPolicy] => ofFieldPair? (.once stackSize) (.once faultPolicy)
  | _ => none

end WorkerOptions

namespace Config

def toJson? (c : Config) : Option JsonValue := do
  let script ← c.script.text?
  let mode ← c.mode.toJson?
  return .ofFields [("script", .ofString script), ("mode", mode),
    ("log_level", .ofString c.logLevel.name), ("worker", c.worker.toJson),
    ("lock_name", .ofString c.lockName)]

/-- The written form of a configuration. -/
def toText? (c : Config) : Option String := c.toJson?.map (·.pretty)

/-- The complaint about a configuration that has no written form. -/
def unwritableMessage : String := "path contains invalid UTF-8 characters"

/-- A configuration from its fields, which are asked for by name and place. -/
def ofFieldsAt? (field : String → Nat → JsonValue.Field) : Option Config := do
  let script ← (field "script" 0).required Path.ofJson?
  let mode ← (field "mode" 1).withDefault .source (Mode.ofJson? (Mode.heightLimit - 1))
  let logLevel ← (field "log_level" 2).withDefault .warn fun v => v.word?.bind LogLevel.ofName?
  let worker ← (field "worker" 3).withDefault {} WorkerOptions.ofJson?
  let lockName ← (field "lock_name" 4).withDefault defaultLockName JsonValue.text?
  return { script, mode, logLevel, worker, lockName }

def ofJson? : JsonValue → Option Config
  | .object fields =>
    if fields.all (·.1.isSome) then ofFieldsAt? fun name _ => JsonValue.field fields name else none
  | .array items =>
    if items.length ≤ 5 then ofFieldsAt? fun _ place => .at items place else none
  | _ => none

def ofText? (text : String) : Option Config :=
  (JsonValue.parse? text).bind ofJson?

end Config
end ScriptHost

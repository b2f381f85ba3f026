import ScriptHost.Engine.Basic
import ScriptHost.Files.Path

/- What is done with a script: run from source, run from byte code read from a file,
   serialized and run in a fresh runtime, or serialized into a file and not run. -/
namespace ScriptHost

/-- The way one script is handled. -/
inductive Mode where
  | source
  | preSerialized (bytecode : Path)
  | serialized
  | emitHeader (output : Path)
  | emitBytecode (output : Path)
  deriving DecidableEq, Repr

namespace Mode

/-- The features of the runtimes created in a mode. -/
def attributes : Mode → Attributes
  | emitHeader _ => Attributes.allowScriptInterrupt.union .serializeLibraryBytecode
  | _ => .allowScriptInterrupt

def name : Mode → String
  | source => "source"
  | preSerialized _ => "pre-serialized"
  | serialized => "serialized"
  | emitHeader _ => "emit-header"
  | emitBytecode _ => "emit-bytecode"

end Mode
end ScriptHost

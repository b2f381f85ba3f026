/- The flags of the command line and the variables of the environment, by name. -/
namespace ScriptHost

inductive Flag where
  | serialized
  | bytecode
  | header
  | emitBytecode
  | verbose
  | logLevel
  | workerStackSize
  | crashOnFault
  | printConfig
  | help
  | version
  deriving DecidableEq, Repr

namespace Flag

def all : List Flag :=
  [serialized, bytecode, header, emitBytecode, verbose, logLevel, workerStackSize, crashOnFault,
    printConfig, help, version]

def name : Flag → String
  | serialized => "--serialized"
  | bytecode => "--bytecode"
  | header => "--generate-library-bytecode-header"
  | emitBytecode => "--emit-bytecode"
  | verbose => "--verbose"
  | logLevel => "--log-level"
  | workerStackSize => "--worker-stack-size"
  | crashOnFault => "--crash-on-fault"
  | printConfig => "--print-config"
  | help => "--help"
  | version => "--version"

/-- The letter a flag may be written with instead of its name. -/
def letter? : Flag → Option Char
  | verbose => some 'v'
  | help => some 'h'
  | version => some 'V'
  | _ => none

def takesValue : Flag → Bool
  | bytecode => true
  | header => true
  | emitBytecode => true
  | logLevel => true
  | workerStackSize => true
  | _ => false

end Flag

inductive EnvironmentVariable where
  | log
  | workerStack
  deriving DecidableEq, Repr

def EnvironmentVariable.name : EnvironmentVariable → String
  | log => "SCRIPTHOST_LOG"
  | workerStack => "SCRIPTHOST_WORKER_STACK"

end ScriptHost

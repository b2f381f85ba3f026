import ScriptHost.Text.Numeral

/- Error codes of the engine. The high half of a code is its category: 1 for
   misuse, 2 for the engine, 3 for the script, 4 for fatal errors. A code with no
   name of its own is kept as it is. -/
namespace ScriptHost

inductive ErrorCode where
  | noError
  | invalidArgument
  | nullArgument
  | noCurrentContext
  | inExceptionState
  | notImplemented
  | wrongThread
  | runtimeInUse
  | badSerializedScript
  | inDisabledState
  | cannotDisableExecution
  | heapEnumInProgress
  | outOfMemory
  | scriptException
  | scriptCompile
  | scriptTerminated
  | fatal
  | unknown (code : UInt32)
  deriving DecidableEq, Repr

namespace ErrorCode

def named : List ErrorCode :=
  [noError, invalidArgument, nullArgument, noCurrentContext, inExceptionState, notImplemented,
    wrongThread, runtimeInUse, badSerializedScript, inDisabledState, cannotDisableExecution,
    heapEnumInProgress, outOfMemory, scriptException, scriptCompile, scriptTerminated, fatal]

def number : ErrorCode → UInt32
  | noError => 0
  | invalidArgument => 0x10001
  | nullArgument => 0x10002
  | noCurrentContext => 0x10003
  | inExceptionState => 0x10004
  | notImplemented => 0x10005
  | wrongThread => 0x10006
  | runtimeInUse => 0x10007
  | badSerializedScript => 0x10008
  | inDisabledState => 0x10009
  | cannotDisableExecution => 0x1000A
  | heapEnumInProgress => 0x1000B
  | outOfMemory => 0x20001
  | scriptException => 0x30001
  | scriptCompile => 0x30002
  | scriptTerminated => 0x30003
  | fatal => 0x40001
  | unknown code => code

/-- The code with a number: the named one if there is one. -/
def ofNumber (n : UInt32) : ErrorCode :=
  (named.find? (·.number == n)).getD (unknown n)

def name : ErrorCode → String
  | noError => "JsNoError"
  | invalidArgument => "JsErrorInvalidArgument"
  | nullArgument => "JsErrorNullArgument"
  | noCurrentContext => "JsErrorNoCurrentContext"
  | inExceptionState => "JsErrorInExceptionState"
  | notImplemented => "JsErrorNotImplemented"
  | wrongThread => "JsErrorWrongThread"
  | runtimeInUse => "JsErrorRuntimeInUse"
  | badSerializedScript => "JsErrorBadSerializedScript"
  | inDisabledState => "JsErrorInDisabledState"
  | cannotDisableExecution => "JsErrorCannotDisableExecution"
  | heapEnumInProgress => "JsErrorHeapEnumInProgress"
  | outOfMemory => "JsErrorOutOfMemory"
  | scriptException => "JsErrorScriptException"
  | scriptCompile => "JsErrorScriptCompile"
  | scriptTerminated => "JsErrorScriptTerminated"
  | fatal => "JsErrorFatal"
  | unknown _ => "<unknown>"

/-- Whether the script itself raised the error, rather than a misuse of the engine. -/
def isScriptError (e : ErrorCode) : Bool :=
  e.number.toNat / 0x10000 = 3

/-- Number and name, as diagnostics show them. -/
def render (e : ErrorCode) : String :=
  "0x" ++ Text.hex e.number.toNat ++ " (" ++ e.name ++ ")"

end ErrorCode
end ScriptHost

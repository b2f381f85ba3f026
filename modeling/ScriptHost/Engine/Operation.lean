/- The engine's operations, for diagnostics and for failures asked for in advance. -/
namespace ScriptHost

inductive Operation where
  | createRuntime
  | disposeRuntime
  | createContext
  | getCurrentContext
  | setCurrentContext
  | serializeScript
  | runScript
  | runSerializedScript
  | setContinuationCallback
  | callTask
  deriving DecidableEq, Repr

def Operation.name : Operation → String
  | createRuntime => "JsCreateRuntime"
  | disposeRuntime => "JsDisposeRuntime"
  | createContext => "JsCreateContext"
  | getCurrentContext => "JsGetCurrentContext"
  | setCurrentContext => "JsSetCurrentContext"
  | serializeScript => "JsSerializeScript"
  | runScript => "JsRunScript"
  | runSerializedScript => "JsRunSerializedScript"
  | setContinuationCallback => "JsSetPromiseContinuationCallback"
  | callTask => "JsCallFunction"

end ScriptHost

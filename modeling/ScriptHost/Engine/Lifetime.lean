import ScriptHost.Engine.Basic

/- Runtimes, contexts, the current context and its hook. Each call fails at once
   with the code injected for its operation, if there is one, and a call that
   fails changes nothing. -/
namespace ScriptHost.Engine

/-- A call that fails with its injected code, or goes on. -/
@[macro_inline]
def unlessInjected {α : Type} (e : Engine) (op : Operation)
    (call : Except ErrorCode α × Engine) : Except ErrorCode α × Engine :=
  match e.injected op with
  | some code => (.error code, e)
  | none => call

def createRuntime (e : Engine) (attributes : Attributes) : Except ErrorCode RuntimeId × Engine :=
  e.unlessInjected .createRuntime <|
    let id : RuntimeId := ⟨e.issued + 1⟩
    (.ok id, { e with
      issued := e.issued + 1
      runtimes := e.runtimes.insert id attributes
      journal := e.journal ++ [.createRuntime id attributes] })

def currentIsOf (e : Engine) (runtime : RuntimeId) : Bool :=
  match e.currentContext? with
  | some (_, context) => context.runtime = runtime
  | none => false

/-- Disposes a runtime together with its contexts, unless one of them is current. -/
def disposeRuntime (e : Engine) (runtime : RuntimeId) : Except ErrorCode Unit × Engine :=
  e.unlessInjected .disposeRuntime <|
    if !e.runtimes.has runtime then (.error .invalidArgument, e)
    else if e.currentIsOf runtime then (.error .runtimeInUse, e)
    else (.ok (), { e with
      runtimes := e.runtimes.erase runtime
      contexts := e.contexts.filter fun _ context => context.runtime ≠ runtime
      journal := e.journal ++ [.disposeRuntime runtime] })

def createContext (e : Engine) (runtime : RuntimeId) : Except ErrorCode ContextId × Engine :=
  e.unlessInjected .createContext <|
    if !e.runtimes.has runtime then (.error .invalidArgument, e)
    else
      let id : ContextId := ⟨e.issued + 1⟩
      (.ok id, { e with
        issued := e.issued + 1
        contexts := e.contexts.insert id { runtime := runtime }
        journal := e.journal ++ [.createContext id] })

def getCurrentContext (e : Engine) : Except ErrorCode (Option ContextId) × Engine :=
  e.unlessInjected .getCurrentContext (.ok e.current, e)

/-- Makes a context current, or none. -/
def setCurrentContext (e : Engine) (context : Option ContextId) :
    Except ErrorCode Unit × Engine :=
  e.unlessInjected .setCurrentContext <|
    if context.any (fun id => !e.contexts.has id) then (.error .invalidArgument, e)
    else (.ok (), { e with
      current := context
      journal := e.journal ++ [.setCurrentContext context] })

/-- Installs a hook on the current context, or removes the one installed. -/
def setHook (e : Engine) (hook : Option Hook) : Except ErrorCode Unit × Engine :=
  e.unlessInjected .setContinuationCallback <|
    match e.currentContext? with
    | none => (.error .noCurrentContext, e)
    | some (id, context) =>
      (.ok (), { e with contexts := e.contexts.insert id { context with hook := hook } })

theorem unlessInjected_of_none {α : Type} {e : Engine} {op : Operation}
    (call : Except ErrorCode α × Engine) (h : e.injected op = none) :
    e.unlessInjected op call = call := by
  simp [unlessInjected, h]

theorem createRuntime_error {e e' : Engine} {a : Attributes} {code : ErrorCode}
    (h : e.createRuntime a = (.error code, e')) : e' = e := by
  unfold createRuntime unlessInjected at h
  split at h <;> simp_all

end ScriptHost.Engine

import ScriptHost.Host.Basic

/- Guards. A runtime guard owns a runtime; a context scope owns a context made
   current and remembers what was current before. A guard is ended once, in one of
   three ways: asked for, when the engine's answer is returned; dropped, when a
   failure is only noted; or passed by a fault, when the engine is left alone. A
   scope is always ended before the runtime it belongs to. -/
namespace ScriptHost

/-- Ownership of a runtime. -/
structure RuntimeGuard where
  runtime : RuntimeId
  deriving DecidableEq, Repr

/-- A context made current, and the one that was current before. -/
structure ContextScope where
  context : ContextId
  previous : Option ContextId
  deriving DecidableEq, Repr

structure ActiveContext where
  scope : ContextScope
  runtime : RuntimeGuard
  deriving DecidableEq, Repr

namespace RuntimeGuard

def dispose (g : RuntimeGuard) : HostStep Unit := do
  Host.debug s!"disposing {g.runtime.render}"
  Host.call .disposeRuntime (·.disposeRuntime g.runtime)

/-- Disposes the runtime without asking how it went. -/
def drop (g : RuntimeGuard) (h : Host) : Host :=
  let (answer, engine) := h.engine.disposeRuntime g.runtime
  let h' := { h with engine := engine }
  match answer with
  | .ok () => h'
  | .error code =>
    h'.note s!"{Operation.disposeRuntime.name} failed for {g.runtime.render}. JsErrorCode={code.render}"

def abandon (g : RuntimeGuard) (h : Host) : Host :=
  h.note s!"leaving {g.runtime.render} undisposed while unwinding"

def debug (g : RuntimeGuard) : String :=
  s!"RuntimeGuard \x7b handle: RuntimeHandle({g.runtime.value}), disposed: false \x7d"

end RuntimeGuard

namespace ContextScope

/-- Restores the context that was current before. -/
def exit (g : ContextScope) : HostStep Unit := do
  Host.debug s!"leaving {g.context.render}, restoring {ContextId.debugOption g.previous}"
  Host.call .setCurrentContext (·.setCurrentContext g.previous)

/-- Restores the context that was current before without asking how it went. -/
def drop (g : ContextScope) (h : Host) : Host :=
  let (answer, engine) := h.engine.setCurrentContext g.previous
  let h' := { h with engine := engine }
  match answer with
  | .ok () => h'
  | .error code =>
    let previous := ContextId.debugOption g.previous
    h'.note s!"{Operation.setCurrentContext.name} failed restoring {previous}. JsErrorCode={code.render}"

/-- Leaves the context current as a fault passes. -/
def abandon (g : ContextScope) (h : Host) : Host :=
  h.note s!"leaving {g.context.render} current while unwinding"

def debug (g : ContextScope) : String :=
  let previous := ContextId.debugOption g.previous
  s!"ContextScope \x7b context: ContextRef({g.context.value}), previous: {previous}, active: true \x7d"

end ContextScope

namespace ActiveContext

/-- Ends the scope, then the runtime. Both are done, and the first failure is returned. -/
def close (g : ActiveContext) : HostStep Unit := do
  let exited ← g.scope.exit.attempt
  let disposed ← g.runtime.dispose.attempt
  .ofExcept (firstFailure exited disposed)

/-- Drops the scope, then the runtime. -/
def drop (g : ActiveContext) (h : Host) : Host :=
  g.runtime.drop (g.scope.drop h)

def abandon (g : ActiveContext) (h : Host) : Host :=
  g.runtime.abandon (g.scope.abandon h)

def debug (g : ActiveContext) : String :=
  s!"ActiveContext \x7b scope: {g.scope.debug}, runtime: {g.runtime.debug} \x7d"

end ActiveContext

namespace Host

def createRuntime (attributes : Attributes) : HostStep RuntimeGuard := do
  let runtime ← Host.call .createRuntime (·.createRuntime attributes)
  Host.debug s!"created {runtime.render} with attributes 0x{Text.hex attributes.bits.toNat}"
  return ⟨runtime⟩

def createContext (g : RuntimeGuard) : HostStep ContextId :=
  Host.call .createContext (·.createContext g.runtime)

def enter (context : ContextId) : HostStep ContextScope := do
  let previous ← Host.call .getCurrentContext (·.getCurrentContext)
  Host.call .setCurrentContext (·.setCurrentContext (some context))
  Host.debug s!"entered {context.render}, previous {ContextId.debugOption previous}"
  return ⟨context, previous⟩

/-- Creates a context in a guarded runtime and enters it; if either fails, the guard is dropped. -/
def enterNew (g : RuntimeGuard) : HostStep ContextScope :=
  Step.onError (createContext g >>= enter) g.drop

/-- Creates a runtime and a context in it, and enters the context. -/
def openContext (attributes : Attributes) : HostStep ActiveContext := do
  let runtime ← createRuntime attributes
  let scope ← enterNew runtime
  return ⟨scope, runtime⟩

end Host

end ScriptHost

import ScriptHost.Ending
import ScriptHost.Engine.ErrorCode
import ScriptHost.Engine.Operation
import ScriptHost.Script.Exception
import ScriptHost.Script.Statement
import ScriptHost.Table

/- The state of a scripting engine. Runtimes own contexts; at most one context is
   current, and scripts run in it. A context holds the tasks its scripts have
   deferred and, while one is installed, the hook that is told of each new task.
   One counter numbers runtimes, contexts and tasks. The journal keeps the calls
   that changed something, in order. -/
namespace ScriptHost

structure RuntimeId where
  value : Nat
  deriving DecidableEq, Repr

structure ContextId where
  value : Nat
  deriving DecidableEq, Repr

structure TaskId where
  value : Nat
  deriving DecidableEq, Repr

/-- The continuation hook of one task queue. -/
structure Hook where
  value : Nat
  deriving DecidableEq, Repr

/-- The tag a script run carries, for the engine to tell runs apart. -/
structure SourceContext where
  value : Nat
  deriving DecidableEq, Repr

def RuntimeId.render (r : RuntimeId) : String := "Runtime(" ++ toString r.value ++ ")"

def ContextId.render (c : ContextId) : String := "Context(" ++ toString c.value ++ ")"

def ContextId.debugOption : Option ContextId → String
  | some c => "Some(ContextRef(" ++ toString c.value ++ "))"
  | none => "None"

/-- Feature bits of a runtime. -/
structure Attributes where
  bits : UInt32
  deriving DecidableEq, Repr

namespace Attributes

def none : Attributes := ⟨0⟩

/-- A running script may be interrupted from outside. -/
def allowScriptInterrupt : Attributes := ⟨0x8⟩

/-- Library code is serialized too. -/
def serializeLibraryBytecode : Attributes := ⟨0x100⟩

def union (a b : Attributes) : Attributes := ⟨a.bits ||| b.bits⟩

/-- Whether every feature of `b` is in `a`. -/
def contains (a b : Attributes) : Bool := a.bits &&& b.bits == b.bits

end Attributes

/-- A statement deferred to later, with the line it came from. -/
structure PendingTask where
  line : UInt32
  statement : Statement
  deriving DecidableEq, Repr

/-- A context: its runtime, the hook installed on it, and the tasks not yet called. -/
structure Context where
  runtime : RuntimeId
  hook : Option Hook := none
  tasks : Table TaskId PendingTask := {}

structure Signal where
  hook : Hook
  task : TaskId
  deriving DecidableEq, Repr

/-- How the serializer reports sizes: truthfully, as zero when asked for the
    size, or one byte short when it fills a buffer. -/
inductive SizeReport where
  | exact
  | zeroLength
  | shortFill
  deriving DecidableEq, Repr

/-- A call that changed the engine or began a run. -/
inductive JournalEntry where
  | createRuntime (runtime : RuntimeId) (attributes : Attributes)
  | disposeRuntime (runtime : RuntimeId)
  | createContext (context : ContextId)
  | setCurrentContext (context : Option ContextId)
  | runScript (source : SourceContext)
  | runSerializedScript (source : SourceContext)
  deriving DecidableEq, Repr

/-- An entry as a line of text. -/
def JournalEntry.render : JournalEntry → String
  | createRuntime r a =>
    "create_runtime(" ++ toString r.value ++ ", 0x" ++ Text.hex a.bits.toNat ++ ")"
  | disposeRuntime r => "dispose_runtime(" ++ toString r.value ++ ")"
  | createContext c => "create_context(" ++ toString c.value ++ ")"
  | setCurrentContext (some c) => "set_current_context(" ++ toString c.value ++ ")"
  | setCurrentContext none => "set_current_context(none)"
  | runScript s => "run_script(" ++ toString s.value ++ ")"
  | runSerializedScript s => "run_serialized_script(" ++ toString s.value ++ ")"

/-- The state of an engine. `issued` numbers have been handed out so far. -/
structure Engine where
  issued : Nat := 0
  runtimes : Table RuntimeId Attributes := {}
  contexts : Table ContextId Context := {}
  current : Option ContextId := none
  exception : Option ScriptException := none
  journal : List JournalEntry := []
  output : List String := []
  injected : Operation → Option ErrorCode := fun _ => none
  sizes : SizeReport := .exact

namespace Engine

def initial : Engine := {}

def currentContext? (e : Engine) : Option (ContextId × Context) :=
  match e.current with
  | none => none
  | some id => (e.contexts.get? id).map (id, ·)

def liveRuntimes (e : Engine) : Nat := e.runtimes.size

/-- The features a live runtime was created with. -/
def attributesOf? (e : Engine) (r : RuntimeId) : Option Attributes := e.runtimes.get? r

def record (e : Engine) (entry : JournalEntry) : Engine :=
  { e with journal := e.journal ++ [entry] }

/-- Makes every later call of an operation fail with a code. -/
def injectFailure (e : Engine) (op : Operation) (code : ErrorCode) : Engine :=
  { e with injected := fun o => if o = op then some code else e.injected o }

/-- Changes how the serializer reports sizes. -/
def setSizes (e : Engine) (sizes : SizeReport) : Engine :=
  { e with sizes := sizes }

/-- The pending exception, which is pending no longer. -/
def takeException (e : Engine) : Option ScriptException × Engine :=
  (e.exception, { e with exception := none })

/-- The number of further tasks that the pending tasks can still schedule. -/
def reserve (e : Engine) : Nat :=
  e.contexts.sum fun c => c.tasks.sum fun t => t.statement.depth

/-- The debug form: how many runtimes and contexts there are, and which context is current. -/
def debug (e : Engine) : String :=
  "ReferenceEngine \x7b runtimes: " ++ toString e.runtimes.size ++ ", contexts: " ++
    toString e.contexts.size ++ ", current: " ++ ContextId.debugOption e.current ++ " \x7d"

end Engine
end ScriptHost

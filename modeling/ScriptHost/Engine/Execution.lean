import ScriptHost.Bytecode.Codec
import ScriptHost.Engine.Basic
import ScriptHost.Script.Parser

/- Calls that compile or execute. An execution ends with its effects in place: what
   was printed stays printed and what was deferred stays pending, whether it ended
   well, with an error or with a fault. The hooks it called are returned in order,
   for the caller to deliver. While an exception is pending nothing executes. -/
namespace ScriptHost

structure Execution where
  ending : Ending ErrorCode Unit
  engine : Engine
  signals : List Signal := []

namespace Execution

/-- Goes on with the engine left behind, unless the execution has failed or faulted. -/
def andThen (x : Execution) (next : Engine → Execution) : Execution :=
  match x.ending with
  | .ok () =>
    let y := next x.engine
    { y with signals := x.signals ++ y.signals }
  | .error _ => x
  | .fault _ => x

end Execution

namespace Engine

/-- Defers a statement: a new task of the current context, told to its hook. -/
def schedule (e : Engine) (line : UInt32) (statement : Statement) : Execution :=
  let task : TaskId := ⟨e.issued + 1⟩
  match e.currentContext? with
  | none => ⟨.error .noCurrentContext, { e with issued := e.issued + 1 }, []⟩
  | some (id, context) =>
    let context' := { context with tasks := context.tasks.insert task ⟨line, statement⟩ }
    ⟨.ok (), { e with issued := e.issued + 1, contexts := e.contexts.insert id context' },
      context.hook.toList.map (⟨·, task⟩)⟩

/-- Executes one statement of a line. -/
def execute (e : Engine) (line : UInt32) : Statement → Execution
  | .act _ (.print text) => ⟨.ok (), { e with output := e.output ++ [text] }, []⟩
  | .act column (.throw message) =>
    ⟨.error .scriptException,
      { e with exception := some (ScriptException.located ⟨message, none, none⟩ line column) }, []⟩
  | .act _ (.fault code) => ⟨.fault (.structured code), e, []⟩
  | .defer _ inner => e.schedule line inner

/-- Executes instructions in order, up to the first that fails or faults. -/
def executeAll (e : Engine) : Program → Execution
  | [] => ⟨.ok (), e, []⟩
  | i :: rest => (e.execute i.line i.statement).andThen fun e' => e'.executeAll rest

/-- Executes a program, unless an exception is pending. -/
def executeProgram (e : Engine) (p : Program) : Execution :=
  if e.exception.isSome then ⟨.error .inExceptionState, e, []⟩ else e.executeAll p

/-- Compiles a source. A compile error becomes the pending exception. -/
def compile (e : Engine) (source : String) : Except ErrorCode Program × Engine :=
  match Program.parse source with
  | .ok p => (.ok p, e)
  | .error err => (.error .scriptCompile, { e with exception := some err.toException })

/-- Fails with the injected code or for want of a current context; otherwise goes on. -/
@[macro_inline]
def whenCurrent {α : Type} (e : Engine) (op : Operation)
    (fail : ErrorCode → α) (call : α) : α :=
  match e.injected op with
  | some code => fail code
  | none => if e.currentContext?.isNone then fail .noCurrentContext else call

def serializedSize (e : Engine) (source : String) : Except ErrorCode Nat × Engine :=
  e.whenCurrent .serializeScript (fun code => (.error code, e)) <|
    match e.compile source with
    | (.error code, e') => (.error code, e')
    | (.ok p, e') =>
      (.ok (if e.sizes = .zeroLength then 0 else (Bytecode.encode p).length), e')

/-- Writes a source's byte code to the front of a buffer: how many bytes it says it wrote, and
    the buffer. -/
def serializeInto (e : Engine) (source : String) (buffer : List UInt8) :
    Except ErrorCode Nat × List UInt8 × Engine :=
  e.whenCurrent .serializeScript (fun code => (.error code, buffer, e)) <|
    match e.compile source with
    | (.error code, e') => (.error code, buffer, e')
    | (.ok p, e') =>
      let encoded := Bytecode.encode p
      if buffer.length < encoded.length then (.error .invalidArgument, buffer, e')
      else
        (.ok (if e.sizes = .shortFill then encoded.length - 1 else encoded.length),
          encoded ++ buffer.drop encoded.length, e')

/-- Compiles and runs a source in the current context. -/
def runScript (e : Engine) (source : String) (tag : SourceContext) : Execution :=
  e.whenCurrent .runScript (fun code => ⟨.error code, e, []⟩) <|
    match (e.record (.runScript tag)).compile source with
    | (.error code, e') => ⟨.error code, e', []⟩
    | (.ok p, e') => e'.executeProgram p

/-- Runs byte code in the current context. -/
def runSerialized (e : Engine) (bytecode : List UInt8) (tag : SourceContext) : Execution :=
  e.whenCurrent .runSerializedScript (fun code => ⟨.error code, e, []⟩) <|
    let e' := e.record (.runSerializedScript tag)
    match Bytecode.decode bytecode with
    | none => ⟨.error .badSerializedScript, e', []⟩
    | some p => e'.executeProgram p

/-- Calls a pending task of the current context; the task is pending no longer. -/
def callTask (e : Engine) (task : TaskId) : Execution :=
  match e.injected .callTask with
  | some code => ⟨.error code, e, []⟩
  | none =>
    if e.exception.isSome then ⟨.error .inExceptionState, e, []⟩
    else
      match e.currentContext? with
      | none => ⟨.error .noCurrentContext, e, []⟩
      | some (id, context) =>
        match context.tasks.get? task with
        | none => ⟨.error .invalidArgument, e, []⟩
        | some pending =>
          let context' := { context with tasks := context.tasks.erase task }
          let e' := { e with contexts := e.contexts.insert id context' }
          e'.execute pending.line pending.statement

end Engine
end ScriptHost

/- What a script can go wrong with: an exception with the position the engine
   reports for it, and the causes for which a source does not compile. -/
namespace ScriptHost

/-- An exception raised by a script, with its 1-based line and column where known. -/
structure ScriptException where
  message : String
  line : Option UInt32 := none
  column : Option UInt32 := none
  deriving DecidableEq, Repr

namespace ScriptException

def located (e : ScriptException) (line column : UInt32) : ScriptException :=
  { e with line := some line, column := some column }

/-- The text that follows a script's name in a diagnostic. A column is shown only after a line. -/
def render (e : ScriptException) : String :=
  match e.line, e.column with
  | some line, some column => "(" ++ toString line ++ ", " ++ toString column ++ "): " ++ e.message
  | some line, none => "(" ++ toString line ++ "): " ++ e.message
  | none, _ => ": " ++ e.message

end ScriptException

inductive CompileCause where
  | emptyDefer
  | tooDeep (limit : Nat)
  | badFaultCode (argument : String)
  | unknownStatement (keyword : String)
  deriving DecidableEq, Repr

def CompileCause.message : CompileCause → String
  | emptyDefer => "defer needs a statement"
  | tooDeep limit => "defer nested deeper than " ++ toString limit
  | badFaultCode argument => "invalid fault code '" ++ argument ++ "'"
  | unknownStatement keyword => "unknown statement '" ++ keyword ++ "'"

structure CompileError where
  line : UInt32
  column : UInt32
  cause : CompileCause
  deriving DecidableEq, Repr

/-- The exception a compile error leaves pending. -/
def CompileError.toException (e : CompileError) : ScriptException :=
  ScriptException.located ⟨e.cause.message, none, none⟩ e.line e.column

end ScriptHost

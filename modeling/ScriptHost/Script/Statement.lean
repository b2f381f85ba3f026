/- The script language. A program is a list of instructions, one for each line
   that holds a statement. A statement is an action behind any number of `defer`s;
   it remembers the column of each keyword, for errors raised when it runs. -/
namespace ScriptHost

/-- What a statement does once no `defer` stands before it. -/
inductive Action where
  | print (text : String)
  | throw (message : String)
  | fault (code : UInt32)
  deriving DecidableEq, Repr

/-- A statement, with the 1-based byte column of each keyword. -/
inductive Statement where
  | act (column : UInt32) (action : Action)
  | defer (column : UInt32) (inner : Statement)
  deriving DecidableEq, Repr

namespace Statement

def column : Statement → UInt32
  | act column _ => column
  | defer column _ => column

/-- The number of `defer`s in front of the action. -/
def depth : Statement → Nat
  | act _ _ => 0
  | defer _ inner => inner.depth + 1

def action : Statement → Action
  | act _ action => action
  | defer _ inner => inner.action

/-- The column of the action's own keyword. -/
def actionColumn : Statement → UInt32
  | act column _ => column
  | defer _ inner => inner.actionColumn

@[simp] theorem depth_defer (column : UInt32) (inner : Statement) :
    (defer column inner).depth = inner.depth + 1 := rfl

end Statement

/-- A statement and the 1-based number of its line. -/
structure Instruction where
  line : UInt32
  statement : Statement
  deriving DecidableEq, Repr

/-- The statements of a script in line order. -/
abbrev Program := List Instruction

/-- The most `defer`s a statement may carry, in source and in byte code alike. -/
def maxDeferDepth : Nat := 64

end ScriptHost

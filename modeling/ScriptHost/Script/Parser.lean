import ScriptHost.Script.Exception
import ScriptHost.Script.Statement
import ScriptHost.Text.Numeral
import ScriptHost.Text.Utf8
import ScriptHost.Text.WhiteSpace

/- Source to program. A source is cut into lines at line feeds. A line that is
   blank or begins with `#` holds nothing; any other is one statement: a keyword
   up to the first white space, then its argument. The first line that is not
   well-formed decides the error. Columns count UTF-8 bytes from 1. -/
namespace ScriptHost

open Text

/-- The lines of a source. A line feed ends a line, together with one carriage
    return right before it; nothing after the last line feed is no line. -/
def sourceLines : List Char → List (List Char)
  | [] => []
  | '\n' :: rest => [] :: sourceLines rest
  | '\r' :: '\n' :: rest => [] :: sourceLines rest
  | c :: rest =>
    match sourceLines rest with
    | [] => [[c]]
    | line :: lines => (c :: line) :: lines

/-- The words a statement may begin with. -/
inductive Keyword where
  | print
  | throw
  | defer
  | fault
  deriving DecidableEq, Repr

namespace Keyword

def chars : Keyword → List Char
  | print => ['p', 'r', 'i', 'n', 't']
  | throw => ['t', 'h', 'r', 'o', 'w']
  | defer => ['d', 'e', 'f', 'e', 'r']
  | fault => ['f', 'a', 'u', 'l', 't']

def ofChars? (word : List Char) : Option Keyword :=
  [print, throw, defer, fault].find? (·.chars == word)

theorem ofChars?_eq_some_iff (word : List Char) (k : Keyword) :
    ofChars? word = some k ↔ word = k.chars := by
  constructor
  · intro h
    have h' := List.find?_some h
    exact (eq_of_beq h').symm
  · rintro rfl
    cases k <;> rfl

end Keyword

/-- The word in front of the first white space. -/
def firstWord (text : List Char) : List Char :=
  text.takeWhile (!isWhiteSpace ·)

/-- What follows the first word and the white space after it. -/
def afterWord (text : List Char) : List Char :=
  trimStart (text.dropWhile (!isWhiteSpace ·))

/-- The text without any number of `0x` in front of it. -/
def dropHexMarks : List Char → List Char
  | '0' :: 'x' :: rest => dropHexMarks rest
  | cs => cs

/-- The fault code an argument names. -/
def faultCode? (argument : List Char) : Option UInt32 :=
  (unsigned? 16 0x100000000 (dropHexMarks argument)).map UInt32.ofNat

/-- The column of the tail `rest` of a text that begins at `column`. -/
def columnOf (column : UInt32) (text rest : List Char) : UInt32 :=
  column + UInt32.ofNat (utf8Length text - utf8Length rest)

/-- One statement, whose text begins at `column` and has no white space at its
    ends; at most `allowance` more `defer`s may come. -/
def Statement.parse (line : UInt32) (allowance : Nat) (column : UInt32) (text : List Char) :
    Except CompileError Statement :=
  let argument := afterWord text
  let argumentColumn := columnOf column text argument
  match Keyword.ofChars? (firstWord text) with
  | some .print => .ok (.act column (.print (String.ofList argument)))
  | some .throw => .ok (.act column (.throw (String.ofList argument)))
  | some .defer =>
    if argument.isEmpty then .error ⟨line, column, .emptyDefer⟩
    else
      match allowance with
      | 0 => .error ⟨line, column, .tooDeep maxDeferDepth⟩
      | n + 1 => (Statement.parse line n argumentColumn argument).map (.defer column)
  | some .fault =>
    match faultCode? argument with
    | some code => .ok (.act column (.fault code))
    | none => .error ⟨line, argumentColumn, .badFaultCode (String.ofList argument)⟩
  | none => .error ⟨line, column, .unknownStatement (String.ofList (firstWord text))⟩

/-- The statement of a line, if the line holds one. -/
def parseLine (number : UInt32) (text : List Char) : Except CompileError (Option Instruction) :=
  let body := trimStart text
  if body.isEmpty ∨ body.head? = some '#' then .ok none
  else
    (Statement.parse number maxDeferDepth (columnOf 1 text body) (trimEnd body)).map
      fun statement => some ⟨number, statement⟩

/-- The instructions of lines, of which the first has the 0-based number `index`. -/
def parseLines (index : Nat) : List (List Char) → Except CompileError Program
  | [] => .ok []
  | text :: rest =>
    match parseLine (UInt32.ofNat index + 1) text with
    | .error e => .error e
    | .ok found =>
      match parseLines (index + 1) rest with
      | .error e => .error e
      | .ok program => .ok (found.toList ++ program)

def Program.parse (source : String) : Except CompileError Program :=
  parseLines 0 (sourceLines source.toList)

end ScriptHost

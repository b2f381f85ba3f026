import ScriptHost.Json.Number
import ScriptHost.Text.Utf16

/- Tokens of a JSON text. The lexer is a machine that takes one character at a time:
   it is between tokens, in a word, in a number, or in a string, where it may be after
   a backslash or among the digits of a numbered character. -/
namespace ScriptHost

inductive JsonToken where
  | openArray
  | closeArray
  | openObject
  | closeObject
  | comma
  | colon
  | null
  | bool (value : Bool)
  | number (literal : List Char)
  | string (text : Option String)
  deriving DecidableEq, Repr

namespace JsonToken

/-- A piece of a string: a character, or one half of a surrogate pair. -/
inductive Piece where
  | char (c : Char)
  | half (unit : UInt16)
  deriving DecidableEq, Repr

/-- The characters of pieces, if every half has its other half next to it. -/
def joinPieces : List Piece → Option (List Char)
  | [] => some []
  | .char c :: rest => (joinPieces rest).map (c :: ·)
  | .half high :: .half low :: rest =>
    if Text.isHighSurrogate high && Text.isLowSurrogate low then
      (joinPieces rest).map (Text.ofSurrogates high low :: ·)
    else none
  | .half _ :: _ => none

/-- The piece that a number between 0 and 0xFFFF stands for. -/
def Piece.ofUnit (n : Nat) : Piece :=
  if 0xD800 ≤ n ∧ n < 0xE000 then .half (UInt16.ofNat n) else .char (Char.ofNat n)

/-- The character that a letter after a backslash stands for. -/
def escaped? : Char → Option Char
  | '"' => some '"'
  | '\\' => some '\\'
  | '/' => some '/'
  | 'b' => some '\x08'
  | 'f' => some '\x0c'
  | 'n' => some '\n'
  | 'r' => some '\r'
  | 't' => some '\t'
  | _ => none

/-- Where the lexer is. Letters, characters and pieces read so far are in reverse order. -/
inductive Lexer where
  | between
  | word (letters : List Char)
  | number (chars : List Char)
  | string (pieces : List Piece)
  | escape (pieces : List Piece)
  | numbered (pieces : List Piece) (missing value : Nat)

def ofWord? (word : List Char) : Option JsonToken :=
  if word = ['n', 'u', 'l', 'l'] then some .null
  else if word = ['t', 'r', 'u', 'e'] then some (.bool true)
  else if word = ['f', 'a', 'l', 's', 'e'] then some (.bool false)
  else none

def ofNumber? (literal : List Char) : Option JsonToken :=
  if JsonNumber.isLiteral literal then some (.number literal) else none

/-- A character between tokens. -/
def feedBetween (c : Char) : Option (List JsonToken × Lexer) :=
  if c = ' ' ∨ c = '\n' ∨ c = '\t' ∨ c = '\r' then some ([], .between)
  else if c = '[' then some ([.openArray], .between)
  else if c = ']' then some ([.closeArray], .between)
  else if c = '\x7b' then some ([.openObject], .between)
  else if c = '\x7d' then some ([.closeObject], .between)
  else if c = ',' then some ([.comma], .between)
  else if c = ':' then some ([.colon], .between)
  else if c = '"' then some ([], .string [])
  else if c = '-' ∨ JsonNumber.isDigit c then some ([], .number [c])
  else if 'a' ≤ c ∧ c ≤ 'z' then some ([], .word [c])
  else none

/-- A character after a token that it ends. -/
def feedAfter (token : Option JsonToken) (c : Char) : Option (List JsonToken × Lexer) :=
  match token, feedBetween c with
  | some t, some (tokens, lexer) => some (t :: tokens, lexer)
  | _, _ => none

/-- Whether a character can go on a number. -/
def continuesNumber (c : Char) : Bool :=
  JsonNumber.isDigit c || c = '.' || c = 'e' || c = 'E' || c = '+' || c = '-'

/-- One character: the tokens it completes, and where the lexer is after it. -/
def feed (lexer : Lexer) (c : Char) : Option (List JsonToken × Lexer) :=
  match lexer with
  | .between => feedBetween c
  | .word letters =>
    if 'a' ≤ c ∧ c ≤ 'z' then some ([], .word (c :: letters))
    else feedAfter (ofWord? letters.reverse) c
  | .number chars =>
    if continuesNumber c then some ([], .number (c :: chars))
    else feedAfter (ofNumber? chars.reverse) c
  | .string pieces =>
    if c = '"' then
      some ([.string ((joinPieces pieces.reverse).map String.ofList)], .between)
    else if c = '\\' then some ([], .escape pieces)
    else if c.toNat < 0x20 then none
    else some ([], .string (.char c :: pieces))
  | .escape pieces =>
    if c = 'u' then some ([], .numbered pieces 4 0)
    else (escaped? c).map fun e => ([], .string (.char e :: pieces))
  | .numbered pieces missing value =>
    match Text.digit? 16 c with
    | none => none
    | some d =>
      let value := 16 * value + d
      if missing = 1 then some ([], .string (Piece.ofUnit value :: pieces))
      else some ([], .numbered pieces (missing - 1) value)

/-- The token that the end of the text completes, if any. -/
def finish? : Lexer → Option (List JsonToken)
  | .between => some []
  | .word letters => (ofWord? letters.reverse).map ([·])
  | .number chars => (ofNumber? chars.reverse).map ([·])
  | _ => none

/-- The tokens of characters, from where the lexer is. -/
def lexFrom (lexer : Lexer) : List Char → Option (List JsonToken)
  | [] => finish? lexer
  | c :: rest =>
    match feed lexer c with
    | none => none
    | some (tokens, lexer') => (lexFrom lexer' rest).map (tokens ++ ·)

def lex (cs : List Char) : Option (List JsonToken) := lexFrom .between cs

end JsonToken
end ScriptHost

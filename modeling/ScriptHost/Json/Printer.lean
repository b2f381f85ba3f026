import ScriptHost.Json.Value
import ScriptHost.Text.Numeral

/- Values to JSON text. The compact form has no blanks; the pretty form has each item or
   field on a line of its own, two blanks further in than what holds it, and a blank after
   each colon. Strings escape quotes, backslashes and control characters, and nothing else. -/
namespace ScriptHost.JsonValue

/-- A character inside a string. -/
def escape (c : Char) : List Char :=
  match c with
  | '"' => ['\\', '"']
  | '\\' => ['\\', '\\']
  | '\x08' => ['\\', 'b']
  | '\x0c' => ['\\', 'f']
  | '\n' => ['\\', 'n']
  | '\r' => ['\\', 'r']
  | '\t' => ['\\', 't']
  | c =>
    if c.toNat < 0x20 then ['\\', 'u', '0', '0'] ++ (Text.hexUpper 2 c.toNat).map Char.toLower
    else [c]

def printString (s : String) : List Char :=
  '"' :: s.toList.flatMap escape ++ ['"']

/-- A value that is neither array nor object. A string without a text has no form; it is written
    empty. -/
def printScalar : JsonValue → List Char
  | bool true => ['t', 'r', 'u', 'e']
  | bool false => ['f', 'a', 'l', 's', 'e']
  | number literal => literal
  | string text => printString (text.getD "")
  | _ => ['n', 'u', 'l', 'l']

mutual

/-- The compact form. -/
def compact : JsonValue → List Char
  | array items => '[' :: compactItems items ++ [']']
  | object fields => '\x7b' :: compactFields fields ++ ['\x7d']
  | v => printScalar v

def compactItems : List JsonValue → List Char
  | [] => []
  | [v] => v.compact
  | v :: rest => v.compact ++ ',' :: compactItems rest

def compactFields : List (Option String × JsonValue) → List Char
  | [] => []
  | [(name, v)] => printString (name.getD "") ++ ':' :: v.compact
  | (name, v) :: rest => printString (name.getD "") ++ ':' :: v.compact ++ ',' :: compactFields rest

end

/-- A new line with a depth of blanks. -/
def newLine (depth : Nat) : List Char := '\n' :: List.replicate (2 * depth) ' '

mutual

/-- The pretty form of a value that stands at a depth. -/
def prettyAt (depth : Nat) : JsonValue → List Char
  | array [] => ['[', ']']
  | object [] => ['\x7b', '\x7d']
  | array items => '[' :: prettyItems (depth + 1) items ++ newLine depth ++ [']']
  | object fields => '\x7b' :: prettyFields (depth + 1) fields ++ newLine depth ++ ['\x7d']
  | v => printScalar v

def prettyItems (depth : Nat) : List JsonValue → List Char
  | [] => []
  | [v] => newLine depth ++ v.prettyAt depth
  | v :: rest => newLine depth ++ v.prettyAt depth ++ ',' :: prettyItems depth rest

def prettyFields (depth : Nat) : List (Option String × JsonValue) → List Char
  | [] => []
  | [(name, v)] => newLine depth ++ printString (name.getD "") ++ [':', ' '] ++ v.prettyAt depth
  | (name, v) :: rest =>
    newLine depth ++ printString (name.getD "") ++ [':', ' '] ++ v.prettyAt depth ++
      ',' :: prettyFields depth rest

end

def print (v : JsonValue) : String := String.ofList v.compact

def pretty (v : JsonValue) : String := String.ofList (v.prettyAt 0)

end ScriptHost.JsonValue

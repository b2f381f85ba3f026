import ScriptHost.Text.Numeral
import ScriptHost.Text.WhiteSpace

/- Lines for standard error. A log line has a level and is shown from its level up;
   a plain line is always shown. Control characters that a terminal would obey are
   shown by number in log lines. -/
namespace ScriptHost

/-- How much is logged, most first. -/
inductive LogLevel where
  | debug
  | info
  | warn
  | error
  deriving DecidableEq, Repr

namespace LogLevel

def name : LogLevel → String
  | debug => "debug"
  | info => "info"
  | warn => "warn"
  | error => "error"

/-- A level's place, the most verbose first. -/
def rank : LogLevel → Nat
  | debug => 0
  | info => 1
  | warn => 2
  | error => 3

/-- The label in front of a log line, five wide. -/
def label : LogLevel → String
  | debug => "DEBUG"
  | info => " INFO"
  | warn => " WARN"
  | error => "ERROR"

/-- The form of a text that is compared with level names: trimmed, ASCII in lower case. -/
def fold (text : String) : String :=
  String.ofList ((Text.trim text).toList.map Char.toLower)

/-- The level a text names, in any case and with blanks around it. -/
def ofText? (text : String) : Option LogLevel :=
  match fold text with
  | "debug" => some debug
  | "trace" => some debug
  | "info" => some info
  | "warn" => some warn
  | "warning" => some warn
  | "error" => some error
  | _ => none

/-- The complaint about a text that names no level. -/
def unknownMessage (text : String) : String :=
  s!"unknown log level '{fold text}'"

end LogLevel

/-- A line for standard error. -/
inductive Message where
  | log (level : LogLevel) (text : String)
  | plain (text : String)
  deriving DecidableEq, Repr

namespace Message

/-- A character of a log line. -/
def visible (c : Char) : List Char :=
  if c = '\x1b' ∨ c = '\x07' ∨ c = '\x08' ∨ c = '\x0c' ∨ c = '\x7f' then
    ['\\', 'x'] ++ (Text.hexUpper 2 c.toNat).map Char.toLower
  else if 0x80 ≤ c.toNat ∧ c.toNat < 0xA0 then
    ['\\', 'u', '\x7b'] ++ Nat.toDigits 16 c.toNat ++ ['\x7d']
  else [c]

/-- The line as it is shown at a level of logging, if it is shown. -/
def shown? (threshold : LogLevel) : Message → Option String
  | log level text =>
    if threshold.rank ≤ level.rank then
      some (level.label ++ " " ++ String.ofList (text.toList.flatMap visible))
    else none
  | plain text => some text

end Message
end ScriptHost

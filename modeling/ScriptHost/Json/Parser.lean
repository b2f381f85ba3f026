import ScriptHost.Json.Token
import ScriptHost.Json.Value

/- Tokens to a value. The parser is a machine with a stack: one frame for each array or
   object that is open, and a note of what may come next. It accepts a text that is one
   value and nothing else. -/
namespace ScriptHost.JsonParser

/-- An open array or object. Items and fields read so far are in reverse order. -/
inductive Frame where
  | array (items : List JsonValue)
  | object (fields : List (Option String × JsonValue)) (name : Option String)

/-- What may come next. -/
inductive Expected where
  | value
  | itemOrEnd
  | nameOrEnd
  | name
  | colon
  | commaOrEnd
  | nothing

/-- The parser: open frames, innermost first, what may come next, and the value once it is
    complete. -/
structure State where
  frames : List Frame := []
  expected : Expected := .value
  result : Option JsonValue := none

/-- A complete value, put where it belongs. -/
def State.complete (s : State) (v : JsonValue) : State :=
  match s.frames with
  | [] => { frames := [], expected := .nothing, result := some v }
  | .array items :: rest =>
    { s with frames := .array (v :: items) :: rest, expected := .commaOrEnd }
  | .object fields name :: rest =>
    { s with frames := .object ((name, v) :: fields) none :: rest, expected := .commaOrEnd }

/-- A token where a value may begin. -/
def State.begin? (s : State) : JsonToken → Option State
  | .null => some (s.complete .null)
  | .bool b => some (s.complete (.bool b))
  | .number literal => some (s.complete (.number literal))
  | .string text => some (s.complete (.string text))
  | .openArray => some { s with frames := .array [] :: s.frames, expected := .itemOrEnd }
  | .openObject => some { s with frames := .object [] none :: s.frames, expected := .nameOrEnd }
  | _ => none

/-- A token that closes the innermost frame. -/
def State.close? (s : State) (token : JsonToken) : Option State :=
  match s.frames, token with
  | .array items :: rest, .closeArray =>
    some (State.complete { s with frames := rest } (.array items.reverse))
  | .object fields _ :: rest, .closeObject =>
    some (State.complete { s with frames := rest } (.object fields.reverse))
  | _, _ => none

/-- A token where a name may come. -/
def State.name? (s : State) (token : JsonToken) : Option State :=
  match s.frames, token with
  | .object fields _ :: rest, .string name =>
    some { s with frames := .object fields name :: rest, expected := .colon }
  | _, _ => none

/-- A comma between items or fields. -/
def State.comma? (s : State) : Option State :=
  match s.frames with
  | .array _ :: _ => some { s with expected := .value }
  | .object _ _ :: _ => some { s with expected := .name }
  | [] => none

def State.step? (s : State) (token : JsonToken) : Option State :=
  match s.expected with
  | .value => s.begin? token
  | .itemOrEnd => if token = .closeArray then s.close? token else s.begin? token
  | .nameOrEnd => if token = .closeObject then s.close? token else s.name? token
  | .name => s.name? token
  | .colon => if token = .colon then some { s with expected := .value } else none
  | .commaOrEnd => if token = .comma then s.comma? else s.close? token
  | .nothing => none

/-- The value that tokens make up. -/
def ofTokens? (tokens : List JsonToken) : Option JsonValue :=
  (tokens.foldlM State.step? {}).bind (·.result)

end ScriptHost.JsonParser

namespace ScriptHost

def JsonValue.parse? (s : String) : Option JsonValue :=
  (JsonToken.lex s.toList).bind (JsonParser.ofTokens? ·)

end ScriptHost

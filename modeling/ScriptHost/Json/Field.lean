import ScriptHost.Json.Number
import ScriptHost.Json.Value

/- Taking values apart. A named field stands once at most; fields of other names are
   passed over, whatever they hold. -/
namespace ScriptHost.JsonValue

def text? : JsonValue → Option String
  | string text => text
  | _ => none

/-- A whole number below a bound. -/
def nat? (bound : Nat) : JsonValue → Option Nat
  | number literal => JsonNumber.nat? bound literal
  | _ => none

/-- A word that stands for itself: a string, or the name of a lone field that holds null. -/
def word? : JsonValue → Option String
  | string text => text
  | object [(name, null)] => name
  | _ => none

/-- The field of a name. -/
inductive Field where
  | missing
  | once (value : JsonValue)
  | repeated

/-- The field of a name among fields. -/
def field (fields : List (Option String × JsonValue)) (name : String) : Field :=
  match fields.filter (·.1 = some name) with
  | [] => .missing
  | [(_, value)] => .once value
  | _ => .repeated

/-- What a field holds, which must be there. -/
def Field.required {α : Type} (read : JsonValue → Option α) : Field → Option α
  | once value => read value
  | _ => none

/-- What a field holds, or a default where it is missing. -/
def Field.withDefault {α : Type} (default : α) (read : JsonValue → Option α) : Field → Option α
  | missing => some default
  | once value => read value
  | repeated => none

/-- The field at a place in an array. -/
def Field.at (items : List JsonValue) (place : Nat) : Field :=
  match items[place]? with
  | some value => .once value
  | none => .missing

end ScriptHost.JsonValue

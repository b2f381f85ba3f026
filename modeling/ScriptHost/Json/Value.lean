/- JSON values as read from a text. A string that holds half of a surrogate pair has
   no text; it may be skipped but not used. A number is kept as it was written. -/
namespace ScriptHost

/-- A JSON value. Fields stay in the order in which they were written, repeated ones too. -/
inductive JsonValue where
  | null
  | bool (value : Bool)
  | number (literal : List Char)
  | string (text : Option String)
  | array (items : List JsonValue)
  | object (fields : List (Option String × JsonValue))

namespace JsonValue

/-- A string that has a text. -/
def ofString (s : String) : JsonValue := string (some s)

/-- A number without sign or fraction. -/
def ofNat (n : Nat) : JsonValue := number (Nat.toDigits 10 n)

/-- An object with distinct, written names. -/
def ofFields (fields : List (String × JsonValue)) : JsonValue :=
  object (fields.map fun (name, value) => (some name, value))

mutual

/-- How deep arrays and objects are nested. -/
def height : JsonValue → Nat
  | array items => heightOfItems items + 1
  | object fields => heightOfFields fields + 1
  | _ => 0

def heightOfItems : List JsonValue → Nat
  | [] => 0
  | v :: rest => max v.height (heightOfItems rest)

def heightOfFields : List (Option String × JsonValue) → Nat
  | [] => 0
  | (_, v) :: rest => max v.height (heightOfFields rest)

end

mutual

/-- Whether every string in a value has a text and every number satisfies a test. -/
def isUsable (number? : List Char → Bool) : JsonValue → Bool
  | number literal => number? literal
  | string text => text.isSome
  | array items => areUsable number? items
  | object fields => fieldsAreUsable number? fields
  | _ => true

def areUsable (number? : List Char → Bool) : List JsonValue → Bool
  | [] => true
  | v :: rest => v.isUsable number? && areUsable number? rest

def fieldsAreUsable (number? : List Char → Bool) : List (Option String × JsonValue) → Bool
  | [] => true
  | (name, v) :: rest => name.isSome && v.isUsable number? && fieldsAreUsable number? rest

end

end JsonValue
end ScriptHost

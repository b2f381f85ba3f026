/- Numerals: hexadecimal output, and unsigned input in a base with a bound.
   Input takes one optional `+`, then one digit or more, and refuses any value
   that reaches the bound. -/
namespace ScriptHost.Text

def hex (n : Nat) : String :=
  String.ofList (Nat.toDigits 16 n)

/-- A number in upper-case hexadecimal, with zeros in front up to a width. -/
def hexUpper (width n : Nat) : List Char :=
  let digits := (Nat.toDigits 16 n).map Char.toUpper
  List.replicate (width - digits.length) '0' ++ digits

/-- The value of a digit; letters of either case follow the nine. -/
def digit? (base : Nat) (c : Char) : Option Nat :=
  let value :=
    if '0' ≤ c ∧ c ≤ '9' then some (c.toNat - '0'.toNat)
    else if 'a' ≤ c ∧ c ≤ 'z' then some (c.toNat - 'a'.toNat + 10)
    else if 'A' ≤ c ∧ c ≤ 'Z' then some (c.toNat - 'A'.toNat + 10)
    else none
  value.filter (· < base)

/-- The value of a list of digits, read on from `value`. -/
def digits? (base value : Nat) : List Char → Option Nat
  | [] => some value
  | c :: rest =>
    match digit? base c with
    | some d => digits? base (value * base + d) rest
    | none => none

/-- Digits after an optional sign. -/
def afterPlus : List Char → List Char
  | '+' :: rest => rest
  | cs => cs

/-- An unsigned numeral below a bound. -/
def unsigned? (base bound : Nat) (cs : List Char) : Option Nat :=
  if (afterPlus cs).isEmpty then none
  else (digits? base 0 (afterPlus cs)).filter (· < bound)

end ScriptHost.Text

import ScriptHost.Text.Numeral

/- JSON number literals: an optional minus, digits without a needless zero in front,
   an optional fraction, an optional exponent. -/
namespace ScriptHost.JsonNumber

def isDigit (c : Char) : Bool := '0' ≤ c && c ≤ '9'

/-- The parts of a literal: the digits before and after the point, and the exponent. -/
structure Parts where
  whole : List Char
  fraction : List Char := []
  exponentIsNegative : Bool := false
  exponent : List Char := []

/-- The digits in front, and what follows them. -/
def spanDigits (cs : List Char) : List Char × List Char :=
  (cs.takeWhile isDigit, cs.dropWhile isDigit)

/-- The exponent after its letter, which must have a digit and end the literal. -/
def exponentParts? (p : Parts) (cs : List Char) : Option Parts :=
  let (negative, digits) := match cs with
    | '-' :: rest => (true, rest)
    | '+' :: rest => (false, rest)
    | _ => (false, cs)
  if digits.isEmpty || !digits.all isDigit then none
  else some { p with exponentIsNegative := negative, exponent := digits }

/-- The exponent, if there is one, at the end of a literal. -/
def tailParts? (p : Parts) : List Char → Option Parts
  | [] => some p
  | 'e' :: rest => exponentParts? p rest
  | 'E' :: rest => exponentParts? p rest
  | _ => none

/-- The parts of a literal without its sign. -/
def unsignedParts? (cs : List Char) : Option Parts :=
  let (whole, rest) := spanDigits cs
  if whole.isEmpty || (whole.head? = some '0' && whole.length ≠ 1) then none
  else
    match rest with
    | '.' :: rest =>
      let (fraction, rest) := spanDigits rest
      if fraction.isEmpty then none else tailParts? { whole, fraction } rest
    | rest => tailParts? { whole } rest

def parts? : List Char → Option Parts
  | '-' :: rest => unsignedParts? rest
  | cs => unsignedParts? cs

def isLiteral (cs : List Char) : Bool := (parts? cs).isSome

def value (digits : List Char) : Nat := (Text.digits? 10 0 digits).getD 0

/-- The number of a literal that is a whole number below a bound, written without sign, point or
    exponent. -/
def nat? (bound : Nat) (cs : List Char) : Option Nat :=
  if isLiteral cs && cs.all isDigit then Text.unsigned? 10 bound cs else none

end ScriptHost.JsonNumber

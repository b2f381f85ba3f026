import ScriptHost.Json.Number

/- Number literals as doubles. A literal is cut to a significand below 2^64 and a
   power of ten, and its double is the product of the doubles nearest to the two.
   A literal is finite when that product is; as three roundings are made, one just
   above the greatest double may pass, and one just below it may not. -/
namespace ScriptHost.JsonNumber

/-- A significand times ten to the power `up - down`. -/
structure Scaled where
  significand : Nat
  up : Nat
  down : Nat

def significandBound : Nat := Nat.pow 2 64

/-- A significand lengthened by digits while it fits, and the digits that are left. -/
def lengthen (significand : Nat) : List Char → Nat × List Char
  | [] => (significand, [])
  | c :: rest =>
    let longer := significand * 10 + value [c]
    if longer < significandBound then lengthen longer rest else (significand, c :: rest)

/-- The significand and scale of a literal. Each whole digit that no longer fits
    counts as a ten; a fraction ends at its first digit that does not fit. -/
def Parts.scaled (p : Parts) : Scaled :=
  let (whole, tens) := lengthen 0 p.whole
  let (significand, unread) := lengthen whole p.fraction
  let tenths := p.fraction.length - unread.length
  let exponent := value p.exponent
  if p.exponentIsNegative then { significand, up := tens.length, down := tenths + exponent }
  else { significand, up := tens.length + exponent, down := tenths }

/-- The double nearest to a whole number: 53 bits are kept, and a tie goes to the even neighbour. -/
def nearestDouble (n : Nat) : Nat :=
  let unit := Nat.pow 2 (Nat.log2 n - 52)
  let below := n / unit
  let rest := n % unit
  if 2 * rest < unit || (2 * rest == unit && below % 2 == 0) then below * unit
  else (below + 1) * unit

/-- The least number that rounds to infinity as a double. -/
def infinityFrom : Nat := Nat.pow 2 1024 - Nat.pow 2 970

/-- Whether the double is finite. A quotient always is, and ten to the power 309
    is no double. -/
def Scaled.isFinite (s : Scaled) : Bool :=
  if s.significand == 0 || s.up < s.down then true
  else if s.down + 308 < s.up then false
  else nearestDouble s.significand * nearestDouble (Nat.pow 10 (s.up - s.down)) < infinityFrom

def isFinite (cs : List Char) : Bool :=
  ((parts? cs).map fun p => p.scaled.isFinite).getD false

end ScriptHost.JsonNumber

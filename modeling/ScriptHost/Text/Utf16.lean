/- UTF-16: texts from 16-bit units. A unit below 0xD800 or from 0xE000 up is a
   character by itself; a high surrogate and the low surrogate after it are one
   character; any other surrogate makes the units ill-formed. -/
namespace ScriptHost.Text

/-- Whether a unit is the first half of a pair. -/
def isHighSurrogate (u : UInt16) : Bool := 0xD800 ≤ u && u < 0xDC00

/-- Whether a unit is the second half of a pair. -/
def isLowSurrogate (u : UInt16) : Bool := 0xDC00 ≤ u && u < 0xE000

/-- The character of a pair of surrogates. -/
def ofSurrogates (high low : UInt16) : Char :=
  Char.ofNat (0x10000 + (high.toNat - 0xD800) * 0x400 + (low.toNat - 0xDC00))

/-- The characters of 16-bit units, if no surrogate stands alone. -/
def ofUtf16? : List UInt16 → Option (List Char)
  | [] => some []
  | u :: rest =>
    if isHighSurrogate u then
      match rest with
      | low :: rest' =>
        if isLowSurrogate low then (ofUtf16? rest').map (ofSurrogates u low :: ·) else none
      | [] => none
    else if isLowSurrogate u then none
    else (ofUtf16? rest).map (Char.ofNat u.toNat :: ·)

/-- Order of the two bytes of a unit. -/
inductive ByteOrder where
  | little
  | big
  deriving DecidableEq, Repr

def ByteOrder.unit (order : ByteOrder) (first second : UInt8) : UInt16 :=
  match order with
  | .little => UInt16.ofNat (first.toNat + 256 * second.toNat)
  | .big => UInt16.ofNat (256 * first.toNat + second.toNat)

/-- The units of bytes in a given order, if no byte is left over. -/
def ByteOrder.units? (order : ByteOrder) : List UInt8 → Option (List UInt16)
  | [] => some []
  | [_] => none
  | first :: second :: rest => (order.units? rest).map (order.unit first second :: ·)

end ScriptHost.Text

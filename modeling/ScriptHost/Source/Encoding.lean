import ScriptHost.Text.Utf16
import ScriptHost.Text.Utf8

/- The encoding of a script file. A byte order mark decides; without one the bytes
   are UTF-8 if they are well-formed as such, and Latin-1 otherwise. The mark is
   no part of the text. -/
namespace ScriptHost

inductive Encoding where
  | utf8
  | utf8Bom
  | utf16Le
  | utf16Be
  | latin1
  deriving DecidableEq, Repr

namespace Encoding

def name : Encoding → String
  | utf8 => "Utf8"
  | utf8Bom => "Utf8Bom"
  | utf16Le => "Utf16Le"
  | utf16Be => "Utf16Be"
  | latin1 => "Latin1"

/-- Whether byte code may be made from a script in this encoding. -/
def isUtf8 : Encoding → Bool
  | utf8 => true
  | utf8Bom => true
  | _ => false

/-- The bytes in front of a text that announce its encoding. -/
def mark : Encoding → List UInt8
  | utf8Bom => [0xEF, 0xBB, 0xBF]
  | utf16Le => [0xFF, 0xFE]
  | utf16Be => [0xFE, 0xFF]
  | _ => []

def detect (raw : List UInt8) : Encoding :=
  if utf8Bom.mark.isPrefixOf raw then utf8Bom
  else if utf16Le.mark.isPrefixOf raw then utf16Le
  else if utf16Be.mark.isPrefixOf raw then utf16Be
  else if (Text.ofUtf8? raw).isSome then utf8
  else latin1

/-- The text of bytes after the mark. -/
def decodeBody (e : Encoding) (body : List UInt8) : Option String :=
  match e with
  | utf8 => Text.ofUtf8? body
  | utf8Bom => Text.ofUtf8? body
  | utf16Le => (Text.ByteOrder.little.units? body).bind (Text.ofUtf16? ·) |>.map String.ofList
  | utf16Be => (Text.ByteOrder.big.units? body).bind (Text.ofUtf16? ·) |>.map String.ofList
  | latin1 => some (String.ofList (body.map fun b => Char.ofNat b.toNat))

/-- The text and the encoding of a file's bytes, if they keep to the encoding detected. -/
def decode (raw : List UInt8) : Option (String × Encoding) :=
  let e := detect raw
  (e.decodeBody (raw.drop e.mark.length)).map (·, e)

end Encoding
end ScriptHost

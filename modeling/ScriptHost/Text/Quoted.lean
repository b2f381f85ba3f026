import ScriptHost.Text.Numeral
import ScriptHost.Text.Visibility

/- Quoted text, as the debug form of a value shows it: between quotes, with a
   backslash before a quote or a backslash, short escapes for NUL, tab, carriage
   return and line feed, and a number for what has no glyph of its own. -/
namespace ScriptHost.Text

def isShownByNumber (c : Char) : Bool :=
  unprintable.contains c || fillers.contains c ||
    (graphemeExtend.contains c && !halfwidthSoundMarks.contains c)

def quotedChar (c : Char) : List Char :=
  match c with
  | '\x00' => ['\\', '0']
  | '\t' => ['\\', 't']
  | '\r' => ['\\', 'r']
  | '\n' => ['\\', 'n']
  | '"' => ['\\', '"']
  | '\\' => ['\\', '\\']
  | c =>
    if isShownByNumber c then
      ['\\', 'u', '\x7b'] ++ Nat.toDigits 16 c.toNat ++ ['\x7d']
    else [c]

def quoted (s : String) : String :=
  String.ofList ('"' :: s.toList.flatMap quotedChar ++ ['"'])

end ScriptHost.Text

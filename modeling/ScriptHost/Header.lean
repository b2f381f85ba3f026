import ScriptHost.Text.Numeral
import ScriptHost.Text.Utf8

/- Byte code as a header. A banner, the script's own bytes in a disabled block, then
   an array with sixteen bytes a line; each line begins with its offset in a comment,
   and a comma stands after every byte but the last. Lines end in CR LF. -/
namespace ScriptHost.Header

def bytes (s : String) : List UInt8 := Text.utf8 s

def lineEnd : List UInt8 := [0x0D, 0x0A]

def rule : String :=
  "//-------------------------------------------------------------------------------------------------------"

/-- The four lines every header begins with. -/
def banner : List UInt8 :=
  [rule,
    "// Copyright (C) scripthost contributors. All rights reserved.",
    "// Licensed under the MIT license. See LICENSE.txt file in the project root for full license information.",
    rule].flatMap fun line => bytes line ++ lineEnd

def bytesPerLine : Nat := 16

/-- A byte of the array, without its comma. -/
def cell (b : UInt8) : List UInt8 :=
  bytes (" 0x" ++ String.ofList (Text.hexUpper 2 b.toNat))

/-- The comment with the offset of a line's first byte. -/
def offset (n : Nat) : List UInt8 :=
  bytes ("/* " ++ String.ofList (Text.hexUpper 8 n) ++ " */")

/-- The array's bytes, of which the first has the given index. After the last byte of
    a full line comes the next line's offset, unless no byte is left for that line. -/
def cells (index : Nat) : List UInt8 → List UInt8
  | [] => []
  | [b] => cell b
  | b :: rest =>
    cell b ++ bytes "," ++
      (if index % bytesPerLine = bytesPerLine - 1 then lineEnd ++ offset (index + 1) else []) ++
      cells (index + 1) rest

/-- The disabled block with the script's own bytes. -/
def disabledSource (raw : List UInt8) : List UInt8 :=
  bytes "#if 0" ++ lineEnd ++ raw ++ (if lineEnd.isSuffixOf raw then [] else lineEnd) ++
    bytes "#endif" ++ lineEnd

/-- The header for a byte code, the script's bytes and the name of the array. -/
def render (bytecode raw : List UInt8) (symbol : String) : List UInt8 :=
  banner ++ disabledSource raw ++
    bytes "namespace Js" ++ lineEnd ++ bytes "\x7b" ++ lineEnd ++
    bytes "    const char Library_Bytecode_" ++ bytes symbol ++ bytes "[] = \x7b" ++ lineEnd ++
    offset 0 ++ cells 0 bytecode ++
    bytes "\x7d;" ++ lineEnd ++ lineEnd ++ bytes "\x7d" ++ lineEnd

end ScriptHost.Header

import ScriptHost.Bytecode.Word
import ScriptHost.Script.Statement

/- Byte code of a program: a magic and a version, the number of instructions,
   then each instruction as its line and its statement. A statement is its
   column, a tag, and what the tag calls for. The decoder takes nothing but what
   the encoder writes: it refuses other tags, statements deeper than the limit,
   texts that are not UTF-8, and bytes left over at the end. -/
namespace ScriptHost.Bytecode

/-- The four bytes every byte code begins with. -/
def magic : List UInt8 := [0x52, 0x46, 0x42, 0x43]

def version : UInt8 := 1

/-- Tags of the four kinds of statement. -/
def printTag : UInt8 := 0
def deferTag : UInt8 := 1
def throwTag : UInt8 := 2
def faultTag : UInt8 := 3

/-- The bytes of an action, tag first. -/
def encodeAction : Action → List UInt8
  | .print text => printTag :: textBytes text
  | .throw message => throwTag :: textBytes message
  | .fault code => faultTag :: wordBytes code

def encodeStatement : Statement → List UInt8
  | .act column action => wordBytes column ++ encodeAction action
  | .defer column inner => wordBytes column ++ deferTag :: encodeStatement inner

def encodeInstruction (i : Instruction) : List UInt8 :=
  wordBytes i.line ++ encodeStatement i.statement

def encode (p : Program) : List UInt8 :=
  magic ++ version :: wordBytes (UInt32.ofNat p.length) ++ p.flatMap encodeInstruction

/-- A statement off the front, with at most `allowance` `defer`s. -/
def readStatement (allowance : Nat) (bytes : List UInt8) : Option (Statement × List UInt8) :=
  match readWord bytes with
  | none => none
  | some (_, []) => none
  | some (column, tag :: rest) =>
    if tag = printTag then
      (readText rest).map fun (text, rest') => (.act column (.print text), rest')
    else if tag = deferTag then
      match allowance with
      | 0 => none
      | n + 1 => (readStatement n rest).map fun (inner, rest') => (.defer column inner, rest')
    else if tag = throwTag then
      (readText rest).map fun (message, rest') => (.act column (.throw message), rest')
    else if tag = faultTag then
      (readWord rest).map fun (code, rest') => (.act column (.fault code), rest')
    else none

def readInstruction (bytes : List UInt8) : Option (Instruction × List UInt8) :=
  match readWord bytes with
  | none => none
  | some (line, rest) =>
    (readStatement maxDeferDepth rest).map fun (statement, rest') => (⟨line, statement⟩, rest')

/-- The given number of instructions, which must be all that is left. -/
def readInstructions : Nat → List UInt8 → Option Program
  | 0, [] => some []
  | 0, _ :: _ => none
  | n + 1, bytes =>
    match readInstruction bytes with
    | none => none
    | some (i, rest) => (readInstructions n rest).map (i :: ·)

def decode (bytes : List UInt8) : Option Program :=
  match take? 4 bytes with
  | some (front, v :: rest) =>
    if front = magic ∧ v = version then
      match readWord rest with
      | some (count, rest') => readInstructions count.toNat rest'
      | none => none
    else none
  | _ => none

end ScriptHost.Bytecode

import ScriptHost.Config.Basic

/- What the arguments of a command line ask for. They are read from left to right, and
   the first thing that settles the matter wins: a mistake, or a flag that asks for the
   help or the version.

   A flag is written by name, with a value after `=` or in the next argument if it takes
   one, or by letter, several letters in one argument. A value in an argument of its own
   does not begin with `-`, unless it is just that. Every flag is given once at most.
   After `--` nothing is a flag. Exactly one argument is the file. -/
namespace ScriptHost

inductive Invocation where
  | run (overrides : Overrides)
  | printConfig (overrides : Overrides)
  | help
  | version
  | mistake
  deriving DecidableEq, Repr

inductive Argument where
  | endOfFlags
  | flag (name : List UInt8) (value : Option (List UInt8))
  | letters (letters : List UInt8)
  | plain (bytes : List UInt8)
  deriving DecidableEq, Repr

namespace Argument

def hyphen : UInt8 := 0x2D

def equalsSign : UInt8 := 0x3D

/-- A flag written by name, its value after the first `=`. -/
def ofFlag (bytes : List UInt8) : Argument :=
  let name := bytes.takeWhile (· ≠ equalsSign)
  match bytes.dropWhile (· ≠ equalsSign) with
  | [] => flag name none
  | _ :: value => flag name (some value)

/-- The form of an argument. -/
def ofBytes (bytes : List UInt8) : Argument :=
  if bytes = [hyphen, hyphen] then endOfFlags
  else if [hyphen, hyphen].isPrefixOf bytes then ofFlag bytes
  else if bytes.head? = some hyphen && bytes ≠ [hyphen] then letters bytes.tail
  else plain bytes

end Argument

def Flag.ofName? (name : List UInt8) : Option Flag :=
  Flag.all.find? fun f => Text.utf8 f.name = name

def Flag.ofLetter? (letter : UInt8) : Option Flag :=
  Flag.all.find? fun f => f.letter? = some (Char.ofUInt8 letter)

namespace Overrides

/-- A path from the command line, which is not empty. -/
def path? (bytes : List UInt8) : Option Path :=
  if bytes.isEmpty then none else some ⟨bytes⟩

/-- What is asked for after a flag without a value. -/
def switchOn (o : Overrides) : Flag → Overrides
  | .serialized => { o with serialized := true }
  | .verbose => { o with verbose := true }
  | .crashOnFault => { o with crashOnFault := true }
  | _ => o

/-- What is asked for after a flag with a value, if the value is good. -/
def withValue? (o : Overrides) (f : Flag) (value : List UInt8) : Option Overrides :=
  match f with
  | .bytecode => (path? value).map fun p => { o with bytecode := some p }
  | .header => (path? value).map fun p => { o with header := some p }
  | .emitBytecode => (path? value).map fun p => { o with emitBytecode := some p }
  | .logLevel =>
    ((Text.ofUtf8? value).bind LogLevel.ofText?).map fun level => { o with logLevel := some level }
  | .workerStackSize =>
    ((Text.ofUtf8? value).bind fun text => Text.unsigned? 10 stackSizeBound text.toList).map
      fun size => { o with workerStackSize := some size }
  | _ => none

end Overrides

inductive Expectation where
  | anything
  | valueOf (flag : Flag)
  | file
  deriving DecidableEq, Repr

/-- How far the arguments have been read: what they ask for so far, the flags given,
    and what can come next. The script is empty until the file is given, and never after. -/
structure Scan where
  overrides : Overrides := { script := ⟨[]⟩ }
  given : List Flag := []
  expectation : Expectation := .anything
  deriving DecidableEq, Repr

namespace Scan

def file (s : Scan) (bytes : List UInt8) : Except Invocation Scan :=
  match Overrides.path? bytes with
  | none => .error .mistake
  | some p =>
    if s.overrides.script.isEmpty then
      .ok { s with overrides := { s.overrides with script := p } }
    else .error .mistake

/-- Notes that a flag is given, for the first time. -/
def give (s : Scan) (f : Flag) : Except Invocation Scan :=
  if f ∈ s.given then .error .mistake else .ok { s with given := s.given ++ [f] }

def switch (s : Scan) (f : Flag) : Except Invocation Scan :=
  if f = .help then .error .help
  else if f = .version then .error .version
  else (s.give f).map fun s => { s with overrides := s.overrides.switchOn f }

def value (s : Scan) (f : Flag) (bytes : List UInt8) : Except Invocation Scan :=
  match s.overrides.withValue? f bytes with
  | none => .error .mistake
  | some overrides => .ok { s with overrides, expectation := .anything }

/-- A flag written by name, with the value attached to it. -/
def flag (s : Scan) (f : Flag) : Option (List UInt8) → Except Invocation Scan
  | none =>
    if f.takesValue then (s.give f).map fun s => { s with expectation := .valueOf f }
    else s.switch f
  | some bytes => if f.takesValue then (s.give f).bind (·.value f bytes) else .error .mistake

def letter (s : Scan) (b : UInt8) : Except Invocation Scan :=
  match Flag.ofLetter? b with
  | none => .error .mistake
  | some f => s.switch f

/-- An argument where anything can come. -/
def anything (s : Scan) : Argument → Except Invocation Scan
  | .endOfFlags => .ok { s with expectation := .file }
  | .flag name value =>
    match Flag.ofName? name with
    | none => .error .mistake
    | some f => s.flag f value
  | .letters bs => bs.foldlM letter s
  | .plain bytes => s.file bytes

def step (s : Scan) (bytes : List UInt8) : Except Invocation Scan :=
  match s.expectation with
  | .file => s.file bytes
  | .anything => s.anything (.ofBytes bytes)
  | .valueOf f =>
    match Argument.ofBytes bytes with
    | .plain bytes => s.value f bytes
    | _ => .error .mistake

def finish (s : Scan) : Invocation :=
  match s.expectation with
  | .valueOf _ => .mistake
  | _ =>
    if s.overrides.script.isEmpty then .mistake
    else if Flag.printConfig ∈ s.given then .printConfig s.overrides
    else .run s.overrides

end Scan

def Invocation.read (args : List (List UInt8)) : Invocation :=
  match args.foldlM Scan.step {} with
  | .ok s => s.finish
  | .error invocation => invocation

end ScriptHost

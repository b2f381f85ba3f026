import ScriptHost.Files.FileSystem
import ScriptHost.Outcome
import ScriptHost.Source.Encoding
import ScriptHost.Text.Lowercase

/- A script as it was loaded, and what the host derives from its path. -/
namespace ScriptHost

/-- A script: the path as given, the decoded text, the bytes as read, and whether they were
    UTF-8. -/
structure Script where
  path : Path
  text : String
  raw : List UInt8
  isUtf8 : Bool
  deriving DecidableEq, Repr

namespace Script

def ofText (path : Path) (text : String) : Script :=
  ⟨path, text, Text.utf8 text, true⟩

def displayName (s : Script) : String := s.path.display

/-- The absolute path of the script, free of `.` and `..`; the file need not exist. -/
def fullPath (s : Script) (workingDirectory : Location) : Except HostError Path :=
  match s.path.full? workingDirectory with
  | some p => .ok p
  | none => .error (.system s!"cannot determine full path of {s.path.display}" .emptyPath)

/-- The name for generated headers: the file's stem in lower case. -/
def symbol (s : Script) : Except HostError String :=
  match s.path.fileStem?.bind (Text.ofUtf8? ·) with
  | some stem => .ok (Text.lowercase stem)
  | none => .error (.encoding s!"cannot derive a library name from {s.path.display}")

/-- Refuses a script that was not UTF-8, for a feature that needs it. -/
def checkUtf8 (s : Script) (feature : String) : Except HostError Unit :=
  if s.isUtf8 then .ok () else .error (.encoding s!"{feature} can only be used on UTF8 file")

end Script

inductive LoadError where
  | unreadable (path : Path) (reason : SystemError)
  | invalidEncoding (path : Path) (encoding : Encoding)
  deriving DecidableEq, Repr

namespace LoadError

def message : LoadError → String
  | unreadable path reason => s!"cannot read {path.display}: {reason.message}"
  | invalidEncoding path encoding => s!"{path.display} is not valid {encoding.name}"

/-- The failure as an error of the host. -/
def toHostError : LoadError → HostError
  | unreadable path reason => .system s!"cannot read {path.display}" reason
  | invalidEncoding path encoding => .encoding (invalidEncoding path encoding).message

end LoadError

structure Loaded where
  script : Script
  encoding : Encoding
  deriving DecidableEq, Repr

def FileSystem.load (fs : FileSystem) (path : Path) : Except LoadError Loaded :=
  match fs.read path with
  | .error e => .error (.unreadable path e)
  | .ok raw =>
    match Encoding.decode raw with
    | none => .error (.invalidEncoding path (Encoding.detect raw))
    | some (text, encoding) => .ok ⟨⟨path, text, raw, encoding.isUtf8⟩, encoding⟩

end ScriptHost

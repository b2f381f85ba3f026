import ScriptHost.Text.Utf8

/- Paths: bytes, with `/` between names. A path read as components has no empty
   names, and `.` only in front of a relative path; `..` is kept. The full form of
   a path is absolute and free of `.` and `..`: its components are folded onto the
   working directory, or onto the root, `..` taking back the last name if any. -/
namespace ScriptHost

abbrev Name := List UInt8

structure Path where
  bytes : List UInt8
  deriving DecidableEq, Repr

namespace Path

def slash : UInt8 := 0x2F

def dot : UInt8 := 0x2E

/-- The name of a directory for itself. -/
def here : Name := [dot]

/-- The name of a directory for the one above it. -/
def above : Name := [dot, dot]

def ofText (s : String) : Path := ⟨Text.utf8 s⟩

/-- The path as shown to people: replacement characters stand for what is not UTF-8. -/
def display (p : Path) : String := Text.display p.bytes

def isEmpty (p : Path) : Bool := p.bytes.isEmpty

def isAbsolute (p : Path) : Bool := p.bytes.head? = some slash

def endsInSlash (p : Path) : Bool := p.bytes.getLast? = some slash

/-- What stands between slashes, empty names included. -/
def splitSlash : List UInt8 → List Name
  | [] => [[]]
  | b :: rest =>
    if b = slash then [] :: splitSlash rest
    else
      match splitSlash rest with
      | [] => [[b]]
      | name :: names => (b :: name) :: names

/-- The names between slashes, `.` and `..` among them. -/
def names (p : Path) : List Name :=
  (splitSlash p.bytes).filter (!·.isEmpty)

inductive Component where
  | root
  | current
  | parent
  | normal (name : Name)
  deriving DecidableEq, Repr

def Component.ofName (name : Name) : Component :=
  if name = above then .parent else .normal name

def components (p : Path) : List Component :=
  let front :=
    if p.isAbsolute then [Component.root]
    else if p.names.head? = some here then [.current]
    else []
  front ++ (p.names.filter (· ≠ here)).map Component.ofName

/-- The directory reached from `location` by a component. -/
def Component.follow (location : List Name) : Component → List Name
  | .root => []
  | .current => location
  | .parent => location.dropLast
  | .normal name => location ++ [name]

/-- The absolute path of names from the root. -/
def ofNames (names : List Name) : Path :=
  match names with
  | [] => ⟨[slash]⟩
  | names => ⟨names.flatMap (slash :: ·)⟩

/-- The names of the full form of a path, seen from a working directory. -/
def fullNames (workingDirectory : List Name) (p : Path) : List Name :=
  p.components.foldl Component.follow (if p.isAbsolute then [] else workingDirectory)

/-- The full form of a path; the empty path has none. -/
def full? (workingDirectory : List Name) (p : Path) : Option Path :=
  if p.isEmpty then none else some (ofNames (p.fullNames workingDirectory))

/-- The last name, unless the path ends at the root or in `.` or `..`. -/
def fileName? (p : Path) : Option Name :=
  match p.components.getLast? with
  | some (.normal name) => some name
  | _ => none

/-- A name up to its last dot; a dot in front does not count. -/
def stem (name : Name) : Name :=
  match (name.reverse.dropWhile (· ≠ dot)).drop 1 with
  | [] => name
  | before => before.reverse

/-- The last name without its extension. -/
def fileStem? (p : Path) : Option Name :=
  p.fileName?.map stem

theorem full?_eq_none_iff (workingDirectory : List Name) (p : Path) :
    p.full? workingDirectory = none ↔ p.isEmpty := by
  unfold full?
  split <;> simp_all

end Path
end ScriptHost

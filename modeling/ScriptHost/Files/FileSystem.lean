import ScriptHost.Files.Path
import ScriptHost.Files.SystemError
import ScriptHost.Table

/- A tree of files. A location is the list of names from the root. Every directory
   above a file, above a directory and above the working directory exists. A path
   is walked name by name: each step must start in a directory, and where it leads
   must exist, except for the last name of a file being written.

   The system may refuse what the tree allows, a file that may not be read or created or
   a disk that is full. Its answers are data of the tree, and any are possible. -/
namespace ScriptHost

/-- Where a file or directory is: the names from the root. -/
abbrev Location := List Name

/-- What the system refuses though the tree allows it: to read a file, to create one, or to take
    a content whole. Of that it takes so many bytes first. -/
structure Refusals where
  reading : Path → Option SystemError := fun _ => none
  creating : Path → Option SystemError := fun _ => none
  writing : Path → List UInt8 → Option (Nat × SystemError) := fun _ _ => none

/-- The working directory, the directories besides those implied, the files' contents, and what
    the system refuses. -/
structure FileSystem where
  workingDirectory : Location
  directories : List Location := []
  files : Table Location (List UInt8) := {}
  refusals : Refusals := {}

namespace FileSystem

/-- The longest name a directory takes, in bytes. -/
def maxNameLength : Nat := 255

/-- The longest path the system takes, in bytes. -/
def maxPathLength : Nat := 4095

def isDirectory (fs : FileSystem) (l : Location) : Bool :=
  l.isPrefixOf fs.workingDirectory || fs.directories.any l.isPrefixOf ||
    fs.files.keys.any fun file => l.isPrefixOf file && l ≠ file

def contentAt? (fs : FileSystem) (l : Location) : Option (List UInt8) := fs.files.get? l

/-- The location one name further, whether or not it exists. -/
def step (fs : FileSystem) (l : Location) (name : Name) : Except SystemError Location :=
  if !fs.isDirectory l then .error .notADirectory
  else if name = Path.here then .ok l
  else if name = Path.above then .ok l.dropLast
  else if maxNameLength < name.length then .error .nameTooLong
  else .ok (l ++ [name])

/-- The existing location that names lead to. -/
def walk (fs : FileSystem) (l : Location) : List Name → Except SystemError Location
  | [] => .ok l
  | name :: rest =>
    match fs.step l name with
    | .error e => .error e
    | .ok l' =>
      if fs.isDirectory l' || fs.files.has l' then fs.walk l' rest else .error .notFound

/-- What the system refuses before it looks at the tree. -/
def refused? (p : Path) : Option SystemError :=
  if p.bytes.contains 0 then some .nulByte
  else if maxPathLength < p.bytes.length then some .nameTooLong
  else if p.isEmpty then some .notFound
  else none

/-- Where the walk of a path starts. -/
def start (fs : FileSystem) (p : Path) : Location :=
  if p.isAbsolute then [] else fs.workingDirectory

/-- The content of the file a path names. -/
def read (fs : FileSystem) (p : Path) : Except SystemError (List UInt8) :=
  match (refused? p).or (fs.refusals.reading p) with
  | some e => .error e
  | none =>
    match fs.walk (fs.start p) p.names with
    | .error e => .error e
    | .ok l =>
      match fs.contentAt? l with
      | none => .error .isADirectory
      | some content => if p.endsInSlash then .error .notADirectory else .ok content

/-- The location of the file that writing to a path creates or replaces. -/
def target (fs : FileSystem) (p : Path) : Except SystemError Location :=
  match (refused? p).or (fs.refusals.creating p) with
  | some e => .error e
  | none =>
    match p.names.getLast? with
    | none => .error .isADirectory
    | some name =>
      match fs.walk (fs.start p) p.names.dropLast with
      | .error e => .error e
      | .ok parent =>
        if !fs.isDirectory parent then .error .notADirectory
        else if p.endsInSlash then .error .isADirectory
        else
          match fs.step parent name with
          | .error e => .error e
          | .ok l => if fs.isDirectory l then .error .isADirectory else .ok l

def put (fs : FileSystem) (l : Location) (content : List UInt8) : FileSystem :=
  { fs with files := fs.files.insert l content }

/-- Why a content was not written: its file could not be created, and nothing has changed; or
    the content was cut off, and `left` is the tree with what went into the file. -/
inductive WriteFailure where
  | create (reason : SystemError)
  | write (reason : SystemError) (left : FileSystem)

/-- Creates or replaces the file a path names. -/
def write (fs : FileSystem) (p : Path) (content : List UInt8) :
    Except WriteFailure FileSystem :=
  match fs.target p with
  | .error e => .error (.create e)
  | .ok l =>
    match fs.refusals.writing p content with
    | none => .ok (fs.put l content)
    | some (n, e) => .error (.write e (fs.put l (content.take n)))

def addDirectory (fs : FileSystem) (l : Location) : FileSystem :=
  { fs with directories := fs.directories ++ [l] }

/-- The files that are new or have another content than before. -/
def changes (fs before : FileSystem) : List (Location × List UInt8) :=
  fs.files.entries.filter fun (l, content) => before.contentAt? l ≠ some content

end FileSystem
end ScriptHost

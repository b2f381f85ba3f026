import ScriptHost.CommandLine.Run

/- The program. It takes stock of the files its arguments name, runs as if the system
   refused nothing more, and makes the files, the lines and the exit status come true. -/
namespace ScriptHost

/-- Takes stock of what stands at a location. -/
def takeStockAt (fs : FileSystem) (l : Location) : IO FileSystem := do
  let place := (← IO.currentDir) / (Path.ofNames l).display
  if ← place.isDir then
    return fs.addDirectory l
  else if ← place.pathExists then
    return fs.put l (← IO.FS.readBinFile place).data.toList
  else
    return fs

/-- Takes stock of a path and of every directory above it. -/
def takeStock (fs : FileSystem) (p : Path) : IO FileSystem :=
  let names := p.fullNames fs.workingDirectory
  ((List.range names.length).map fun n => names.take (n + 1)).foldlM takeStockAt fs

def pathsOf : Invocation → List Path
  | .run o => o.script :: [o.bytecode, o.header, o.emitBytecode].filterMap id
  | _ => []

def writeChange (change : Location × List UInt8) : IO Unit :=
  IO.FS.writeBinFile (Path.ofNames change.1).display ⟨change.2.toArray⟩

end ScriptHost

open ScriptHost in
def main (args : List String) : IO UInt32 := do
  let invocation := Invocation.read (args.map Text.utf8)
  let log ← IO.getEnv EnvironmentVariable.log.name
  let workerStack ← IO.getEnv EnvironmentVariable.workerStack.name
  let env : Environment := fun
    | .log => log
    | .workerStack => workerStack
  let here := Path.ofText (← IO.currentDir).toString
  let files ← (pathsOf invocation).foldlM takeStock { workingDirectory := here.names }
  let report := invocation.perform env (fun _ => none) files
  (report.files.changes files).forM writeChange
  report.output.forM IO.println
  report.messages.forM fun line => IO.eprintln line
  return report.status.toUInt32

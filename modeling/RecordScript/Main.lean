import RecordScript.Command.Basic
import RecordScript.Pattern.PlaceEngine

/-!
# The program

Runs the command on the files of the computer. The command itself works on a value that stands for
the file system, so the files it asks for are read into that value first, one after another.
-/

namespace RecordScript

namespace Command

/-- The path that a run of the command has looked for in vain. -/
def missingPath? (fs : FileSystem) (stdin : List UInt8) (o : Options) : Option SourcePath :=
  match (transform fs stdin o).result with
  | .error (.program (.unreadable path .noSuchFile)) => some ⟨path⟩
  | .error (.program (.badImport path position .noSuchFile)) =>
    (SourcePath.mk position.source).parent?.map (·.join ⟨path⟩)
  | .error (.input path .noSuchFile) => some ⟨path⟩
  | _ => none

/-- The names that lead from the root to what stands at a path, if anything stands there. -/
def realNames? (path : String) : IO (Option (List String)) := do
  try
    let real ← IO.FS.realPath path
    return some ((s!"{real}".splitOn "/").filter (· ≠ ""))
  catch _ => return none

/-- The paths of the directories on the way to a path, and the path itself. -/
def wayTo (path : String) : List String :=
  let pieces := path.splitOn "/"
  (List.range pieces.length).map fun n => "/".intercalate (pieces.take (n + 1))

/-- Adds the directories on the way to a path, and the file at its end, as far as they exist. -/
def fetch (fs : FileSystem) (path : String) : IO FileSystem := do
  let mut fs := fs
  for dir in wayTo path do
    match ← realNames? (dir ++ "/.") with
    | some names => fs := { fs with directories := names :: fs.directories }
    | none => pure ()
  match ← realNames? path with
  | some names =>
    try
      let bytes ← IO.FS.readBinFile path
      fs := fs.write names bytes.toList
    catch _ => pure ()
  | none => pure ()
  return fs

/-- Adds what a run of the command asks for, until it asks for nothing new. -/
partial def gather (fs : FileSystem) (stdin : List UInt8) (o : Options)
    (tried : List SourcePath) : IO FileSystem := do
  match missingPath? fs stdin o with
  | some path =>
    if tried.contains path then return fs
    gather (← fetch fs path.text) stdin o (path :: tried)
  | none => return fs

/-- The bytes of the standard input, if the run takes its input from there. -/
def standardInput (o : Options) : IO (List UInt8) := do
  match o.input with
  | some _ => return []
  | none => return (← (← IO.getStdin).readBinToEnd).toList

/-- Runs the command, with the output written to its place. -/
def runOnComputer (o : Options) : IO Report := do
  let here ← realNames? "."
  let fs ← gather { workingDir := here.getD [], files := [] } [] o []
  let fs ← match o.output with
    | some path => fetch fs path
    | none => pure fs
  let report := run fs (← standardInput o) o
  match o.output, report.succeeded with
  | some path, true =>
    match (report.files.locate ⟨path⟩).bind report.files.readNames with
    | .ok bytes => IO.FS.writeBinFile path ⟨bytes.toArray⟩
    | .error _ => pure ()
  | _, _ => pure ()
  return report

end Command

end RecordScript

/-- Does what the arguments ask for, and tells by its result whether that has succeeded. -/
def main (args : List String) : IO UInt32 := do
  let report ← match RecordScript.Command.Request.ofArguments args with
    | .ok (.run o) => RecordScript.Command.runOnComputer o
    | _ => pure (RecordScript.Command.execute { workingDir := [], files := [] } [] args)
  IO.print report.stdout
  IO.eprint report.stderr
  return if report.succeeded then 0 else 1

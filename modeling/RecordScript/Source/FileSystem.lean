import RecordScript.Source.Library
import RecordScript.Text.Utf8

/-!
# File systems

A file system as a value: files and directories under the names that lead to them from the root, and
the directory that relative paths start from. What leads to any of these is a directory too. A path
is walked name by name, and each name must stand in a directory.
-/

namespace RecordScript

/-- Files and directories, and the directory that relative paths start from. -/
structure FileSystem where
  workingDir : List String
  files : List (List String × List UInt8)
  directories : List (List String) := []
deriving Repr

namespace FileSystem

/-- The path of the file or directory that the names lead to. -/
def pathOf (names : List String) : SourcePath := ⟨"/" ++ "/".intercalate names⟩

/-- Whether the names lead to a directory. -/
def isDirectory (fs : FileSystem) (names : List String) : Bool :=
  names.isPrefixOf fs.workingDir || fs.directories.any names.isPrefixOf ||
    fs.files.any fun (file, _) => names.isPrefixOf file && names.length < file.length

/-- Whether the names lead to a file or a directory. -/
def holds (fs : FileSystem) (names : List String) : Bool :=
  (fs.files.lookup names).isSome || fs.isDirectory names

/-- The most bytes that one name may have. -/
def nameLimit : Nat := 255

/-- Fails where the names do not lead to a directory. -/
def requireDirectory (fs : FileSystem) (names : List String) : Except LookupProblem Unit :=
  if fs.isDirectory names then .ok () else .error .notADirectory

/-- The names after one more part of a path. -/
def walkPart (fs : FileSystem) (names : List String) : PathPart → Except LookupProblem (List String)
  | .root => .ok []
  | .here => do
    fs.requireDirectory names
    return names
  | .up => do
    fs.requireDirectory names
    return names.dropLast
  | .name n => do
    fs.requireDirectory names
    if nameLimit < n.utf8ByteSize then throw .nameTooLong
    if fs.holds (names ++ [n]) then return names ++ [n] else throw .noSuchFile

/-- The names that the parts of a path lead to. -/
def walk (fs : FileSystem) (parts : List PathPart) : Except LookupProblem (List String) :=
  parts.foldlM fs.walkPart fs.workingDir

/-- Refuses the paths that no file system can hold. -/
def requireUsable (path : SourcePath) : Except LookupProblem Unit :=
  if path.text.toList.contains '\x00' then .error .zeroInName
  else if path.text = "" then .error .noSuchFile
  else .ok ()

/-- Whether the text of a path ends in a slash. -/
def endsInSlash (path : SourcePath) : Bool := path.text.toList.getLast? = some '/'

/-- Whether the text of a path ends in a single dot behind a slash. -/
def endsInDot (path : SourcePath) : Bool :=
  match path.text.toList.reverse with
  | '.' :: '/' :: _ => true
  | _ => false

/-- The names of the file or directory at a path. -/
def locate (fs : FileSystem) (path : SourcePath) : Except LookupProblem (List String) := do
  requireUsable path
  let names ← fs.walk path.parts
  if endsInSlash path || endsInDot path then fs.requireDirectory names
  return names

/-- The bytes of the file that the names lead to. -/
def readNames (fs : FileSystem) (names : List String) : Except LookupProblem (List UInt8) :=
  match fs.files.lookup names with
  | some bytes => .ok bytes
  | none => .error .isADirectory

/-- The names of the file that is made or replaced when output goes to a path. -/
def locateOutput (fs : FileSystem) (path : SourcePath) : Except LookupProblem (List String) := do
  requireUsable path
  match path.parts.getLast?, endsInDot path with
  | some (.name n), false =>
    let dir ← fs.walk path.parts.dropLast
    fs.requireDirectory dir
    if endsInSlash path then throw .isADirectory
    if nameLimit < n.utf8ByteSize then throw .nameTooLong
    if fs.isDirectory (dir ++ [n]) then throw .isADirectory
    return dir ++ [n]
  | _, _ =>
    let _ ← fs.locate path
    throw .isADirectory

/-- Replaces or adds a file in a list of files. -/
def writeFile (names : List String) (bytes : List UInt8) :
    List (List String × List UInt8) → List (List String × List UInt8)
  | [] => [(names, bytes)]
  | (file, old) :: files =>
    if file = names then (names, bytes) :: files else (file, old) :: writeFile names bytes files

/-- The file system with a file replaced or added. -/
def write (fs : FileSystem) (names : List String) (bytes : List UInt8) : FileSystem :=
  { fs with files := writeFile names bytes fs.files }

/-- The text of the file that the names lead to, as a source. -/
def readSource (fs : FileSystem) (names : List String) : Except LookupProblem Source :=
  match fs.files.lookup names with
  | none => .error .isADirectory
  | some bytes =>
    match Text.decodeUtf8 bytes with
    | .ok text => .ok ⟨pathOf names, text⟩
    | .error _ => .error .notText

/-- The source at a path that is read from a directory. -/
def resolve (fs : FileSystem) (path : String) (dir : Option SourcePath) :
    Except LookupProblem Source :=
  let path := match dir with
    | some dir => dir.join ⟨path⟩
    | none => ⟨path⟩
  match fs.locate path with
  | .ok names => fs.readSource names
  | .error problem => .error problem

theorem id_mem_of_readSource {fs : FileSystem} {names : List String} {source : Source}
    (h : fs.readSource names = .ok source) : source.id ∈ fs.files.map (pathOf ·.1) := by
  simp only [readSource] at h
  split at h
  · cases h
  · rename_i bytes hl
    split at h
    · cases h
      have := List.mem_map_of_mem (f := pathOf) (mem_keys_of_lookup hl)
      simpa using this
    · cases h

/-- The files as a library of sources. -/
def toLibrary (fs : FileSystem) : Library where
  resolve := fs.resolve
  ids := fs.files.map (pathOf ·.1)
  resolve_mem := by
    intro path dir source h
    simp only [resolve] at h
    split at h
    · exact id_mem_of_readSource h
    · cases h

end FileSystem

end RecordScript

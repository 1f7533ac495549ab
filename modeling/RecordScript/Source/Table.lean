import RecordScript.Source.Library

/-!
# Tables of sources

A library in memory: a list of texts under normalized paths. Inserting a text at a path hides an
older text at the same normalized path.
-/

namespace RecordScript

/-- Texts under normalized paths, the latest one first. -/
structure SourceTable where
  entries : List (SourcePath × String)
deriving Repr

namespace SourceTable

/-- The table without sources. -/
def empty : SourceTable := ⟨[]⟩

/-- The table with a text inserted at a path. -/
def insert (t : SourceTable) (path : SourcePath) (text : String) : SourceTable :=
  ⟨(path.normalize, text) :: t.entries⟩

/-- The table of the given texts, inserted in order. -/
def ofList (files : List (String × String)) : SourceTable :=
  files.foldl (fun t (path, text) => t.insert ⟨path⟩ text) empty

/-- The path that identifies what a path means, read from a directory. -/
def idOf (path : String) (dir : Option SourcePath) : SourcePath :=
  ((dir.getD ⟨""⟩).join ⟨path⟩).normalize

/-- The source at a path that is read from a directory. -/
def resolve (t : SourceTable) (path : String) (dir : Option SourcePath) :
    Except LookupProblem Source :=
  let id := idOf path dir
  match t.entries.lookup id with
  | some text => .ok ⟨id, text⟩
  | none => .error (.notInTable id)

/-- The table as a library. -/
def toLibrary (t : SourceTable) : Library where
  resolve := t.resolve
  ids := t.entries.map Prod.fst
  resolve_mem := by
    intro path dir source h
    simp only [resolve] at h
    split at h
    · rename_i hl
      cases h
      exact mem_keys_of_lookup hl
    · cases h

end SourceTable

end RecordScript

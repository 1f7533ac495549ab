import RecordScript.Source.Path

/-!
# Libraries

Where programs come from. A resolver answers a path, read from the directory of the importing
program, with a source. A library is a resolver that answers only finitely many sources, so that
imports cannot go on for ever without coming back.
-/

namespace RecordScript

/-- The text of a program, with the path that identifies it. -/
structure Source where
  id : SourcePath
  text : String
deriving DecidableEq, Repr

/-- Why a library has no source for a path, or why a file cannot be opened. -/
inductive LookupProblem where
  /-- A table has no text at the path. -/
  | notInTable (id : SourcePath)
  | noSuchFile
  | notADirectory
  | isADirectory
  | nameTooLong
  | zeroInName
  | notText
deriving DecidableEq, Repr

namespace LookupProblem

/-- The wording of a problem. -/
def message : LookupProblem → String
  | notInTable id => s!"no program at {id.text}"
  | noSuchFile => "No such file or directory (os error 2)"
  | notADirectory => "Not a directory (os error 20)"
  | isADirectory => "Is a directory (os error 21)"
  | nameTooLong => "File name too long (os error 36)"
  | zeroInName => "file name contained an unexpected NUL byte"
  | notText => "stream did not contain valid UTF-8"

end LookupProblem

/-- What answers a path that is read from a directory, if one is given, with any number of sources.
-/
abbrev Resolver := String → Option SourcePath → Except LookupProblem Source

/-- A library of sources. -/
structure Library where
  /-- The source at a path that is read from a directory, if one is given. -/
  resolve : Resolver
  /-- The paths that identify the sources of the library. -/
  ids : List SourcePath
  resolve_mem : ∀ {path dir source}, resolve path dir = .ok source → source.id ∈ ids

instance : Coe Library Resolver := ⟨Library.resolve⟩

/-- What is found in a list of pairs stands there under the key that was looked up. -/
theorem mem_keys_of_lookup {α β : Type} [BEq α] [LawfulBEq α] {key : α} {b : β}
    {entries : List (α × β)}
    (h : entries.lookup key = some b) : key ∈ entries.map Prod.fst := by
  induction entries with
  | nil => simp at h
  | cons entry rest ih =>
    obtain ⟨k, t⟩ := entry
    by_cases hk : key = k
    · simp [hk]
    · rw [List.lookup_cons, show (key == k) = false by simp [hk]] at h
      rw [List.map_cons]
      exact List.mem_cons_of_mem _ (ih h)

end RecordScript

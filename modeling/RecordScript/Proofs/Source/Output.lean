import Mathlib.Data.List.Basic
import RecordScript.Proofs.Result
import RecordScript.Source.FileSystem

/-!
# Files that are written

What a file system holds after a file has been replaced or added. Where a path leads to a file that
can be read, the output can go to the same path, and then it replaces this file.
-/

namespace RecordScript.FileSystem

open Result

/-! ### Reading what has been written -/

theorem lookup_writeFile_self (names : List String) (bytes : List UInt8)
    (files : List (List String × List UInt8)) :
    (writeFile names bytes files).lookup names = some bytes := by
  induction files with
  | nil => simp [writeFile]
  | cons entry files ih =>
    obtain ⟨file, old⟩ := entry
    rw [writeFile]
    split
    · simp
    · rename_i h
      rw [List.lookup_cons, beq_false_of_ne (Ne.symm h), ih]

theorem lookup_writeFile_of_ne {names other : List String} (h : other ≠ names)
    (bytes : List UInt8) (files : List (List String × List UInt8)) :
    (writeFile names bytes files).lookup other = files.lookup other := by
  induction files with
  | nil => simp [writeFile, h]
  | cons entry files ih =>
    obtain ⟨file, old⟩ := entry
    rw [writeFile]
    split
    · rename_i hfile
      subst hfile
      simp [List.lookup_cons, beq_false_of_ne h]
    · rw [List.lookup_cons, List.lookup_cons, ih]

/-- A file that has been written is read as it was written. -/
@[simp]
theorem readNames_write_self (fs : FileSystem) (names : List String) (bytes : List UInt8) :
    (fs.write names bytes).readNames names = .ok bytes := by
  rw [readNames, write, lookup_writeFile_self]

/-- The other files are read as before. -/
theorem readNames_write_of_ne (fs : FileSystem) {names other : List String} (h : other ≠ names)
    (bytes : List UInt8) : (fs.write names bytes).readNames other = fs.readNames other := by
  rw [readNames, write, lookup_writeFile_of_ne h, ← readNames]

theorem writeFile_writeFile (names : List String) (old new : List UInt8)
    (files : List (List String × List UInt8)) :
    writeFile names new (writeFile names old files) = writeFile names new files := by
  induction files with
  | nil => simp [writeFile]
  | cons entry files ih =>
    obtain ⟨file, bytes⟩ := entry
    by_cases h : file = names
    · simp [writeFile, h]
    · simp [writeFile, h, ih]

/-- Only what is written last stays in a file. -/
@[simp]
theorem write_write (fs : FileSystem) (names : List String) (old new : List UInt8) :
    (fs.write names old).write names new = fs.write names new := by
  rw [write, write, write, writeFile_writeFile]

/-! ### The place of the input as a place for output -/

theorem isDirectory_of_requireDirectory {fs : FileSystem} {names : List String}
    (h : fs.requireDirectory names = .ok ()) : fs.isDirectory names = true := by
  rw [requireDirectory] at h
  split at h
  · assumption
  · cases h

/-- What leads to a directory is a directory. -/
theorem isDirectory_of_prefix {fs : FileSystem} {names longer : List String} (h : names <+: longer)
    (hlonger : fs.isDirectory longer = true) : fs.isDirectory names = true := by
  simp only [isDirectory, Bool.or_eq_true, List.any_eq_true, Bool.and_eq_true, decide_eq_true_eq,
    List.isPrefixOf_iff_prefix] at hlonger ⊢
  rcases hlonger with (hdir | ⟨dir, hdir, hprefix⟩) | ⟨file, hfile, hprefix, hlength⟩
  · exact .inl (.inl (h.trans hdir))
  · exact .inl (.inr ⟨dir, hdir, h.trans hprefix⟩)
  · exact .inr ⟨file, hfile, h.trans hprefix, Nat.lt_of_le_of_lt h.length_le hlength⟩

/-- Each part of a path leads to a directory, unless it is a name. -/
theorem isDirectory_of_walkPart {fs : FileSystem} {names names' : List String} {part : PathPart}
    (hpart : ∀ n, part ≠ .name n) (h : fs.walkPart names part = .ok names') :
    fs.isDirectory names' = true := by
  cases part with
  | root =>
    cases h
    simp [isDirectory]
  | here =>
    simp only [walkPart, bind_eq_ok, pure_eq_ok] at h
    obtain ⟨_, hdir, rfl⟩ := h
    exact isDirectory_of_requireDirectory hdir
  | up =>
    simp only [walkPart, bind_eq_ok, pure_eq_ok] at h
    obtain ⟨_, hdir, rfl⟩ := h
    exact isDirectory_of_prefix (List.dropLast_prefix _) (isDirectory_of_requireDirectory hdir)
  | name n => exact absurd rfl (hpart n)

/-- A name leads from a directory to what stands in it. -/
theorem walkPart_name_eq_ok {fs : FileSystem} {names names' : List String} {n : String}
    (h : fs.walkPart names (.name n) = .ok names') :
    fs.requireDirectory names = .ok () ∧ ¬ nameLimit < n.utf8ByteSize ∧ names' = names ++ [n] := by
  simp only [walkPart, bind_eq_ok] at h
  obtain ⟨_, hdir, h⟩ := h
  split at h
  · cases h
  · rename_i hlimit
    split at h
    · exact ⟨hdir, hlimit, (pure_eq_ok.mp h).symm⟩
    · cases h

/-- A path to a file ends in the name of the file. -/
theorem walk_eq_ok_of_file {fs : FileSystem} {parts : List PathPart} {names : List String}
    (h : fs.walk parts = .ok names) (hfile : fs.isDirectory names = false) :
    ∃ front n dir, parts = front ++ [.name n] ∧ fs.walk front = .ok dir ∧
      fs.walkPart dir (.name n) = .ok names := by
  rcases List.eq_nil_or_concat parts with rfl | ⟨front, part, rfl⟩
  · cases h
    rw [isDirectory, List.isPrefixOf_iff_prefix.mpr List.prefix_rfl] at hfile
    cases hfile
  · rw [walk, List.concat_eq_append, List.foldlM_append, bind_eq_ok] at h
    obtain ⟨dir, hdir, hpart⟩ := h
    rw [List.foldlM_cons, bind_eq_ok] at hpart
    obtain ⟨names', hpart, hnames⟩ := hpart
    obtain rfl : names' = names := by simpa using hnames
    cases part with
    | name n => exact ⟨front, n, dir, List.concat_eq_append, hdir, hpart⟩
    | root | here | up =>
      have hisDir := isDirectory_of_walkPart (fun n hn => by cases hn) hpart
      rw [hfile] at hisDir
      cases hisDir

/-- Output that goes to the path of a file goes to this file. -/
theorem locateOutput_of_locate {fs : FileSystem} {path : SourcePath} {names : List String}
    (h : fs.locate path = .ok names) (hfile : fs.isDirectory names = false) :
    fs.locateOutput path = .ok names := by
  simp only [locate, bind_eq_ok] at h
  obtain ⟨_, husable, names', hwalk, h⟩ := h
  have hends : names' = names ∧ endsInSlash path = false ∧ endsInDot path = false := by
    split at h
    · obtain ⟨_, hdir, hnames⟩ := bind_eq_ok.mp h
      obtain rfl := pure_eq_ok.mp hnames
      rw [isDirectory_of_requireDirectory hdir] at hfile
      cases hfile
    · rename_i hends
      simp only [Bool.or_eq_true, not_or, Bool.not_eq_true] at hends
      exact ⟨pure_eq_ok.mp h, hends⟩
  obtain ⟨rfl, hslash, hdot⟩ := hends
  obtain ⟨front, n, dir, hparts, hfront, hname⟩ := walk_eq_ok_of_file hwalk hfile
  obtain ⟨hdir, hlimit, rfl⟩ := walkPart_name_eq_ok hname
  rw [locateOutput, husable, ok_bind, hparts, hdot]
  simp [hfront, hdir, hslash, hlimit, hfile, pure, Except.pure]

end RecordScript.FileSystem

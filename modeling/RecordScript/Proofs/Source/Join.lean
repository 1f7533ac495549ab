import Mathlib.Data.List.TakeWhile
import RecordScript.Proofs.Source.Place

/-!
# Files in directories

A path that is read from a directory is normalized by walking on from the normalized directory, so of
the directory only what it normalizes to counts. A file name behind a directory adds its part to those
of the directory, and the directory of the file has these parts again, however it is spelled.
-/

namespace RecordScript

namespace SourcePath

variable {p q dir : SourcePath}

/-- The parts between the slashes of a text. -/
def partsBetween (cs : List Char) : List PathPart := (pieces cs).filterMap PathPart.ofPiece?

theorem piecesAfter_append (piece cs ds : List Char) :
    piecesAfter piece (cs ++ '/' :: ds) = piecesAfter piece cs ++ pieces ds := by
  induction cs generalizing piece with
  | nil => rfl
  | cons c cs ih =>
    rw [List.cons_append, piecesAfter, piecesAfter]
    split
    · rw [ih, List.cons_append]
    · exact ih _

theorem partsBetween_append (cs ds : List Char) :
    partsBetween (cs ++ '/' :: ds) = partsBetween cs ++ partsBetween ds := by
  rw [partsBetween, pieces, piecesAfter_append, List.filterMap_append]
  rfl

theorem partsBetween_slash (cs : List Char) : partsBetween ('/' :: cs) = partsBetween cs :=
  partsBetween_append [] cs

theorem partsBetween_of_isPiece {cs : List Char} (h : IsPiece cs) :
    partsBetween cs = [.ofPiece cs] := by
  rw [partsBetween, pieces, piecesAfter_of_no_slash h.no_slash]
  exact List.filterMap_cons_some (PathPart.ofPiece?_of_isPiece h)

theorem parts_eq (p : SourcePath) :
    p.parts = (splitFront p.text.toList).1 ++ partsBetween (splitFront p.text.toList).2 := rfl

/-! ### Fronts -/

/-- The text begins neither with a slash nor with a single dot. -/
structure HasNoFront (cs : List Char) : Prop where
  ne_slash : ∀ ds, cs ≠ '/' :: ds
  ne_dot : cs ≠ ['.']
  ne_dot_slash : ∀ ds, cs ≠ '.' :: '/' :: ds

theorem HasNoFront.splitFront_eq {cs : List Char} (h : HasNoFront cs) : splitFront cs = ([], cs) := by
  rw [splitFront.eq_def]
  split
  · exact absurd rfl (h.ne_slash _)
  · exact absurd rfl h.ne_dot
  · exact absurd rfl (h.ne_dot_slash _)
  · rfl

theorem splitFront_cases (cs : List Char) :
    (∃ ds, cs = '/' :: ds ∧ splitFront cs = ([.root], ds)) ∨
      (∃ ds, cs = '.' :: ds ∧ (ds = [] ∨ ∃ more, ds = '/' :: more) ∧
        splitFront cs = ([.here], ds)) ∨
      HasNoFront cs ∧ splitFront cs = ([], cs) := by
  rw [splitFront.eq_def]
  split
  · exact .inl ⟨_, rfl, rfl⟩
  · exact .inr (.inl ⟨[], rfl, .inl rfl, rfl⟩)
  · exact .inr (.inl ⟨_, rfl, .inr ⟨_, rfl⟩, rfl⟩)
  · rename_i hslash hdot hdotSlash
    exact .inr (.inr ⟨⟨hslash, hdot, hdotSlash⟩, rfl⟩)

theorem HasNoFront.append {cs : List Char} (h : HasNoFront cs) (hne : cs ≠ []) (ds : List Char) :
    HasNoFront (cs ++ '/' :: ds) := by
  rcases cs with _ | ⟨c, _ | ⟨d, cs⟩⟩
  · exact absurd rfl hne
  · refine ⟨?_, by simp, ?_⟩
    · rintro es ⟨⟩
      exact h.ne_slash [] rfl
    · rintro es ⟨⟩
      exact h.ne_dot rfl
  · refine ⟨?_, by simp, ?_⟩
    · rintro es ⟨⟩
      exact h.ne_slash _ rfl
    · rintro es ⟨⟩
      exact h.ne_dot_slash _ rfl

/-- What a text begins with is decided before a later slash. -/
theorem splitFront_append {cs : List Char} (h : cs ≠ []) (ds : List Char) :
    splitFront (cs ++ '/' :: ds) = ((splitFront cs).1, (splitFront cs).2 ++ '/' :: ds) := by
  rcases splitFront_cases cs with ⟨rest, rfl, -⟩ | ⟨rest, rfl, rfl | ⟨more, rfl⟩, -⟩ | ⟨hno, hsplit⟩
  · rfl
  · rfl
  · rfl
  · rw [(hno.append h ds).splitFront_eq, hsplit]

/-! ### Joining -/

theorem isAbsolute_eq_false_iff : p.isAbsolute = false ↔ ∀ ds, p.text.toList ≠ '/' :: ds := by
  rw [isAbsolute, decide_eq_false_iff_not, List.head?_eq_some_iff, not_exists]

/-- A relative path has its parts between slashes, perhaps behind a single dot. -/
theorem parts_of_isAbsolute_eq_false (h : p.isAbsolute = false) :
    p.parts = partsBetween p.text.toList ∨ p.parts = .here :: partsBetween p.text.toList := by
  rw [parts_eq]
  rcases splitFront_cases p.text.toList with
    ⟨ds, hds, -⟩ | ⟨ds, hds, hslash, hsplit⟩ | ⟨-, hsplit⟩
  · exact absurd hds (isAbsolute_eq_false_iff.mp h ds)
  · have hdot : partsBetween ('.' :: ds) = partsBetween ds := by
      rcases hslash with rfl | ⟨more, rfl⟩
      · rfl
      · rw [partsBetween_slash]
        exact partsBetween_append ['.'] more
    rw [hsplit, hds, hdot]
    exact .inr rfl
  · rw [hsplit]
    exact .inl rfl

/-- A relative path adds its parts to those of the directory; a dot at its front counts only where
there is no directory. -/
theorem parts_join_of_ne (hq : q.isAbsolute = false) (hdir : dir.text ≠ "") :
    (dir.join q).parts = dir.parts ++ partsBetween q.text.toList := by
  have hne : dir.text.toList ≠ [] := by simpa using hdir
  rw [join, hq, if_neg Bool.false_ne_true]
  by_cases hslash : dir.text.toList.getLast? = some '/'
  · -- the slash at the end of the directory stands between the two
    obtain ⟨cs, hcs⟩ := List.getLast?_eq_some_iff.mp hslash
    rw [if_pos (.inr hslash), parts_eq, parts_eq, String.toList_append, hcs, List.append_assoc,
      List.singleton_append]
    cases cs with
    | nil => rfl
    | cons c cs =>
      rw [splitFront_append (List.cons_ne_nil _ _), splitFront_append (List.cons_ne_nil _ _),
        partsBetween_append, partsBetween_append]
      simp [partsBetween, pieces, piecesAfter, PathPart.ofPiece?]
  · have htext : (dir.text ++ "/" ++ q.text).toList = dir.text.toList ++ '/' :: q.text.toList := by
      simp
    rw [if_neg (not_or.mpr ⟨hdir, hslash⟩), parts_eq, parts_eq, htext, splitFront_append hne,
      partsBetween_append, List.append_assoc]

theorem join_of_eq_empty (hq : q.isAbsolute = false) (hdir : dir.text = "") : dir.join q = q := by
  rw [join, hq, if_neg Bool.false_ne_true, if_pos (.inl hdir), hdir, String.empty_append]

/-- A path that is read from a directory is normalized by going on from the normalized directory. -/
theorem normalize_join (hq : q.isAbsolute = false) :
    (dir.join q).normalize = q.parts.foldl normalizePart dir.normalize := by
  by_cases hdir : dir.text = ""
  · have hnormal : dir.normalize = ⟨""⟩ := by
      obtain ⟨text⟩ := dir
      obtain rfl : text = "" := hdir
      rfl
    rw [join_of_eq_empty hq hdir, hnormal, normalize]
  · rw [normalize, parts_join_of_ne hq hdir, List.foldl_append, ← normalize]
    rcases parts_of_isAbsolute_eq_false hq with hparts | hparts
    · rw [hparts]
    · rw [hparts, List.foldl_cons, normalizePart]

/-- Of a directory only what it normalizes to counts for the paths that are read from it. -/
theorem normalize_join_congr {dir' : SourcePath} (h : dir.normalize = dir'.normalize)
    (q : SourcePath) : (dir.join q).normalize = (dir'.join q).normalize := by
  cases hq : q.isAbsolute with
  | true => rw [join, join, if_pos hq, if_pos hq]
  | false => rw [normalize_join hq, normalize_join hq, h]

/-! ### Parents -/

theorem HasNoFront.of_prefix {cs ks : List Char} (h : HasNoFront cs) (hks : ks <+: cs)
    (hdot : ks ≠ ['.']) : HasNoFront ks := by
  obtain ⟨tail, rfl⟩ := hks
  refine ⟨?_, hdot, ?_⟩
  · rintro ds rfl
    exact h.ne_slash _ rfl
  · rintro ds rfl
    exact h.ne_dot_slash _ rfl

/-- A beginning of what follows the front of a text follows the same front. -/
theorem splitFront_of_prefix {cs ks : List Char} (hks : ks <+: (splitFront cs).2)
    (hdot : ks ≠ ['.']) :
    splitFront ((String.join ((splitFront cs).1.map PathPart.spelled)).toList ++ ks) =
      ((splitFront cs).1, ks) := by
  rcases splitFront_cases cs with ⟨ds, -, hsplit⟩ | ⟨ds, -, hslash, hsplit⟩ | ⟨hno, hsplit⟩
  · rw [hsplit]
    simp [String.join, PathPart.spelled, splitFront]
  · rw [hsplit] at hks ⊢
    have hstart : ks = [] ∨ ∃ more, ks = '/' :: more := by
      rcases ks with _ | ⟨k, ks⟩
      · exact .inl rfl
      · rcases hslash with rfl | ⟨more, rfl⟩
        · exact absurd hks (by simp)
        · obtain ⟨rfl, -⟩ := List.cons_prefix_cons.mp hks
          exact .inr ⟨ks, rfl⟩
    rcases hstart with rfl | ⟨more, rfl⟩ <;> simp [String.join, PathPart.spelled, splitFront]
  · rw [hsplit] at hks ⊢
    simpa [String.join] using (hno.of_prefix hks hdot).splitFront_eq

/-- Trimming takes off no parts. -/
theorem partsBetween_trimBack (cs : List Char) :
    partsBetween (trimBack cs).reverse = partsBetween cs.reverse := by
  have hnone : ∀ ds : List Char, partsBetween (ds ++ ['/']) = partsBetween ds ∧
      partsBetween (ds ++ ['/', '.']) = partsBetween ds := by
    intro ds
    rw [partsBetween_append ds [], partsBetween_append ds ['.']]
    simp [partsBetween, pieces, piecesAfter, PathPart.ofPiece?]
  fun_induction trimBack cs with
  | case1 cs ih => rw [ih, List.reverse_cons, (hnone _).1]
  | case2 cs ih =>
    rw [ih, List.reverse_cons, List.reverse_cons, List.append_assoc, List.singleton_append,
      (hnone _).2]
  | case3 => rfl
  | case4 => rfl

theorem trimBack_suffix (cs : List Char) : trimBack cs <:+ cs := by
  fun_induction trimBack cs with
  | case1 cs ih => exact ih.trans (List.suffix_cons _ _)
  | case2 cs ih => exact ih.trans (⟨['.', '/'], rfl⟩)
  | case3 => exact List.nil_suffix
  | case4 => exact List.suffix_rfl

/-- What is left after trimming ends in a part, unless nothing is left. -/
theorem hasNoFront_trimBack (cs : List Char) : HasNoFront (trimBack cs) := by
  fun_induction trimBack cs with
  | case1 cs ih => exact ih
  | case2 cs ih => exact ih
  | case3 => exact ⟨by simp, by simp, by simp⟩
  | case4 cs hslash hdotSlash hdot => exact ⟨hslash, hdot, hdotSlash⟩

/-- A text that ends in a part, in reverse order, has this part behind those that come before the
last slash. -/
theorem HasNoFront.exists_partsBetween_eq {back : List Char} (h : HasNoFront back) (hne : back ≠ []) :
    ∃ piece, IsPiece piece ∧ partsBetween back.reverse =
      partsBetween ((back.dropWhile (· ≠ '/')).drop 1).reverse ++ [.ofPiece piece] := by
  have hback : back = back.takeWhile (· ≠ '/') ++ back.dropWhile (· ≠ '/') :=
    List.takeWhile_append_dropWhile.symm
  have hslash : '/' ∉ back.takeWhile (· ≠ '/') := fun hmem => by
    simpa using List.mem_takeWhile_imp hmem
  have htail : back.dropWhile (· ≠ '/') = [] ∨ ∃ more, back.dropWhile (· ≠ '/') = '/' :: more := by
    have hhead := List.head?_dropWhile_not (· ≠ '/') back
    cases htail : back.dropWhile (· ≠ '/') with
    | nil => exact .inl rfl
    | cons c more =>
      rw [htail] at hhead
      have hc : c = '/' := by simpa using hhead
      exact .inr ⟨more, by rw [hc]⟩
  -- in reverse order the last part is all that comes before the first slash
  generalize back.takeWhile (· ≠ '/') = word at hback hslash
  generalize back.dropWhile (· ≠ '/') = tail at hback htail
  subst hback
  have hpiece : IsPiece word.reverse := by
    refine ⟨?_, by simpa using hslash, ?_⟩
    · intro hnil
      obtain rfl := List.reverse_eq_nil_iff.mp hnil
      rcases htail with rfl | ⟨more, rfl⟩
      · exact hne rfl
      · exact h.ne_slash more rfl
    · intro hdot
      obtain rfl : word = ['.'] := by simpa using hdot
      rcases htail with rfl | ⟨more, rfl⟩
      · exact h.ne_dot rfl
      · exact h.ne_dot_slash more rfl
  refine ⟨word.reverse, hpiece, ?_⟩
  rcases htail with rfl | ⟨more, rfl⟩
  · rw [List.append_nil, partsBetween_of_isPiece hpiece]
    rfl
  · rw [List.reverse_append, List.reverse_cons, List.append_assoc, List.singleton_append,
      partsBetween_append, partsBetween_of_isPiece hpiece, List.drop_one, List.tail_cons]

/-- The parent of a path has all parts but the last one. -/
theorem exists_parts_eq_of_parent? (h : p.parent? = some q) : ∃ last, p.parts = q.parts ++ [last] := by
  rw [parent?] at h
  dsimp only at h
  have hparts := p.parts_eq
  rw [← List.reverse_reverse (splitFront p.text.toList).2, ← partsBetween_trimBack] at hparts
  have hno := hasNoFront_trimBack (splitFront p.text.toList).2.reverse
  have hsuffix := trimBack_suffix (splitFront p.text.toList).2.reverse
  split at h
  · rename_i hnil
    split at h
    · rename_i hhere
      obtain rfl := Option.some.inj h
      rw [hnil, hhere] at hparts
      exact ⟨.here, hparts⟩
    · cases h
  · rename_i back hback
    obtain rfl := Option.some.inj h
    obtain ⟨piece, -, hpiece⟩ := hno.exists_partsBetween_eq hback
    refine ⟨.ofPiece piece, ?_⟩
    rw [hparts, hpiece, ← List.append_assoc]
    generalize hleft : ((trimBack (splitFront p.text.toList).2.reverse).dropWhile (· ≠ '/')).drop 1 =
      left
    -- what is left begins like the path, so it is split behind the same front
    have hkept : (trimBack left).reverse <+: (splitFront p.text.toList).2 := by
      have hdropped : left <:+ (splitFront p.text.toList).2.reverse :=
        hleft ▸ (List.drop_suffix 1 _).trans ((List.dropWhile_suffix _).trans hsuffix)
      simpa using ((trimBack_suffix left).trans hdropped).reverse
    have hdot : (trimBack left).reverse ≠ ['.'] := by
      simpa using (hasNoFront_trimBack left).ne_dot
    rw [parts_eq ⟨_⟩, String.toList_append, String.toList_ofList, splitFront_of_prefix hkept hdot,
      partsBetween_trimBack]

/-- Only a path without parts and the root have no parent. -/
theorem parts_eq_of_parent?_eq_none (h : p.parent? = none) : p.parts = [] ∨ p.parts = [.root] := by
  rw [parent?] at h
  dsimp only at h
  have hparts := p.parts_eq
  rw [← List.reverse_reverse (splitFront p.text.toList).2, ← partsBetween_trimBack] at hparts
  split at h
  · rename_i hnil
    rw [hnil] at hparts
    rcases splitFront_cases p.text.toList with ⟨_, -, hsplit⟩ | ⟨_, -, -, hsplit⟩ | ⟨-, hsplit⟩
    · rw [hsplit] at hparts
      exact .inr hparts
    · simp [hsplit] at h
    · rw [hsplit] at hparts
      exact .inl hparts
  · cases h

/-! ### Files -/

/-- The text can stand as the name of a file: it has no slash, and is neither empty nor one or two
dots. -/
def IsFileName (name : String) : Prop := IsPiece name.toList ∧ name.toList ≠ ['.', '.']

theorem isAbsolute_of_isFileName {name : String} (h : IsFileName name) :
    (SourcePath.mk name).isAbsolute = false := by
  rw [isAbsolute_eq_false_iff]
  intro ds hds
  exact h.1.no_slash (hds ▸ List.mem_cons_self)

/-- A file has the parts of its directory and its name. -/
theorem parts_join_of_isFileName {name : String} (h : IsFileName name) (dir : SourcePath) :
    (dir.join ⟨name⟩).parts = dir.parts ++ [.name name] := by
  have hrelative := isAbsolute_of_isFileName h
  obtain ⟨hpiece, hups⟩ := h
  have hname : partsBetween name.toList = [.name name] := by
    rw [partsBetween_of_isPiece hpiece, PathPart.ofPiece, if_neg hups, String.ofList_toList]
  by_cases hdir : dir.text = ""
  · have hempty : dir.parts = [] := by
      obtain ⟨text⟩ := dir
      obtain rfl : text = "" := hdir
      rfl
    have hno : HasNoFront name.toList := by
      refine ⟨isAbsolute_eq_false_iff.mp hrelative, hpiece.ne_dot, ?_⟩
      intro ds hds
      exact hpiece.no_slash (hds ▸ List.mem_cons_of_mem _ List.mem_cons_self)
    rw [join_of_eq_empty hrelative hdir, parts_eq, hno.splitFront_eq, hname, hempty]
  · rw [parts_join_of_ne hrelative hdir, hname]

/-- A file is normalized by normalizing its directory. -/
theorem normalize_join_of_isFileName {name : String} (h : IsFileName name) (dir : SourcePath) :
    (dir.join ⟨name⟩).normalize = dir.normalize.join ⟨name⟩ := by
  have hparts := parts_join_of_isFileName h ⟨""⟩
  rw [join_of_eq_empty (isAbsolute_of_isFileName h) rfl] at hparts
  rw [normalize_join (isAbsolute_of_isFileName h), hparts]
  rfl

/-- The directory of a file is, up to spelling, the one that it was read from. -/
theorem exists_parent?_join {name : String} (h : IsFileName name) (dir : SourcePath) :
    ∃ parent, (dir.join ⟨name⟩).parent? = some parent ∧ parent.normalize = dir.normalize := by
  have hparts := parts_join_of_isFileName h dir
  cases hparent : (dir.join ⟨name⟩).parent? with
  | none =>
    -- the last part is a name
    rcases parts_eq_of_parent?_eq_none hparent with hnone | hnone
    · simp [hnone] at hparts
    · simp [hnone, List.singleton_eq_append_iff] at hparts
  | some parent =>
    obtain ⟨last, hlast⟩ := exists_parts_eq_of_parent? hparent
    have hsame : parent.parts = dir.parts := (List.append_inj' (hlast.symm.trans hparts) rfl).1
    exact ⟨parent, rfl, by rw [normalize, hsame, normalize]⟩

end SourcePath

end RecordScript

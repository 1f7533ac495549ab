import RecordScript.Source.Path

/-!
# Normalized paths

A normalized path is its parts joined by single slashes: nothing else is left of the way it was
spelled. So two normalized paths with the same parts have the same text, and comparing the texts of
normalized paths is comparing the paths.
-/

namespace RecordScript

/-- The characters can stand between two slashes as a part of a normalized path. -/
structure IsPiece (cs : List Char) : Prop where
  ne_nil : cs ≠ []
  no_slash : '/' ∉ cs
  ne_dot : cs ≠ ['.']

/-- The part of a path that stands for the characters between two slashes. -/
def PathPart.ofPiece (cs : List Char) : PathPart :=
  if cs = ['.', '.'] then .up else .name (String.ofList cs)

theorem PathPart.ofPiece_inj {cs ds : List Char} (h : ofPiece cs = ofPiece ds) : cs = ds := by
  rw [ofPiece, ofPiece] at h
  split at h <;> split at h
  · simp_all
  · cases h
  · cases h
  · exact String.ofList_injective (PathPart.name.inj h)

theorem PathPart.ofPiece_ne_root (cs : List Char) : ofPiece cs ≠ .root := by
  rw [ofPiece]
  split <;> simp

theorem PathPart.ofPiece?_of_isPiece {cs : List Char} (h : IsPiece cs) :
    ofPiece? cs = some (ofPiece cs) := by
  rw [ofPiece?.eq_def]
  split
  · exact absurd rfl h.ne_nil
  · exact absurd rfl h.ne_dot
  · rfl
  · rename_i hne
    rw [ofPiece, if_neg hne]

theorem PathPart.isPiece_of_ofPiece? {cs : List Char} {part : PathPart} (hslash : '/' ∉ cs)
    (h : ofPiece? cs = some part) : IsPiece cs ∧ ofPiece cs = part := by
  have hpiece : IsPiece cs := by
    refine ⟨?_, hslash, ?_⟩
    · rintro rfl
      cases h
    · rintro rfl
      cases h
  exact ⟨hpiece, Option.some.inj ((ofPiece?_of_isPiece hpiece).symm.trans h)⟩

namespace SourcePath

/-- Pieces with single slashes between them. -/
def joinPieces : List (List Char) → List Char
  | [] => []
  | [piece] => piece
  | piece :: next :: rest => piece ++ '/' :: joinPieces (next :: rest)

/-- The path of the pieces, from the root if it is absolute. -/
def ofPieces (absolute : Bool) (ps : List (List Char)) : SourcePath :=
  ⟨String.ofList ((if absolute then ['/'] else []) ++ joinPieces ps)⟩

theorem joinPieces_snoc {ps : List (List Char)} (h : ps ≠ []) (cs : List Char) :
    joinPieces (ps ++ [cs]) = joinPieces ps ++ '/' :: cs := by
  induction ps with
  | nil => exact absurd rfl h
  | cons piece rest ih =>
    cases rest with
    | nil => rfl
    | cons next rest =>
      have ih := ih (List.cons_ne_nil _ _)
      simp only [List.cons_append] at ih
      simp [joinPieces, ih]

/-! ### Reading pieces -/

theorem piecesAfter_of_no_slash {piece cs : List Char} (h : '/' ∉ cs) :
    piecesAfter piece cs = [piece.reverse ++ cs] := by
  induction cs generalizing piece with
  | nil => simp [piecesAfter]
  | cons c cs ih =>
    obtain ⟨hc, hcs⟩ := not_or.mp (mt List.mem_cons.mpr h)
    rw [piecesAfter, if_neg (Ne.symm hc), ih hcs]
    simp

theorem piecesAfter_append_slash {piece cs rest : List Char} (h : '/' ∉ cs) :
    piecesAfter piece (cs ++ '/' :: rest) = (piece.reverse ++ cs) :: piecesAfter [] rest := by
  induction cs generalizing piece with
  | nil => simp [piecesAfter]
  | cons c cs ih =>
    obtain ⟨hc, hcs⟩ := not_or.mp (mt List.mem_cons.mpr h)
    rw [List.cons_append, piecesAfter, if_neg (Ne.symm hc), ih hcs]
    simp

/-- No piece that is read holds a slash. -/
theorem no_slash_of_mem_piecesAfter {piece cs : List Char} (hpiece : '/' ∉ piece) :
    ∀ x ∈ piecesAfter piece cs, '/' ∉ x := by
  induction cs generalizing piece with
  | nil => simpa [piecesAfter] using hpiece
  | cons c cs ih =>
    rw [piecesAfter]
    split
    · exact List.forall_mem_cons.mpr ⟨by simpa using hpiece, ih (by simp)⟩
    · rename_i hc
      exact ih (by simp [Ne.symm hc, hpiece])

variable {ps : List (List Char)}

theorem filterMap_ofPiece?_of_isPiece (h : ∀ cs ∈ ps, IsPiece cs) :
    ps.filterMap PathPart.ofPiece? = ps.map PathPart.ofPiece := by
  induction ps with
  | nil => rfl
  | cons cs ps ih =>
    obtain ⟨hcs, hps⟩ := List.forall_mem_cons.mp h
    rw [List.filterMap_cons_some (PathPart.ofPiece?_of_isPiece hcs), ih hps, List.map_cons]

/-- The pieces of joined pieces are read as their parts. -/
theorem parts_joinPieces (h : ∀ cs ∈ ps, IsPiece cs) :
    (pieces (joinPieces ps)).filterMap PathPart.ofPiece? = ps.map PathPart.ofPiece := by
  rw [← filterMap_ofPiece?_of_isPiece h, pieces]
  induction ps with
  | nil => rfl
  | cons cs rest ih =>
    obtain ⟨hcs, hrest⟩ := List.forall_mem_cons.mp h
    cases rest with
    | nil => rw [joinPieces, piecesAfter_of_no_slash hcs.no_slash, List.reverse_nil, List.nil_append]
    | cons next rest =>
      have hpart := PathPart.ofPiece?_of_isPiece hcs
      rw [joinPieces, piecesAfter_append_slash hcs.no_slash, List.reverse_nil, List.nil_append,
        List.filterMap_cons_some hpart, ih hrest, List.filterMap_cons_some hpart]

theorem splitFront_joinPieces (h : ∀ cs ∈ ps, IsPiece cs) :
    splitFront (joinPieces ps) = ([], joinPieces ps) := by
  cases ps with
  | nil => rfl
  | cons cs rest =>
    obtain ⟨hcs, -⟩ := List.forall_mem_cons.mp h
    -- the first piece neither starts with a slash nor is a dot
    have hstart : joinPieces (cs :: rest) = cs ∨
        ∃ more, joinPieces (cs :: rest) = cs ++ '/' :: more := by
      cases rest with
      | nil => exact .inl rfl
      | cons next rest => exact .inr ⟨_, rfl⟩
    obtain ⟨hne, hslash, hdot⟩ := hcs
    rw [splitFront.eq_def]
    rcases cs with _ | ⟨c, _ | ⟨d, cs⟩⟩
    · exact absurd rfl hne
    · rcases hstart with hstart | ⟨more, hstart⟩ <;> rw [hstart] <;> split <;> simp_all
    · rcases hstart with hstart | ⟨more, hstart⟩ <;> rw [hstart] <;> split <;> simp_all

theorem splitFront_ofPieces (absolute : Bool) (h : ∀ cs ∈ ps, IsPiece cs) :
    splitFront (ofPieces absolute ps).text.toList =
      (if absolute then [.root] else [], joinPieces ps) := by
  cases absolute with
  | true => simp [ofPieces, splitFront]
  | false => simpa [ofPieces] using splitFront_joinPieces h

/-- The parts of a path that is made of pieces. -/
theorem parts_ofPieces (absolute : Bool) (h : ∀ cs ∈ ps, IsPiece cs) :
    (ofPieces absolute ps).parts =
      (if absolute then [.root] else []) ++ ps.map PathPart.ofPiece := by
  rw [parts, splitFront_ofPieces absolute h]
  simp only [parts_joinPieces h]

/-- A path that is made of pieces is determined by its parts. -/
theorem ofPieces_eq_of_same {absolute absolute' : Bool} {qs : List (List Char)}
    (hp : ∀ cs ∈ ps, IsPiece cs) (hq : ∀ cs ∈ qs, IsPiece cs)
    (h : (ofPieces absolute ps).same (ofPieces absolute' qs) = true) :
    ofPieces absolute ps = ofPieces absolute' qs := by
  rw [same, decide_eq_true_eq, parts_ofPieces absolute hp, parts_ofPieces absolute' hq] at h
  have hpieces : ∀ {ps qs : List (List Char)},
      ps.map PathPart.ofPiece = qs.map PathPart.ofPiece → ps = qs :=
    fun h => List.map_inj_right (fun _ _ => PathPart.ofPiece_inj) |>.mp h
  have hroot : ∀ (qs : List (List Char)) (rest : List PathPart),
      .root :: rest ≠ qs.map PathPart.ofPiece := by
    intro qs rest heq
    have hmem : PathPart.root ∈ qs.map PathPart.ofPiece := heq ▸ List.mem_cons_self
    obtain ⟨cs, -, hcs⟩ := List.mem_map.mp hmem
    exact PathPart.ofPiece_ne_root cs hcs
  cases absolute <;> cases absolute'
  · have hps : ps = qs := hpieces (by simpa using h)
    rw [hps]
  · exact absurd h.symm (hroot _ _)
  · exact absurd h (hroot _ _)
  · have hps : ps = qs := hpieces (by simpa using h)
    rw [hps]

/-! ### Steps of normalizing -/

theorem trimBack_piece {cs tail : List Char} (h : IsPiece cs)
    (htail : tail = [] ∨ ∃ more, tail = '/' :: more) :
    trimBack (cs.reverse ++ tail) = cs.reverse ++ tail := by
  have hslash : '/' ∉ cs.reverse := by simpa using h.no_slash
  have hdot : cs.reverse ≠ ['.'] := fun heq => h.ne_dot (by simpa using heq)
  have hne : cs.reverse ≠ [] := by simpa using h.ne_nil
  rw [trimBack.eq_def]
  rcases hcs : cs.reverse with _ | ⟨c, _ | ⟨d, ds⟩⟩
  · exact absurd hcs hne
  · rcases htail with rfl | ⟨more, rfl⟩ <;> split <;> simp_all
  · split <;> simp_all

theorem trimBack_joinPieces (h : ∀ cs ∈ ps, IsPiece cs) :
    trimBack (joinPieces ps).reverse = (joinPieces ps).reverse := by
  rcases List.eq_nil_or_concat ps with rfl | ⟨init, last, rfl⟩
  · rfl
  · have hlast := h last (by simp)
    rw [List.concat_eq_append]
    rcases init with _ | ⟨first, init⟩
    · simpa [joinPieces] using trimBack_piece hlast (.inl rfl)
    · rw [joinPieces_snoc (List.cons_ne_nil _ _)]
      simpa using trimBack_piece hlast (.inr ⟨_, rfl⟩)

theorem parent?_ofPieces_nil (absolute : Bool) : (ofPieces absolute []).parent? = none := by
  cases absolute <;> rfl

/-- The path without its last piece. -/
theorem parent?_ofPieces_snoc (absolute : Bool) {cs : List Char} (h : ∀ x ∈ ps, IsPiece x)
    (hcs : IsPiece cs) : (ofPieces absolute (ps ++ [cs])).parent? = some (ofPieces absolute ps) := by
  have hall : ∀ x ∈ ps ++ [cs], IsPiece x := by simpa [or_imp, forall_and] using ⟨h, hcs⟩
  have hback : ∃ tail, (joinPieces (ps ++ [cs])).reverse = cs.reverse ++ tail ∧
      (tail.dropWhile (· ≠ '/')).drop 1 = (joinPieces ps).reverse := by
    rcases ps with _ | ⟨first, rest⟩
    · exact ⟨[], by simp [joinPieces], rfl⟩
    · rw [joinPieces_snoc (List.cons_ne_nil _ _)]
      exact ⟨'/' :: (joinPieces (first :: rest)).reverse, by simp, by simp⟩
  obtain ⟨tail, hreverse, htail⟩ := hback
  have htrim := trimBack_joinPieces hall
  rw [hreverse] at htrim
  have hdrop : ((cs.reverse ++ tail).dropWhile (· ≠ '/')).drop 1 = (joinPieces ps).reverse := by
    rw [List.dropWhile_append_of_pos, htail]
    intro c hc
    have hslash : c ≠ '/' := fun heq => hcs.no_slash (heq ▸ List.mem_reverse.mp hc)
    simpa using hslash
  rw [parent?, splitFront_ofPieces absolute hall]
  simp only [hreverse, htrim]
  split
  · rename_i hnil
    exact absurd (List.append_eq_nil_iff.mp hnil).1 (by simpa using hcs.ne_nil)
  · rw [hdrop, trimBack_joinPieces h, List.reverse_reverse, ofPieces]
    cases absolute <;> simp [PathPart.spelled, String.join]

/-- The path with a piece behind it. -/
theorem join_ofPieces (absolute : Bool) {cs : List Char} (h : ∀ x ∈ ps, IsPiece x)
    (hcs : IsPiece cs) :
    (ofPieces absolute ps).join ⟨String.ofList cs⟩ = ofPieces absolute (ps ++ [cs]) := by
  have hrelative : (SourcePath.mk (String.ofList cs)).isAbsolute = false := by
    rw [isAbsolute, decide_eq_false_iff_not, String.toList_ofList]
    exact fun hhead => hcs.no_slash (List.mem_of_mem_head? hhead)
  rw [join, hrelative, if_neg Bool.false_ne_true]
  rcases List.eq_nil_or_concat ps with rfl | ⟨init, last, rfl⟩
  · cases absolute <;> simp [ofPieces, joinPieces]
  · -- the path ends in its last piece, and not in a slash
    rw [List.concat_eq_append] at h ⊢
    have hlast := h last (by simp)
    obtain ⟨before, hbefore⟩ : ∃ before, joinPieces (init ++ [last]) = before ++ last := by
      rcases init with _ | ⟨first, init⟩
      · exact ⟨[], rfl⟩
      · refine ⟨joinPieces (first :: init) ++ ['/'], ?_⟩
        rw [joinPieces_snoc (List.cons_ne_nil _ _), List.append_assoc, List.singleton_append]
    have htext : (ofPieces absolute (init ++ [last])).text ≠ "" := by
      intro hempty
      have hnil := congrArg String.toList hempty
      simp [ofPieces, hbefore, hlast.ne_nil] at hnil
    have hend : (ofPieces absolute (init ++ [last])).text.toList.getLast? ≠ some '/' := by
      intro hslash
      rw [ofPieces, String.toList_ofList, hbefore, ← List.append_assoc, List.getLast?_append,
        List.getLast?_eq_some_getLast hlast.ne_nil, Option.some_or] at hslash
      exact hlast.no_slash (Option.some.inj hslash ▸ List.getLast_mem hlast.ne_nil)
    have hsnoc : joinPieces (init ++ [last] ++ [cs]) = joinPieces (init ++ [last]) ++ '/' :: cs :=
      joinPieces_snoc (by simp) cs
    rw [if_neg (not_or.mpr ⟨htext, hend⟩), ofPieces, ofPieces, hsnoc, SourcePath.mk.injEq]
    apply String.toList_injective
    simp

/-! ### Normalized paths -/

theorem same_iff {p q : SourcePath} : p.same q = true ↔ p.parts = q.parts := by
  rw [same, decide_eq_true_eq]

theorem same_comm (p q : SourcePath) : p.same q = q.same p := by
  simp [same, eq_comm]

/-- The path is spelled as a normalized path. -/
def IsNormalized (p : SourcePath) : Prop :=
  ∃ absolute ps, (∀ cs ∈ ps, IsPiece cs) ∧ p = ofPieces absolute ps

/-- Two normalized paths with the same parts are equal. -/
theorem IsNormalized.eq_of_same {p q : SourcePath} (hp : p.IsNormalized) (hq : q.IsNormalized)
    (h : p.same q = true) : p = q := by
  obtain ⟨absolute, ps, hps, rfl⟩ := hp
  obtain ⟨absolute', qs, hqs, rfl⟩ := hq
  exact ofPieces_eq_of_same hps hqs h

theorem IsNormalized.join {p : SourcePath} (hp : p.IsNormalized) {cs : List Char}
    (hcs : IsPiece cs) : (p.join ⟨String.ofList cs⟩).IsNormalized := by
  obtain ⟨absolute, ps, hps, rfl⟩ := hp
  refine ⟨absolute, ps ++ [cs], ?_, join_ofPieces absolute hps hcs⟩
  simpa [or_imp, forall_and] using ⟨hps, hcs⟩

/-- A part behind a normalized path leaves a normalized path. -/
theorem IsNormalized.normalizePart {p : SourcePath} (hp : p.IsNormalized) {cs : List Char}
    (hcs : IsPiece cs) : (p.normalizePart (.ofPiece cs)).IsNormalized := by
  rw [PathPart.ofPiece]
  split
  · rename_i hup
    subst hup
    obtain ⟨absolute, ps, hps, rfl⟩ := hp
    rw [SourcePath.normalizePart]
    rcases List.eq_nil_or_concat ps with rfl | ⟨init, last, rfl⟩
    · rw [parent?_ofPieces_nil]
      exact IsNormalized.join ⟨absolute, [], by simp, rfl⟩ hcs
    · rw [List.concat_eq_append] at hps ⊢
      have hinit : ∀ x ∈ init, IsPiece x := fun x hx => hps x (List.mem_append_left _ hx)
      rw [parent?_ofPieces_snoc absolute hinit (hps last (by simp))]
      exact ⟨absolute, init, hinit, rfl⟩
  · exact hp.join hcs

/-- Behind its front a path has only parts that stand between slashes. -/
theorem exists_parts_eq (p : SourcePath) : ∃ (front : List PathPart) (ps : List (List Char)),
    p.parts = front ++ ps.map PathPart.ofPiece ∧
    (front = [] ∨ front = [.root] ∨ front = [.here]) ∧ ∀ cs ∈ ps, IsPiece cs := by
  have hfront : ∀ cs, (splitFront cs).1 = [] ∨ (splitFront cs).1 = [.root] ∨
      (splitFront cs).1 = [.here] := by
    intro cs
    rw [splitFront.eq_def]
    split <;> simp
  have hpieces : ∀ xs : List (List Char), (∀ x ∈ xs, '/' ∉ x) →
      ∃ ps : List (List Char), xs.filterMap PathPart.ofPiece? = ps.map PathPart.ofPiece ∧
        ∀ cs ∈ ps, IsPiece cs := by
    intro xs hxs
    refine ⟨xs.filter fun x => (PathPart.ofPiece? x).isSome, ?_, ?_⟩
    · induction xs with
      | nil => rfl
      | cons x xs ih =>
        obtain ⟨hx, hxs⟩ := List.forall_mem_cons.mp hxs
        cases hpart : PathPart.ofPiece? x with
        | none => simp [hpart, ih hxs]
        | some part => simp [hpart, ih hxs, (PathPart.isPiece_of_ofPiece? hx hpart).2]
    · intro cs hcs
      obtain ⟨hmem, hsome⟩ := List.mem_filter.mp hcs
      obtain ⟨part, hpart⟩ := Option.isSome_iff_exists.mp hsome
      exact (PathPart.isPiece_of_ofPiece? (hxs cs hmem) hpart).1
  obtain ⟨ps, hps, hall⟩ := hpieces (pieces (splitFront p.text.toList).2)
    (no_slash_of_mem_piecesAfter (by simp))
  exact ⟨_, ps, congrArg _ hps, hfront _, hall⟩

/-- Normalizing gives a normalized path. -/
theorem isNormalized_normalize (p : SourcePath) : p.normalize.IsNormalized := by
  have hrest : ∀ (ps : List (List Char)) (q : SourcePath), (∀ cs ∈ ps, IsPiece cs) →
      q.IsNormalized → ((ps.map PathPart.ofPiece).foldl SourcePath.normalizePart q).IsNormalized := by
    intro ps
    induction ps with
    | nil => exact fun _ _ hq => hq
    | cons cs ps ih =>
      intro q hps hq
      obtain ⟨hcs, hps⟩ := List.forall_mem_cons.mp hps
      exact ih _ hps (hq.normalizePart hcs)
  obtain ⟨front, ps, hparts, hfront, hps⟩ := exists_parts_eq p
  rw [normalize, hparts, List.foldl_append]
  refine hrest ps _ hps ?_
  rcases hfront with rfl | rfl | rfl
  · exact ⟨false, [], by simp, rfl⟩
  · exact ⟨true, [], by simp, rfl⟩
  · exact ⟨false, [], by simp, rfl⟩

end SourcePath

end RecordScript

import RecordScript.Proofs.Source.Join

/-!
# Looking paths up in tables

A table answers a path with the text that was inserted last under a path of the same normal form, and
names the source by this normal form. Looked up itself, that name leads to the same source, and a
directory counts only for what it normalizes to.
-/

namespace RecordScript

namespace SourcePath

variable {p q : SourcePath}

/-- A path that is spelled by a way without pairs of steps up is normalized. -/
theorem normalize_ofPieces (absolute : Bool) {r : Way} (h : r.IsSpellable) :
    (ofPieces absolute r.halved.pieces).normalize = ofPieces absolute r.halved.pieces := by
  have hspellable : r.halved.IsSpellable := h
  rw [normalize_eq, way_ofPieces absolute hspellable, Way.halved_halved,
    isAbsolute_ofPieces absolute (isPiece_of_mem_pieces hspellable)]

/-- The parent of a normalized path is normalized. -/
theorem normalize_parent_normalize (h : p.normalize.parent? = some q) : q.normalize = q := by
  have hspellable := p.isSpellable_way
  have hpieces := isPiece_of_mem_pieces (r := p.way.halved) hspellable
  rw [normalize_eq] at h
  generalize p.way = r at h hspellable hpieces
  -- the last piece is a name, or the two dots that are left over from pairs
  obtain ⟨ups, names⟩ := r
  cases names with
  | nil =>
    rcases Nat.mod_two_eq_zero_or_one ups with hups | hups
    · have hnil : (Way.mk ups []).halved.pieces = [] := by simp [Way.halved, Way.pieces, hups]
      rw [hnil, parent?_ofPieces_nil] at h
      cases h
    · have hone : (Way.mk ups []).halved.pieces = [] ++ [['.', '.']] := by
        simp [Way.halved, Way.pieces, hups]
      rw [hone] at h hpieces
      rw [parent?_ofPieces_snoc _ (by simp) (hpieces _ (by simp))] at h
      obtain rfl := Option.some.inj h
      have hstay : Way.stay.IsSpellable := fun _ hname => absurd hname List.not_mem_nil
      exact normalize_ofPieces p.isAbsolute (r := .stay) hstay
  | cons name names =>
    rw [Way.pieces_halved_cons] at h hpieces
    rw [parent?_ofPieces_snoc _ (fun x hx => hpieces x (List.mem_append_left _ hx))
      (hpieces _ (by simp))] at h
    obtain rfl := Option.some.inj h
    exact normalize_ofPieces p.isAbsolute fun n hn => hspellable n (List.mem_cons_of_mem _ hn)

/-- Normalizing the directory first makes no difference for what is read from it. -/
theorem normalize_join_normalize (dir q : SourcePath) :
    (dir.normalize.join q).normalize = (dir.join q).normalize :=
  normalize_join_congr (normalize_normalize dir) q

end SourcePath

namespace SourceTable

variable {t : SourceTable} {files : List (String × String)} {id : SourcePath} {text : String}

theorem resolve_eq_ok {path : String} {dir : Option SourcePath} {source : Source} :
    t.resolve path dir = .ok source ↔
      source.id = idOf path dir ∧ t.entries.lookup source.id = some source.text := by
  obtain ⟨id, text⟩ := source
  rw [resolve]
  cases hlookup : t.entries.lookup (idOf path dir) with
  | none =>
    refine iff_of_false (by simp) ?_
    rintro ⟨rfl, hfound⟩
    rw [hlookup] at hfound
    cases hfound
  | some found =>
    constructor
    · rintro ⟨⟩
      exact ⟨rfl, hlookup⟩
    · rintro ⟨rfl, hfound⟩
      obtain rfl := Option.some.inj (hlookup.symm.trans hfound)
      rfl

theorem resolve_eq_error {path : String} {dir : Option SourcePath} {problem : LookupProblem} :
    t.resolve path dir = .error problem ↔
      problem = .notInTable (idOf path dir) ∧ t.entries.lookup (idOf path dir) = none := by
  rw [resolve]
  cases t.entries.lookup (idOf path dir) with
  | none => simp [eq_comm]
  | some found => simp

theorem isNormalized_id_of_resolve {path : String} {dir : Option SourcePath} {source : Source}
    (h : t.resolve path dir = .ok source) : source.id.IsNormalized := by
  rw [(resolve_eq_ok.mp h).1]
  exact SourcePath.isNormalized_normalize _

theorem normalize_id_of_resolve {path : String} {dir : Option SourcePath} {source : Source}
    (h : t.resolve path dir = .ok source) : source.id.normalize = source.id := by
  rw [(resolve_eq_ok.mp h).1]
  exact SourcePath.normalize_normalize _

/-- A table resolves paths alike from directories that are normalized to the same path. -/
theorem resolve_congr {dir dir' : SourcePath} (h : dir.normalize = dir'.normalize) (path : String) :
    t.resolve path (some dir) = t.resolve path (some dir') := by
  have hid : idOf path (some dir) = idOf path (some dir') :=
    SourcePath.normalize_join_congr h ⟨path⟩
  rw [resolve, resolve, hid]

/-- Without a directory, a path means its normal form. -/
theorem idOf_none (path : String) : idOf path none = (SourcePath.mk path).normalize := by
  rw [idOf, Option.getD_none, SourcePath.join]
  split
  · rfl
  · rw [if_pos (.inl rfl), String.empty_append]

/-- A source is found again under its own name. -/
theorem resolve_id_of_resolve {path : String} {dir : Option SourcePath} {source : Source}
    (h : t.resolve path dir = .ok source) : t.resolve source.id.text none = .ok source := by
  have hid : idOf source.id.text none = source.id :=
    (idOf_none source.id.text).trans (normalize_id_of_resolve h)
  exact resolve_eq_ok.mpr ⟨hid.symm, (resolve_eq_ok.mp h).2⟩

/-! ### Tables of inserted texts -/

/-- The path of a file in the table. -/
def keyOf (file : String × String) : SourcePath := (SourcePath.mk file.1).normalize

theorem bne_keyOf (hid : id.IsNormalized) (file : String × String) :
    (id != keyOf file) = true ↔ ¬ (keyOf file).same id = true := by
  rw [bne_iff_ne, not_iff_not, eq_comm]
  constructor
  · intro h
    exact SourcePath.same_iff.mpr (congrArg SourcePath.parts h)
  · exact (SourcePath.isNormalized_normalize _).eq_of_same hid

/-- The entries are the paths of the files with their texts, the latest one first. -/
theorem entries_ofList (files : List (String × String)) :
    (ofList files).entries = (files.map fun file => (keyOf file, file.2)).reverse := by
  have hfold : ∀ t : SourceTable,
      (files.foldl (fun t file => t.insert ⟨file.1⟩ file.2) t).entries =
        (files.map fun file => (keyOf file, file.2)).reverse ++ t.entries := by
    induction files with
    | nil => exact fun _ => rfl
    | cons file files ih =>
      intro t
      rw [List.foldl_cons, ih, List.map_cons, List.reverse_cons, List.append_assoc]
      rfl
  exact (hfold empty).trans (List.append_nil _)

/-- The text stands in the list under a path that is normalized to the given one, and no text behind
it does. -/
def IsLastAt (files : List (String × String)) (id : SourcePath) (text : String) : Prop :=
  ∃ before path after, files = before ++ (path, text) :: after ∧
    (SourcePath.mk path).normalize.same id = true ∧
    ∀ file ∈ after, ¬ (SourcePath.mk file.1).normalize.same id = true

theorem lookup_ofList_eq_some (hid : id.IsNormalized) :
    (ofList files).entries.lookup id = some text ↔ IsLastAt files id text := by
  rw [entries_ofList, List.lookup_eq_some_iff]
  constructor
  · rintro ⟨front, back, heq, hfront⟩
    -- what stands in front of an entry was inserted later
    have hmap := List.reverse_eq_iff.mp heq
    rw [List.reverse_append, List.reverse_cons, List.append_assoc, List.singleton_append] at hmap
    obtain ⟨before, rest, rfl, -, hrest⟩ := List.map_eq_append_iff.mp hmap
    obtain ⟨⟨path, text⟩, after, rfl, hfile, hafter⟩ := List.map_eq_cons_iff.mp hrest
    obtain ⟨rfl, rfl⟩ := Prod.mk.inj hfile
    refine ⟨before, path, after, rfl, SourcePath.same_iff.mpr rfl, ?_⟩
    intro file hlater
    have hmem : (keyOf file, file.2) ∈ front := by
      rw [← List.mem_reverse, ← hafter]
      exact List.mem_map_of_mem hlater
    exact (bne_keyOf hid file).mp (hfront _ hmem)
  · rintro ⟨before, path, after, rfl, hsame, hafter⟩
    obtain rfl := (SourcePath.isNormalized_normalize _).eq_of_same hid hsame
    refine ⟨(after.map fun file => (keyOf file, file.2)).reverse,
      (before.map fun file => (keyOf file, file.2)).reverse, by simp [keyOf], ?_⟩
    intro entry hentry
    obtain ⟨file, hlater, rfl⟩ := List.mem_map.mp (List.mem_reverse.mp hentry)
    exact (bne_keyOf hid file).mpr (hafter file hlater)

theorem lookup_ofList_eq_none (hid : id.IsNormalized) :
    (ofList files).entries.lookup id = none ↔
      ∀ file ∈ files, ¬ (SourcePath.mk file.1).normalize.same id = true := by
  rw [entries_ofList, List.lookup_eq_none_iff]
  constructor
  · intro h file hfile
    exact (bne_keyOf hid file).mp (h _ (List.mem_reverse.mpr (List.mem_map_of_mem hfile)))
  · intro h entry hentry
    obtain ⟨file, hfile, rfl⟩ := List.mem_map.mp (List.mem_reverse.mp hentry)
    exact (bne_keyOf hid file).mpr (h file hfile)

/-- A table of inserted texts answers by normal forms, and the paths that it gives to sources stand
for themselves. -/
theorem resolve_ofList_canonical (files : List (String × String)) (path : String)
    (dir : Option SourcePath) :
    (∀ source, (ofList files).resolve path dir = .ok source ↔
      source.id = ((dir.getD ⟨""⟩).join ⟨path⟩).normalize ∧
      IsLastAt files source.id source.text) ∧
    (∀ problem, (ofList files).resolve path dir = .error problem ↔
      problem = .notInTable ((dir.getD ⟨""⟩).join ⟨path⟩).normalize ∧
      ∀ file ∈ files, ¬ (SourcePath.mk file.1).normalize.same
        ((dir.getD ⟨""⟩).join ⟨path⟩).normalize = true) ∧
    (∀ source, (ofList files).resolve path dir = .ok source →
      (ofList files).resolve source.id.text none = .ok source ∧
      ∀ base, source.id.parent? = some base → base.normalize = base) ∧
    (∀ p : SourcePath, p.normalize.normalize = p.normalize) ∧
    (∀ base q : SourcePath, (base.normalize.join q).normalize = (base.join q).normalize) ∧
    ∀ base base' : SourcePath, base.normalize = base'.normalize →
      (ofList files).resolve path (some base) = (ofList files).resolve path (some base') := by
  have hnormal : (idOf path dir).IsNormalized := SourcePath.isNormalized_normalize _
  refine ⟨?_, ?_, ?_, SourcePath.normalize_normalize, SourcePath.normalize_join_normalize,
    fun _ _ hbase => resolve_congr hbase path⟩
  · intro source
    rw [resolve_eq_ok]
    refine and_congr_right fun hid => lookup_ofList_eq_some ?_
    rw [hid]
    exact hnormal
  · intro problem
    rw [resolve_eq_error, lookup_ofList_eq_none hnormal]
    exact Iff.rfl
  · intro source h
    refine ⟨resolve_id_of_resolve h, fun base hbase => ?_⟩
    rw [← normalize_id_of_resolve h] at hbase
    exact SourcePath.normalize_parent_normalize hbase

/-- Texts under two spellings of one path and under another path. -/
def spellings : List (String × String) :=
  [("lib/./a", "x = 1"), ("lib/b/../a", "x = 2"), ("a", "x = 3")]

theorem resolve_ofList_canonical_spellings :
    (ofList spellings).resolve "../lib//a" (some ⟨"c/."⟩) = .ok ⟨⟨"lib/a"⟩, "x = 2"⟩ ∧
    IsLastAt spellings ⟨"lib/a"⟩ "x = 2" ∧
    (ofList spellings).resolve "lib/a" none = .ok ⟨⟨"lib/a"⟩, "x = 2"⟩ ∧
    (ofList spellings).resolve "../lib//a" (some ⟨"c"⟩) = .ok ⟨⟨"lib/a"⟩, "x = 2"⟩ := by
  have hfound : (ofList spellings).resolve "../lib//a" (some ⟨"c/."⟩) =
      .ok ⟨⟨"lib/a"⟩, "x = 2"⟩ := rfl
  obtain ⟨hok, -, hagain, -, -, hbase⟩ :=
    resolve_ofList_canonical spellings "../lib//a" (some ⟨"c/."⟩)
  refine ⟨hfound, ((hok _).mp hfound).2, (hagain _ hfound).1, ?_⟩
  rw [← hbase ⟨"c/."⟩ ⟨"c"⟩ rfl]
  exact hfound

end SourceTable

end RecordScript

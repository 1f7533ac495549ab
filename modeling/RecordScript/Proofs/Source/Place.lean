import Mathlib.Data.List.Basic
import RecordScript.Proofs.Source.Path
import RecordScript.Source.Table

/-!
# Places that paths denote

Read from a directory, a path without a root goes some steps up and then down along names. Normalizing
keeps the names and the root, but of the steps up it keeps only what is left over from pairs: two
dots take away the part before them even if that is two dots as well. So a normalized path denotes
the place of the path if the path has a root or goes up at most once.
-/

namespace RecordScript

/-- A directory: the names on the way down from the root, the last one first. -/
abbrev Place := List String

/-- The place that a part leads to. Two dots stay at the root. -/
def PathPart.walk (place : Place) : PathPart → Place
  | .root => []
  | .here => place
  | .up => place.tail
  | .name n => n :: place

/-- What parts amount to behind the root or the place where they start: steps up, and from there
names down, the last one first. -/
structure Way where
  ups : Nat
  names : List String
deriving DecidableEq, Repr

namespace Way

/-- The way that stays where it starts. -/
def stay : Way := ⟨0, []⟩

/-- The way with one more part. Two dots take back the last name, and go up only where there is
none. -/
def step : Way → PathPart → Way
  | _, .root => stay
  | r, .here => r
  | ⟨ups, []⟩, .up => ⟨ups + 1, []⟩
  | ⟨ups, _ :: names⟩, .up => ⟨ups, names⟩
  | ⟨ups, names⟩, .name name => ⟨ups, name :: names⟩

/-- Where the way leads from a place. -/
def walk (r : Way) (place : Place) : Place := r.names ++ place.drop r.ups

/-- The way without the pairs of its steps up. -/
def halved (r : Way) : Way := ⟨r.ups % 2, r.names⟩

@[simp]
theorem halved_halved (r : Way) : r.halved.halved = r.halved := by
  rw [halved, halved, Nat.mod_mod]

/-- The pieces of a path that goes along the way. -/
def pieces (r : Way) : List (List Char) :=
  List.replicate r.ups ['.', '.'] ++ r.names.reverse.map String.toList

theorem pieces_halved_cons (ups : Nat) (name : String) (names : List String) :
    (Way.mk ups (name :: names)).halved.pieces =
      (Way.mk ups names).halved.pieces ++ [name.toList] := by
  simp [halved, pieces]

/-- The names of the way can stand between slashes, and none of them is two dots. -/
def IsSpellable (r : Way) : Prop := ∀ name ∈ r.names, IsPiece name.toList ∧ name.toList ≠ ['.', '.']

theorem walk_step {r : Way} {part : PathPart} (h : part ≠ .root) (place : Place) :
    (r.step part).walk place = part.walk (r.walk place) := by
  obtain ⟨ups, names⟩ := r
  cases part with
  | root => exact absurd rfl h
  | here => rfl
  | up =>
    cases names with
    | nil => simp [step, walk, PathPart.walk, List.tail_drop]
    | cons name names => rfl
  | name name => rfl

/-- A way goes along all parts that do not lead to the root. -/
theorem walk_foldl_step {parts : List PathPart} (h : .root ∉ parts) (r : Way) (place : Place) :
    (parts.foldl step r).walk place = parts.foldl PathPart.walk (r.walk place) := by
  induction parts generalizing r with
  | nil => rfl
  | cons part parts ih =>
    obtain ⟨hpart, hparts⟩ := not_or.mp (mt List.mem_cons.mpr h)
    rw [List.foldl_cons, List.foldl_cons, ih hparts, walk_step (Ne.symm hpart)]

theorem ups_le_step {r : Way} {part : PathPart} (h : part ≠ .root) : r.ups ≤ (r.step part).ups := by
  obtain ⟨ups, names⟩ := r
  cases part with
  | root => exact absurd rfl h
  | here => exact Nat.le_refl _
  | up =>
    cases names with
    | nil => exact Nat.le_succ ups
    | cons name names => exact Nat.le_refl _
  | name name => exact Nat.le_refl _

theorem ups_le_foldl_step {parts : List PathPart} (h : .root ∉ parts) (r : Way) :
    r.ups ≤ (parts.foldl step r).ups := by
  induction parts generalizing r with
  | nil => exact Nat.le_refl _
  | cons part parts ih =>
    obtain ⟨hpart, hparts⟩ := not_or.mp (mt List.mem_cons.mpr h)
    exact Nat.le_trans (ups_le_step (Ne.symm hpart)) (ih hparts _)

end Way

/-- Going along the parts from the place, no two dots are met at the root; behind the root of a path
they may be. -/
def StaysInside : Place → List PathPart → Prop
  | _, [] => True
  | _, .root :: _ => True
  | place, .here :: parts => StaysInside place parts
  | place, .up :: parts => place ≠ [] ∧ StaysInside place.tail parts
  | place, .name name :: parts => StaysInside (name :: place) parts

/-- Parts stay inside of a place that is as deep as their way goes up. -/
theorem staysInside_walk_iff {parts : List PathPart} (h : .root ∉ parts) {r : Way} {place : Place}
    (hr : r.ups ≤ place.length) :
    StaysInside (r.walk place) parts ↔ (parts.foldl Way.step r).ups ≤ place.length := by
  induction parts generalizing r with
  | nil => simpa [StaysInside] using hr
  | cons part parts ih =>
    obtain ⟨hpart, hparts⟩ := not_or.mp (mt List.mem_cons.mpr h)
    have hwalk := Way.walk_step (r := r) (Ne.symm hpart) place
    rw [List.foldl_cons]
    cases part with
    | root => exact absurd rfl hpart
    | here => exact ih hparts hr
    | name name => exact ih (r := r.step (.name name)) hparts hr
    | up =>
      rw [StaysInside, show (r.walk place).tail = (r.step .up).walk place from hwalk.symm]
      by_cases hstep : (r.step .up).ups ≤ place.length
      · have hne : r.walk place ≠ [] := by
          obtain ⟨ups, names⟩ := r
          cases names with
          | nil =>
            have hlt : ups < place.length := hstep
            simpa [Way.walk] using hlt
          | cons name names => simp [Way.walk]
        rw [ih hparts hstep]
        exact and_iff_right hne
      · -- the place is used up, and more steps up do not bring it back
        have hle := Way.ups_le_foldl_step hparts (r.step .up)
        have hnil : r.walk place = [] := by
          obtain ⟨ups, names⟩ := r
          cases names with
          | nil =>
            have hle : place.length ≤ ups := Nat.le_of_lt_succ (Nat.not_le.mp hstep)
            simpa [Way.walk] using hle
          | cons name names => exact absurd hr hstep
        constructor
        · exact fun hinside => absurd hnil hinside.1
        · exact fun hups => absurd (Nat.le_trans hle hups) hstep

namespace SourcePath

variable {p q : SourcePath}

/-- The place that the path denotes, read from a place. -/
def walk (p : SourcePath) (place : Place) : Place := p.parts.foldl PathPart.walk place

/-- Going along the path from the place never tries to leave the root. -/
def StaysInside (p : SourcePath) (place : Place) : Prop := RecordScript.StaysInside place p.parts

/-- What the path amounts to behind its root or from the place where it is read. -/
def way (p : SourcePath) : Way := p.parts.foldl Way.step .stay

/-! ### Parts -/

theorem ofPiece?_ne_root (cs : List Char) : PathPart.ofPiece? cs ≠ some .root := by
  rw [PathPart.ofPiece?.eq_def]
  split <;> simp

/-- Behind a root at the front a path has only other parts. -/
theorem exists_parts_eq_append (p : SourcePath) : ∃ rest,
    p.parts = (if p.isAbsolute then [.root] else []) ++ rest ∧ .root ∉ rest := by
  have hrest : ∀ cs : List Char, .root ∉ (pieces cs).filterMap PathPart.ofPiece? := by
    intro cs hmem
    obtain ⟨piece, -, hpiece⟩ := List.mem_filterMap.mp hmem
    exact ofPiece?_ne_root piece hpiece
  obtain ⟨text⟩ := p
  simp only [parts, isAbsolute]
  rw [splitFront.eq_def]
  split
  · rename_i cs hcs
    exact ⟨_, by simp [hcs], hrest cs⟩
  · rename_i hcs
    exact ⟨[.here], by simp [hcs, pieces, piecesAfter, PathPart.ofPiece?], by simp⟩
  · rename_i cs hcs
    exact ⟨.here :: (pieces ('/' :: cs)).filterMap PathPart.ofPiece?, by simp [hcs],
      by simpa using hrest _⟩
  · rename_i hroot _ _
    refine ⟨_, ?_, hrest text.toList⟩
    have hhead : text.toList.head? ≠ some '/' := by
      intro hhead
      obtain ⟨cs, hcs⟩ := List.head?_eq_some_iff.mp hhead
      exact hroot cs hcs
    simp [hhead]

/-- The place of a path is where its way leads from the root or from the given place. -/
theorem walk_eq (p : SourcePath) (place : Place) :
    p.walk place = p.way.walk (if p.isAbsolute then [] else place) := by
  obtain ⟨rest, hparts, hrest⟩ := p.exists_parts_eq_append
  rw [walk, way, hparts, List.foldl_append, List.foldl_append, Way.walk_foldl_step hrest]
  cases p.isAbsolute <;> rfl

/-- A path stays inside of a place that is as deep as its way goes up; one with a root always
does. -/
theorem staysInside_iff (p : SourcePath) (place : Place) :
    p.StaysInside place ↔ p.isAbsolute = true ∨ p.way.ups ≤ place.length := by
  obtain ⟨rest, hparts, hrest⟩ := p.exists_parts_eq_append
  rw [StaysInside, way, hparts]
  cases p.isAbsolute with
  | true => simp [RecordScript.StaysInside]
  | false =>
    have h : RecordScript.StaysInside (Way.stay.walk place) rest ↔
        (rest.foldl Way.step .stay).ups ≤ place.length := staysInside_walk_iff hrest (Nat.zero_le _)
    simpa [Way.walk, Way.stay] using h

/-! ### Normalizing along a way -/

theorem isPiece_of_mem_pieces {r : Way} (h : r.IsSpellable) : ∀ cs ∈ r.pieces, IsPiece cs := by
  intro cs hcs
  rcases List.mem_append.mp hcs with hcs | hcs
  · rw [List.eq_of_mem_replicate hcs]
    exact ⟨by decide, by decide, by decide⟩
  · obtain ⟨name, hname, rfl⟩ := List.mem_map.mp hcs
    exact (h name (List.mem_reverse.mp hname)).1

theorem isSpellable_step {r : Way} (h : r.IsSpellable) {cs : List Char} (hcs : IsPiece cs) :
    (r.step (.ofPiece cs)).IsSpellable := by
  obtain ⟨ups, names⟩ := r
  rw [PathPart.ofPiece]
  split
  · cases names with
    | nil => exact h
    | cons name names => exact fun n hn => h n (List.mem_cons_of_mem _ hn)
  · rename_i hne
    intro n hn
    rcases List.mem_cons.mp hn with rfl | hn
    · rw [String.toList_ofList]
      exact ⟨hcs, hne⟩
    · exact h n hn

/-- One step of normalizing takes the path of what is left of a way to that of what is left of the
next one. -/
theorem normalizePart_ofPieces (absolute : Bool) {r : Way} (h : r.IsSpellable) {cs : List Char}
    (hcs : IsPiece cs) :
    (ofPieces absolute r.halved.pieces).normalizePart (.ofPiece cs) =
      ofPieces absolute (r.step (.ofPiece cs)).halved.pieces := by
  have hpieces := isPiece_of_mem_pieces (r := r.halved) h
  obtain ⟨ups, names⟩ := r
  rw [PathPart.ofPiece]
  split
  · rename_i hup
    subst hup
    rw [normalizePart]
    cases names with
    | nil =>
      rcases Nat.mod_two_eq_zero_or_one ups with hups | hups
      · have hnil : (Way.mk ups []).halved.pieces = [] := by simp [Way.halved, Way.pieces, hups]
        have hone : (Way.mk (ups + 1) []).halved.pieces = [['.', '.']] := by
          simp [Way.halved, Way.pieces, Nat.add_mod, hups]
        rw [hnil, parent?_ofPieces_nil, Way.step, hone]
        exact join_ofPieces absolute (by simp) hcs
      · -- the two dots that are left over from before are removed like a name
        have hone : (Way.mk ups []).halved.pieces = [] ++ [['.', '.']] := by
          simp [Way.halved, Way.pieces, hups]
        have hnil : (Way.mk (ups + 1) []).halved.pieces = [] := by
          simp [Way.halved, Way.pieces, Nat.add_mod, hups]
        rw [hone, parent?_ofPieces_snoc absolute (by simp) hcs, Way.step, hnil]
    | cons name names =>
      rw [Way.pieces_halved_cons] at hpieces ⊢
      rw [parent?_ofPieces_snoc absolute (fun x hx => hpieces x (List.mem_append_left _ hx))
        (hpieces _ (by simp)), Way.step]
  · rw [Way.step, Way.pieces_halved_cons, String.toList_ofList]
    exact join_ofPieces absolute hpieces hcs

theorem foldl_normalizePart (absolute : Bool) {ps : List (List Char)} (hps : ∀ cs ∈ ps, IsPiece cs)
    {r : Way} (h : r.IsSpellable) :
    ((ps.map PathPart.ofPiece).foldl Way.step r).IsSpellable ∧
      (ps.map PathPart.ofPiece).foldl normalizePart (ofPieces absolute r.halved.pieces) =
        ofPieces absolute ((ps.map PathPart.ofPiece).foldl Way.step r).halved.pieces := by
  induction ps generalizing r with
  | nil => exact ⟨h, rfl⟩
  | cons cs ps ih =>
    obtain ⟨hcs, hps⟩ := List.forall_mem_cons.mp hps
    rw [List.map_cons, List.foldl_cons, List.foldl_cons, normalizePart_ofPieces absolute h hcs]
    exact ih hps (isSpellable_step h hcs)

/-- A path has a root if its first part is one. -/
theorem isAbsolute_iff (p : SourcePath) : p.isAbsolute = true ↔ p.parts.head? = some .root := by
  obtain ⟨rest, hparts, hrest⟩ := p.exists_parts_eq_append
  rw [hparts]
  cases p.isAbsolute with
  | true => simp
  | false =>
    have hhead : rest.head? ≠ some .root := fun hhead => hrest (List.mem_of_mem_head? hhead)
    simpa using hhead

theorem isAbsolute_ofPieces (absolute : Bool) {ps : List (List Char)} (hps : ∀ cs ∈ ps, IsPiece cs) :
    (ofPieces absolute ps).isAbsolute = absolute := by
  rw [Bool.eq_iff_iff, isAbsolute_iff, parts_ofPieces absolute hps]
  cases absolute with
  | true => simp
  | false =>
    cases ps with
    | nil => simp
    | cons cs ps => simpa using PathPart.ofPiece_ne_root cs

/-- The way of a path holds only names that can stand between slashes, and along it the path is
normalized. -/
theorem isSpellable_way_and_normalize_eq (p : SourcePath) :
    p.way.IsSpellable ∧ p.normalize = ofPieces p.isAbsolute p.way.halved.pieces := by
  obtain ⟨front, ps, hparts, hfront, hps⟩ := p.exists_parts_eq
  have hstay : Way.stay.IsSpellable := fun _ hname => absurd hname List.not_mem_nil
  have habsolute := p.isAbsolute_iff
  rw [hparts] at habsolute
  rw [way, normalize, hparts, List.foldl_append, List.foldl_append]
  rcases hfront with rfl | rfl | rfl
  · have hhead : ([] ++ ps.map PathPart.ofPiece).head? ≠ some .root := by
      cases ps with
      | nil => simp
      | cons cs ps => simpa using PathPart.ofPiece_ne_root cs
    rw [Bool.eq_false_iff.mpr (mt habsolute.mp hhead)]
    exact foldl_normalizePart false hps hstay
  · rw [habsolute.mpr rfl]
    exact foldl_normalizePart true hps hstay
  · rw [Bool.eq_false_iff.mpr (mt habsolute.mp (by simp))]
    exact foldl_normalizePart false hps hstay

theorem isSpellable_way (p : SourcePath) : p.way.IsSpellable :=
  p.isSpellable_way_and_normalize_eq.1

/-- A normalized path is spelled by the root of the path, if it has one, and the pieces of its
way. -/
theorem normalize_eq (p : SourcePath) : p.normalize = ofPieces p.isAbsolute p.way.halved.pieces :=
  p.isSpellable_way_and_normalize_eq.2

@[simp]
theorem isAbsolute_normalize (p : SourcePath) : p.normalize.isAbsolute = p.isAbsolute := by
  rw [normalize_eq, isAbsolute_ofPieces]
  exact isPiece_of_mem_pieces (r := p.way.halved) p.isSpellable_way

/-! ### The way of a normalized path -/

theorem foldl_step_ups (k : Nat) : (List.replicate k .up).foldl Way.step .stay = ⟨k, []⟩ := by
  induction k with
  | zero => rfl
  | succ k ih => rw [List.replicate_succ', List.foldl_append, ih, List.foldl_cons, List.foldl_nil,
      Way.step]

theorem foldl_step_names (names : List String) (r : Way) :
    (names.map PathPart.name).foldl Way.step r = ⟨r.ups, names.reverse ++ r.names⟩ := by
  induction names generalizing r with
  | nil => rfl
  | cons name names ih =>
    rw [List.map_cons, List.foldl_cons, ih, Way.step, List.reverse_cons, List.append_assoc,
      List.singleton_append]

/-- The pieces of a way are read as the way. -/
theorem way_ofPieces (absolute : Bool) {r : Way} (h : r.IsSpellable) :
    (ofPieces absolute r.pieces).way = r := by
  have hups : (List.replicate r.ups ['.', '.']).map PathPart.ofPiece =
      List.replicate r.ups .up := List.map_replicate
  have hnames : (r.names.reverse.map String.toList).map PathPart.ofPiece =
      r.names.reverse.map PathPart.name := by
    rw [List.map_map]
    apply List.map_congr_left
    intro name hname
    have hne := (h name (List.mem_reverse.mp hname)).2
    rw [Function.comp_apply, PathPart.ofPiece, if_neg hne, String.ofList_toList]
  have hfront : (if absolute then [PathPart.root] else []).foldl Way.step .stay = .stay := by
    cases absolute <;> rfl
  rw [way, parts_ofPieces absolute (isPiece_of_mem_pieces h), List.foldl_append, hfront,
    Way.pieces, List.map_append, hups, hnames, List.foldl_append, foldl_step_ups,
    foldl_step_names, List.reverse_reverse, List.append_nil]

/-- Normalizing leaves one step up of an odd number, none of an even one, and all names. -/
@[simp]
theorem way_normalize (p : SourcePath) : p.normalize.way = p.way.halved := by
  rw [normalize_eq, way_ofPieces _ (r := p.way.halved) p.isSpellable_way]

/-- Normalizing twice is normalizing once. -/
@[simp]
theorem normalize_normalize (p : SourcePath) : p.normalize.normalize = p.normalize := by
  rw [normalize_eq p.normalize, isAbsolute_normalize, way_normalize, Way.halved_halved,
    normalize_eq p]

/-! ### Paths that denote one place -/

/-- Two paths with the same normalized path differ at most in the number of steps up. -/
theorem normalize_eq_iff {p q : SourcePath} : p.normalize = q.normalize ↔
    p.isAbsolute = q.isAbsolute ∧ p.way.halved = q.way.halved := by
  constructor
  · intro h
    rw [← isAbsolute_normalize p, ← way_normalize p, h, isAbsolute_normalize, way_normalize]
    exact ⟨rfl, rfl⟩
  · rintro ⟨habsolute, hway⟩
    rw [normalize_eq, habsolute, hway, ← normalize_eq]

/-- Ways along the same names lead from a place that is deep enough to one place only if they go
up equally often. -/
theorem walk_way_eq_iff {r r' : Way} {place : Place} (h : r.names = r'.names)
    (hr : r.ups ≤ place.length) (hr' : r'.ups ≤ place.length) :
    r.walk place = r'.walk place ↔ r.ups = r'.ups := by
  rw [Way.walk, Way.walk, h]
  constructor
  · intro heq
    have hlength := congrArg List.length heq
    simp only [List.length_append, List.length_drop] at hlength
    omega
  · intro heq
    rw [heq]

/-- Paths with one name and one root, read from a place that neither leaves, denote one place only
if they go up equally often, or have the root. -/
theorem walk_eq_walk_iff {p q : SourcePath} {place : Place} (hp : p.StaysInside place)
    (hq : q.StaysInside place) (habsolute : p.isAbsolute = q.isAbsolute)
    (hnames : p.way.names = q.way.names) :
    p.walk place = q.walk place ↔ p.isAbsolute = true ∨ p.way.ups = q.way.ups := by
  rw [staysInside_iff] at hp hq
  rw [walk_eq, walk_eq, ← habsolute]
  rw [← habsolute] at hq
  cases hroot : p.isAbsolute with
  | true =>
    simp [Way.walk, hnames]
  | false =>
    rw [hroot] at hp hq
    simpa using walk_way_eq_iff hnames (by simpa using hp) (by simpa using hq)

end SourcePath

namespace SourceTable

/-- The path that is looked up, before it is normalized. -/
def readFrom (dir : Option SourcePath) (path : String) : SourcePath :=
  (dir.getD ⟨""⟩).join ⟨path⟩

/-- Where paths lead, and where they lead normalized, from a place that they do not leave. A
normalized path denotes the place of the path exactly if the path has a root or amounts to at most
one step up. So imports that are looked up as one path denote one place exactly if they have a root
or go up equally often, and an import that goes up and then down along names is looked up at the
place it names only if it goes up at most once: of several steps up all pairs are lost. -/
theorem place_of_normalize (place : Place) :
    (∀ p : SourcePath, p.StaysInside place →
      (p.normalize.walk place = p.walk place ↔ p.isAbsolute = true ∨ p.way.ups ≤ 1)) ∧
    (∀ (dir dir' : Option SourcePath) (path path' : String),
      (readFrom dir path).StaysInside place → (readFrom dir' path').StaysInside place →
      idOf path dir = idOf path' dir' →
      ((readFrom dir path).walk place = (readFrom dir' path').walk place ↔
        (readFrom dir path).isAbsolute = true ∨
          (readFrom dir path).way.ups = (readFrom dir' path').way.ups)) ∧
    ∀ r : Way, r.IsSpellable →
      (SourcePath.ofPieces false r.pieces).walk place = r.names ++ place.drop r.ups ∧
      (SourcePath.ofPieces false r.pieces).normalize.walk place =
        r.names ++ place.drop (r.ups % 2) := by
  refine ⟨?_, ?_, ?_⟩
  · intro p hp
    have hups : p.way.halved.ups ≤ p.way.ups := Nat.mod_le _ _
    have hnormal : p.normalize.StaysInside place := by
      rw [SourcePath.staysInside_iff] at hp ⊢
      rw [SourcePath.isAbsolute_normalize, SourcePath.way_normalize]
      exact hp.imp_right (Nat.le_trans hups)
    rw [SourcePath.walk_eq_walk_iff hnormal hp (by simp) (by simp [Way.halved]),
      SourcePath.isAbsolute_normalize, SourcePath.way_normalize]
    exact or_congr_right ⟨fun heq => by simp only [Way.halved] at heq; omega,
      fun hle => Nat.mod_eq_of_lt (Nat.lt_succ_of_le hle)⟩
  · intro dir dir' path path' hp hq hid
    obtain ⟨habsolute, hway⟩ := SourcePath.normalize_eq_iff.mp hid
    have hnames : (readFrom dir path).way.names = (readFrom dir' path').way.names :=
      (Way.mk.inj hway).2
    exact SourcePath.walk_eq_walk_iff hp hq habsolute hnames
  · intro r hr
    have hway := SourcePath.way_ofPieces false hr
    have habsolute := SourcePath.isAbsolute_ofPieces false (SourcePath.isPiece_of_mem_pieces hr)
    rw [SourcePath.walk_eq, SourcePath.walk_eq, SourcePath.isAbsolute_normalize,
      SourcePath.way_normalize, hway, habsolute]
    exact ⟨rfl, rfl⟩

/-- From `/a/b`, a path that goes up once is looked up where it leads, one that goes up twice is
not, and one that goes up three times is looked up beside the directory. -/
theorem place_of_normalize_nested :
    (SourcePath.mk "./c/../../lib.edt").normalize.walk ["b", "a"] =
      (SourcePath.mk "./c/../../lib.edt").walk ["b", "a"] ∧
    (SourcePath.mk "../../lib.edt").normalize.walk ["b", "a"] ≠
      (SourcePath.mk "../../lib.edt").walk ["b", "a"] ∧
    (readFrom (some ⟨"c/.."⟩) "../../lib.edt").walk ["b", "a"] ≠
      (readFrom none "lib.edt").walk ["b", "a"] ∧
    (SourcePath.mk "../../../lib.edt").normalize.walk ["c", "b", "a"] = ["lib.edt", "b", "a"] := by
  obtain ⟨hwalk, hid, -⟩ := place_of_normalize ["b", "a"]
  obtain ⟨-, -, hups⟩ := place_of_normalize ["c", "b", "a"]
  have hlib : (Way.mk 3 ["lib.edt"]).IsSpellable := by
    intro name hname
    obtain rfl := List.mem_singleton.mp hname
    exact ⟨⟨by decide, by decide, by decide⟩, by decide⟩
  refine ⟨?_, ?_, ?_, (hups ⟨3, ["lib.edt"]⟩ hlib).2⟩
  · exact (hwalk _ ((SourcePath.staysInside_iff _ _).mpr (by decide +kernel))).mpr
      (by decide +kernel)
  · exact mt (hwalk _ ((SourcePath.staysInside_iff _ _).mpr (by decide +kernel))).mp
      (by decide +kernel)
  · exact mt (hid _ _ _ _ ((SourcePath.staysInside_iff _ _).mpr (by decide +kernel))
      ((SourcePath.staysInside_iff _ _).mpr (by decide +kernel)) (by decide +kernel)).mp
      (by decide +kernel)

/-- Read from `/a/b`, the paths `../../lib.edt` and `lib.edt` denote different files, and both are
looked up as `lib.edt`. -/
theorem exists_idOf_eq_of_walk_ne : ∃ (path path' : String) (place : Place),
    (readFrom none path).StaysInside place ∧ (readFrom none path').StaysInside place ∧
    (readFrom none path).walk place ≠ (readFrom none path').walk place ∧
    idOf path none = idOf path' none ∧
    (idOf path none).walk place ≠ (readFrom none path).walk place :=
  ⟨"../../lib.edt", "lib.edt", ["b", "a"],
    (SourcePath.staysInside_iff _ _).mpr (by decide +kernel),
    (SourcePath.staysInside_iff _ _).mpr (by decide +kernel),
    by decide +kernel, by decide +kernel, by decide +kernel⟩

end SourceTable

end RecordScript

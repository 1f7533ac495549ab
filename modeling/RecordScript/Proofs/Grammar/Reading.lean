import RecordScript.Grammar.Cursor
import RecordScript.Proofs.Grammar.Token

/-!
# Readings

A reading of a type says of a text what can be read at its front and what is left of the text. It
knows no cursors, no order of choices and no bounds on repetitions, so it is the grammar as such.
Readings are put together like parsers. Each combination is followed by two facts: how much of the
text it takes at least, and that it reads the same when further lines follow the text.
-/

namespace RecordScript

/-! ### White space and comments -/

/-- The text behind the white space and the comments at its front; `comment` says whether a comment
is open. -/
def skipFrom (comment : Bool) (cs : List Char) : List Char := (splitLayout comment cs).2

/-- The text behind the white space and the comments at its front. -/
def skip (cs : List Char) : List Char := skipFrom false cs

/-- Whether the character ends what is passed over between tokens. -/
def endsLayout (c : Char) : Bool := !isLayoutChar c && c ≠ '#'

theorem skip_cons (c : Char) (cs : List Char) :
    skip (c :: cs) = if endsLayout c then c :: cs else skipFrom (c = '#') cs := by
  unfold skip skipFrom endsLayout
  rw [splitLayout]
  cases isLayoutChar c <;> by_cases hc : c = '#' <;> simp [hc]

theorem skip_of_endsLayout {c : Char} (hc : endsLayout c = true) (cs : List Char) :
    skip (c :: cs) = c :: cs := by
  rw [skip_cons, if_pos hc]

theorem length_skipFrom_le (comment : Bool) (cs : List Char) :
    (skipFrom comment cs).length ≤ cs.length := by
  induction cs generalizing comment with
  | nil => exact Nat.le_refl _
  | cons c cs ih =>
    cases comment with
    | true => exact Nat.le_succ_of_le (ih _)
    | false =>
      change (skip (c :: cs)).length ≤ _
      rw [skip_cons]
      split
      · exact Nat.le_refl _
      · exact Nat.le_succ_of_le (ih _)

theorem length_skip_le (cs : List Char) : (skip cs).length ≤ cs.length := length_skipFrom_le false cs

/-- A text that a reading has arrived at, with further lines behind it. -/
def grow (more cs : List Char) : List Char := if cs = [] then skip more else cs ++ '\n' :: more

theorem grow_of_ne_nil {cs : List Char} (more : List Char) (h : cs ≠ []) :
    grow more cs = cs ++ '\n' :: more := if_neg h

/-- Passing over white space arrives at the same place if further lines follow. -/
theorem skipFrom_line (comment : Bool) (cs more : List Char) :
    skipFrom comment (cs ++ '\n' :: more) = grow more (skipFrom comment cs) := by
  induction cs generalizing comment with
  | nil => cases comment <;> rfl
  | cons c cs ih =>
    cases comment with
    | true => exact ih _
    | false =>
      change skip (c :: (cs ++ '\n' :: more)) = grow more (skip (c :: cs))
      rw [skip_cons, skip_cons]
      split
      · rw [grow_of_ne_nil more (List.cons_ne_nil _ _), List.cons_append]
      · exact ih _

theorem skip_line (cs more : List Char) : skip (cs ++ '\n' :: more) = grow more (skip cs) :=
  skipFrom_line false cs more

/-! ### Readings and their combinations -/

/-- What can be read at the front of a text, and what is left of it. -/
def Reading (α : Type) : Type := List Char → α → List Char → Prop

namespace Reading

variable {α β : Type}

instance : Monad Reading where
  pure a := fun cs b rest => b = a ∧ rest = cs
  bind R f := fun cs b rest => ∃ a mid, R cs a mid ∧ f a mid b rest

instance : OrElse (Reading α) where
  orElse R S := fun cs a rest => R cs a rest ∨ S () cs a rest

/-- There is nothing to read. -/
def nothing : Reading α := fun _ _ _ => False

/-- Reads something that may be missing. -/
def optional (R : Reading α) : Reading (Option α) := (some <$> R) <|> pure none

/-- Reads a thing any number of times. -/
inductive Star (R : Reading α) : List Char → List α → List Char → Prop
  | nil {cs : List Char} : Star R cs [] cs
  | cons {cs mid rest : List Char} {a : α} {as : List α} (first : R cs a mid)
      (others : Star R mid as rest) : Star R cs (a :: as) rest

/-- Reads a thing any number of times. -/
def star (R : Reading α) : Reading (List α) := Star R

/-- Reads a token with the white space and the comments behind it. -/
def token (scan : Parser.Scanner) : Reading (List Char) := fun cs taken rest =>
  ∃ behind, scan cs = some (taken, behind) ∧ skip behind = rest

/-- Reads a thing that is nested to any depth. -/
def anyDepth (R : Nat → Reading α) : Reading α := fun cs a rest => ∃ depth, R depth cs a rest

variable {R S : Reading α} {f : α → Reading β} {g : α → β} {cs rest : List Char}

theorem pure_iff {a b : α} : (pure a : Reading α) cs b rest ↔ b = a ∧ rest = cs := Iff.rfl

theorem map_iff {b : β} : (g <$> R) cs b rest ↔ ∃ a, R cs a rest ∧ g a = b := by
  constructor
  · rintro ⟨a, mid, h, rfl, rfl⟩
    exact ⟨a, h, rfl⟩
  · rintro ⟨a, h, rfl⟩
    exact ⟨a, rest, h, rfl, rfl⟩

theorem orElse_iff {a : α} : (R <|> S) cs a rest ↔ R cs a rest ∨ S cs a rest := Iff.rfl

theorem optional_iff {o : Option α} :
    optional R cs o rest ↔ (∃ a, R cs a rest ∧ some a = o) ∨ o = none ∧ rest = cs := by
  rw [optional, orElse_iff, map_iff, pure_iff]

/-! ### What a reading takes of the text -/

/-- The reading takes at least `n` characters. -/
def Takes (n : Nat) (R : Reading α) : Prop :=
  ∀ ⦃cs a rest⦄, R cs a rest → rest.length + n ≤ cs.length

theorem Takes.mono {m n : Nat} (h : Takes n R) (hmn : m ≤ n) : Takes m R := by
  intro cs a rest hR
  have hn := h hR
  omega

theorem Takes.zero {n : Nat} (h : Takes n R) : Takes 0 R := h.mono (Nat.zero_le n)

theorem takes_pure (a : α) : Takes 0 (pure a : Reading α) := by
  rintro cs b rest ⟨rfl, rfl⟩
  exact Nat.le_refl _

theorem Takes.bind {m n : Nat} (hR : Takes m R) (hf : ∀ a, Takes n (f a)) :
    Takes (m + n) (R >>= f) := by
  rintro cs b rest ⟨a, mid, ha, hb⟩
  have hm := hR ha
  have hn := hf a hb
  omega

theorem Takes.bind_left {n : Nat} (hR : Takes n R) (hf : ∀ a, Takes 0 (f a)) : Takes n (R >>= f) :=
  hR.bind hf

theorem Takes.bind_right {n : Nat} (hR : Takes 0 R) (hf : ∀ a, Takes n (f a)) :
    Takes n (R >>= f) :=
  (hR.bind hf).mono (Nat.le_add_left n 0)

theorem Takes.map {n : Nat} (h : Takes n R) (g : α → β) : Takes n (g <$> R) := by
  intro cs b rest hb
  obtain ⟨a, ha, -⟩ := map_iff.mp hb
  exact h ha

theorem Takes.orElse {n : Nat} (hR : Takes n R) (hS : Takes n S) : Takes n (R <|> S) :=
  fun _ _ _ h => Or.elim h (@hR _ _ _) (@hS _ _ _)

theorem takes_optional (h : Takes 0 R) : Takes 0 (optional R) :=
  Takes.orElse (h.map some) (takes_pure _)

theorem takes_star (h : Takes 0 R) : Takes 0 (star R) := by
  intro cs as rest has
  induction has with
  | nil => exact Nat.le_refl _
  | cons first others ih => exact Nat.le_trans ih (h first)

/-- What holds where a thing is read, and behind all of them, holds where the first one is. -/
theorem of_star {P : List Char → Prop} {as : List α} (has : star R cs as rest)
    (hitem : ∀ ⦃cs a rest⦄, R cs a rest → P cs) (hrest : P rest) : P cs := by
  cases has with
  | nil => exact hrest
  | cons first _ => exact hitem first

/-- Things that take something are no more than the characters of the text. -/
theorem length_add_length_le (h : Takes 1 R) {as : List α} (has : star R cs as rest) :
    as.length + rest.length ≤ cs.length := by
  induction has with
  | nil => simp
  | cons first others ih =>
    have hfirst := h first
    rw [List.length_cons]
    omega

theorem takes_nothing (n : Nat) : Takes n (nothing : Reading α) :=
  fun _ _ _ h => False.elim h

theorem takes_anyDepth {n : Nat} {R : Nat → Reading α} (h : ∀ depth, Takes n (R depth)) :
    Takes n (anyDepth R) := by
  rintro cs a rest ⟨depth, ha⟩
  exact h depth ha

theorem takes_token {scan : Parser.Scanner} (h : scan.IsToken) : Takes 1 (token scan) := by
  rintro cs taken rest ⟨behind, hscan, rfl⟩
  have hskip := length_skip_le behind
  have htaken := List.length_pos_iff.mpr (h.ne_nil hscan)
  rw [← h.split hscan, List.length_append]
  omega

/-! ### Lines behind the text -/

/-- The reading is the same if further lines follow the text. -/
def Grows (R : Reading α) : Prop :=
  ∀ (more : List Char) ⦃cs a rest⦄, R cs a rest → R (grow more cs) a (grow more rest)

theorem grows_pure (a : α) : Grows (pure a : Reading α) := by
  rintro more cs b rest ⟨rfl, rfl⟩
  exact ⟨rfl, rfl⟩

theorem Grows.bind (hR : Grows R) (hf : ∀ a, Grows (f a)) : Grows (R >>= f) := by
  rintro more cs b rest ⟨a, mid, ha, hb⟩
  exact ⟨a, grow more mid, hR more ha, hf a more hb⟩

theorem Grows.map (h : Grows R) (g : α → β) : Grows (g <$> R) := by
  intro more cs b rest hb
  obtain ⟨a, ha, rfl⟩ := map_iff.mp hb
  exact map_iff.mpr ⟨a, h more ha, rfl⟩

theorem Grows.orElse (hR : Grows R) (hS : Grows S) : Grows (R <|> S) :=
  fun more _ _ _ h => Or.imp (@hR more _ _ _) (@hS more _ _ _) h

theorem grows_nothing : Grows (nothing : Reading α) :=
  fun _ _ _ _ h => False.elim h

theorem grows_anyDepth {R : Nat → Reading α} (h : ∀ depth, Grows (R depth)) :
    Grows (anyDepth R) := by
  rintro more cs a rest ⟨depth, ha⟩
  exact ⟨depth, h depth more ha⟩

theorem Grows.optional (h : Grows R) : Grows (optional R) := (h.map some).orElse (grows_pure _)

theorem Grows.star (h : Grows R) : Grows (star R) := by
  intro more cs as rest has
  induction has with
  | nil => exact .nil
  | cons first others ih => exact .cons (h more first) ih

theorem grows_token {scan : Parser.Scanner} (h : scan.IsToken) : Grows (token scan) := by
  rintro more cs taken rest ⟨behind, hscan, rfl⟩
  have hcs : cs ≠ [] := by
    rintro rfl
    exact h.ne_nil hscan (List.append_eq_nil_iff.mp (h.split hscan)).1
  rw [grow_of_ne_nil more hcs]
  exact ⟨behind ++ '\n' :: more, h.apart more rfl hscan, skip_line behind more⟩

theorem star_append {as bs : List α} {mid : List Char} (has : star R cs as mid)
    (hbs : star R mid bs rest) : star R cs (as ++ bs) rest := by
  induction has with
  | nil => exact hbs
  | cons first others ih => exact .cons first (ih hbs)

theorem star_anyDepth {R : Nat → Reading α} {depth : Nat} {as : List α}
    (h : star (R depth) cs as rest) : star (anyDepth R) cs as rest := by
  induction h with
  | nil => exact .nil
  | cons first others ih => exact .cons ⟨depth, first⟩ ih

end Reading

end RecordScript

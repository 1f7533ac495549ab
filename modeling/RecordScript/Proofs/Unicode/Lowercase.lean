import Mathlib.Data.List.Infix
import RecordScript.Unicode.Lowercase

/-!
# Lower case of a part of a text

The lower case of a text holds that of a part of it, except for the capital sigmas of the part: one
that ends a word of the part need not end one of the text. A part whose capital sigmas are settled
by their neighbours inside the part has the same lower case in every text; any other part has a text
around it that gives it another lower case.
-/

namespace RecordScript.Unicode

/-- Whether the first character that is not case-ignorable is cased, if there is one. -/
def casedNext? (cs : List Char) : Option Bool := (cs.dropWhile isCaseIgnorable).head?.map isCased

/-- Whether a capital sigma between the characters `before`, in reverse order, and `after` ends a
word. -/
def endsWord (before after : List Char) : Bool := nextIsCased before && !nextIsCased after

/-- The lower case of a character with the characters around it. -/
def lowerImage (before : List Char) (c : Char) (after : List Char) : List Char :=
  if c = capitalSigma then if endsWord before after then ['ς'] else ['σ'] else lowerChar c

/-- The lower case of the characters `cs` with the characters around them. -/
def lowerBetween (before : List Char) : List Char → List Char → List Char
  | [], _ => []
  | c :: cs, after => lowerImage before c (cs ++ after) ++ lowerBetween (c :: before) cs after

variable {before after cs ds : List Char}

theorem nextIsCased_eq (cs : List Char) : nextIsCased cs = (casedNext? cs).getD false := by
  rw [nextIsCased, casedNext?]
  cases cs.dropWhile isCaseIgnorable <;> rfl

theorem casedNext?_append (cs ds : List Char) :
    casedNext? (cs ++ ds) = (casedNext? cs).or (casedNext? ds) := by
  rw [casedNext?, casedNext?, casedNext?, List.dropWhile_append]
  cases cs.dropWhile isCaseIgnorable <;> rfl

theorem lowerAfter_eq_lowerBetween (before cs : List Char) :
    lowerAfter before cs = lowerBetween before cs [] := by
  induction cs generalizing before with
  | nil => rfl
  | cons c cs ih => rw [lowerBetween, List.append_nil, ← ih]; rfl

theorem lowerBetween_append (before cs ds after : List Char) :
    lowerBetween before (cs ++ ds) after =
      lowerBetween before cs (ds ++ after) ++ lowerBetween (cs.reverse ++ before) ds after := by
  induction cs generalizing before with
  | nil => rfl
  | cons c cs ih =>
    rw [List.cons_append, lowerBetween, lowerBetween, ih, List.append_assoc, List.append_assoc,
      List.reverse_cons, List.append_assoc, List.singleton_append]

/-! ### Settled capital sigmas -/

/-- The characters on both sides decide whether a capital sigma between them ends a word, whatever
stands around them. -/
def Settles (before after : List Char) : Prop :=
  casedNext? after = some true ∨ casedNext? before = some false ∨
    casedNext? before = some true ∧ casedNext? after = some false

instance : Decidable (Settles before after) := inferInstanceAs (Decidable (_ ∨ _ ∨ _ ∧ _))

/-- Every capital sigma of the characters is settled by those around it, of which `before` are known
in reverse order. -/
def SettlesSigmasAfter (before : List Char) : List Char → Prop
  | [] => True
  | c :: cs => (c = capitalSigma → Settles before cs) ∧ SettlesSigmasAfter (c :: before) cs

/-- Every capital sigma of the characters is settled by the others. -/
def SettlesSigmas (cs : List Char) : Prop := SettlesSigmasAfter [] cs

instance decidableSettlesSigmasAfter : (before cs : List Char) →
    Decidable (SettlesSigmasAfter before cs)
  | _, [] => inferInstanceAs (Decidable True)
  | before, c :: cs =>
    have := decidableSettlesSigmasAfter (c :: before) cs
    inferInstanceAs (Decidable (_ ∧ _))

instance : Decidable (SettlesSigmas cs) := decidableSettlesSigmasAfter [] cs

theorem Settles.endsWord_append (h : Settles before after) (before' after' : List Char) :
    endsWord (before ++ before') (after ++ after') = endsWord before after := by
  simp only [endsWord, nextIsCased_eq, casedNext?_append]
  rcases h with h | h | ⟨h, h'⟩
  · simp [h]
  · simp [h]
  · simp [h, h']

theorem lowerImage_append {c : Char} (h : c = capitalSigma → Settles before after)
    (before' after' : List Char) :
    lowerImage (before ++ before') c (after ++ after') = lowerImage before c after := by
  rw [lowerImage, lowerImage]
  by_cases hc : c = capitalSigma
  · rw [if_pos hc, if_pos hc, (h hc).endsWord_append]
  · rw [if_neg hc, if_neg hc]

theorem lowerBetween_of_settles (h : SettlesSigmasAfter before cs) (before' after' : List Char) :
    lowerBetween (before ++ before') cs after' = lowerBetween before cs [] := by
  induction cs generalizing before with
  | nil => rfl
  | cons c cs ih =>
    obtain ⟨hc, hcs⟩ := h
    rw [lowerBetween, lowerBetween, lowerImage_append hc, List.append_nil, ← List.cons_append,
      ih hcs]

/-- The lower case of a text holds that of every part whose capital sigmas are settled. -/
theorem SettlesSigmas.isInfix_lowerAfter (h : SettlesSigmas cs) (hpart : cs <:+: ds) :
    lowerAfter [] cs <:+: lowerAfter [] ds := by
  obtain ⟨front, back, rfl⟩ := hpart
  rw [lowerAfter_eq_lowerBetween, lowerAfter_eq_lowerBetween, lowerBetween_append,
    lowerBetween_append, List.append_nil, List.append_nil]
  have hsame := lowerBetween_of_settles h front.reverse back
  rw [List.nil_append] at hsame
  rw [hsame]
  exact ⟨_, _, rfl⟩

theorem settlesSigmas_of_not_mem (h : capitalSigma ∉ cs) : SettlesSigmas cs := by
  have hafter : ∀ before, SettlesSigmasAfter before cs := by
    induction cs with
    | nil => exact fun _ => trivial
    | cons c cs ih =>
      obtain ⟨hc, hcs⟩ := not_or.mp (mt List.mem_cons.mpr h)
      exact fun before => ⟨fun heq => absurd heq.symm hc, ih hcs (c :: before)⟩
  exact hafter []

/-! ### Capital sigmas that are not settled -/

theorem exists_of_not_settlesSigmasAfter (h : ¬ SettlesSigmasAfter before cs) :
    ∃ front back, cs = front ++ capitalSigma :: back ∧ ¬ Settles (front.reverse ++ before) back := by
  induction cs generalizing before with
  | nil => exact absurd trivial h
  | cons c cs ih =>
    by_cases hcs : SettlesSigmasAfter (c :: before) cs
    · have hc : ¬ (c = capitalSigma → Settles before cs) := fun hc => h ⟨hc, hcs⟩
      obtain ⟨rfl, hnot⟩ := Classical.not_imp.mp hc
      exact ⟨[], cs, rfl, hnot⟩
    · obtain ⟨front, back, rfl, hnot⟩ := ih hcs
      exact ⟨c :: front, back, rfl, by simpa using hnot⟩

section Count

variable {x : Char} {b₁ a₁ b₂ a₂ : List Char}

/-- If what stands around a text gives no capital sigma the image `x` that it has not elsewhere, it
gives the text no more characters `x`. -/
theorem count_lowerBetween_le
    (h : ∀ b a, (lowerImage (b ++ b₁) capitalSigma (a ++ a₁)).count x ≤
      (lowerImage (b ++ b₂) capitalSigma (a ++ a₂)).count x) (before cs after : List Char) :
    (lowerBetween (before ++ b₁) cs (after ++ a₁)).count x ≤
      (lowerBetween (before ++ b₂) cs (after ++ a₂)).count x := by
  induction cs generalizing before with
  | nil => exact Nat.le_refl _
  | cons c cs ih =>
    have himage : (lowerImage (before ++ b₁) c (cs ++ (after ++ a₁))).count x ≤
        (lowerImage (before ++ b₂) c (cs ++ (after ++ a₂))).count x := by
      by_cases hc : c = capitalSigma
      · rw [hc, ← List.append_assoc, ← List.append_assoc]
        exact h before (cs ++ after)
      · rw [lowerImage, lowerImage, if_neg hc, if_neg hc]
    rw [lowerBetween, lowerBetween, List.count_append, List.count_append]
    exact Nat.add_le_add himage (ih (c :: before))

/-- If it takes the image `x` from one capital sigma, the text has fewer characters `x`. -/
theorem count_lowerBetween_lt
    (h : ∀ b a, (lowerImage (b ++ b₁) capitalSigma (a ++ a₁)).count x ≤
      (lowerImage (b ++ b₂) capitalSigma (a ++ a₂)).count x) {front back : List Char}
    (hlt : (lowerImage (front.reverse ++ b₁) capitalSigma (back ++ a₁)).count x <
      (lowerImage (front.reverse ++ b₂) capitalSigma (back ++ a₂)).count x) :
    (lowerBetween b₁ (front ++ capitalSigma :: back) a₁).count x <
      (lowerBetween b₂ (front ++ capitalSigma :: back) a₂).count x := by
  have hfront := count_lowerBetween_le h [] front (capitalSigma :: back)
  have hback := count_lowerBetween_le h (capitalSigma :: front.reverse) back []
  rw [lowerBetween_append, lowerBetween_append, lowerBetween, lowerBetween]
  simp only [List.count_append]
  exact Nat.add_lt_add_of_le_of_lt hfront (Nat.add_lt_add_of_lt_of_le hlt hback)

end Count

theorem count_lowerImage_final (before after : List Char) :
    (lowerImage before capitalSigma after).count 'ς' = if endsWord before after then 1 else 0 := by
  rw [lowerImage, if_pos rfl]
  cases endsWord before after <;> rfl

theorem count_lowerImage_medial (before after : List Char) :
    (lowerImage before capitalSigma after).count 'σ' = if endsWord before after then 0 else 1 := by
  rw [lowerImage, if_pos rfl]
  cases endsWord before after <;> rfl

theorem casedNext?_a : casedNext? ['a'] = some true := by decide +kernel

theorem lowerImage_a (before after : List Char) : lowerImage before 'a' after = ['a'] := by
  rw [lowerImage, if_neg (by decide)]
  decide +kernel

/-- A letter behind a text can keep its capital sigmas from ending a word, and does nothing else. -/
theorem endsWord_of_endsWord_append_a (h : endsWord before (after ++ ['a']) = true) :
    endsWord before after = true := by
  simp only [endsWord, nextIsCased_eq, casedNext?_append, casedNext?_a] at h ⊢
  cases hafter : casedNext? after <;> simp_all

/-- A letter before a text can make its capital sigmas end a word, and does nothing else. -/
theorem endsWord_append_a_of_endsWord (h : endsWord before after = true) :
    endsWord (before ++ ['a']) after = true := by
  simp only [endsWord, nextIsCased_eq, casedNext?_append, casedNext?_a] at h ⊢
  cases hbefore : casedNext? before <;> simp_all

/-- If a letter behind the text keeps a capital sigma from ending a word, the text loses a final
sigma. -/
theorem count_append_a_lt {front back : List Char} (h : endsWord front.reverse back = true)
    (hnot : endsWord front.reverse (back ++ ['a']) = false) :
    (lowerAfter [] (front ++ capitalSigma :: back ++ ['a'])).count 'ς' <
      (lowerAfter [] (front ++ capitalSigma :: back)).count 'ς' := by
  have hle : ∀ b a, (lowerImage (b ++ []) capitalSigma (a ++ ['a'])).count 'ς' ≤
      (lowerImage (b ++ []) capitalSigma (a ++ [])).count 'ς' := by
    intro b a
    rw [List.append_nil, List.append_nil, count_lowerImage_final, count_lowerImage_final]
    by_cases ha : endsWord b (a ++ ['a']) = true
    · rw [if_pos ha, if_pos (endsWord_of_endsWord_append_a ha)]
    · rw [if_neg ha]
      exact Nat.zero_le _
  have hsigma : (lowerImage (front.reverse ++ []) capitalSigma (back ++ ['a'])).count 'ς' <
      (lowerImage (front.reverse ++ []) capitalSigma (back ++ [])).count 'ς' := by
    simp [count_lowerImage_final, h, hnot]
  have hlt := count_lowerBetween_lt hle hsigma
  rw [lowerAfter_eq_lowerBetween, lowerAfter_eq_lowerBetween, lowerBetween_append _ _ ['a'],
    lowerBetween, lowerBetween, lowerImage_a]
  simpa using hlt

/-- If a letter before the text makes a capital sigma end a word, the text loses a sigma that is not
final. -/
theorem count_a_cons_lt {front back : List Char} (h : endsWord (front.reverse ++ ['a']) back = true)
    (hnot : endsWord front.reverse back = false) :
    (lowerAfter [] ('a' :: (front ++ capitalSigma :: back))).count 'σ' <
      (lowerAfter [] (front ++ capitalSigma :: back)).count 'σ' := by
  have hle : ∀ b a, (lowerImage (b ++ ['a']) capitalSigma (a ++ [])).count 'σ' ≤
      (lowerImage (b ++ []) capitalSigma (a ++ [])).count 'σ' := by
    intro b a
    rw [List.append_nil, List.append_nil, count_lowerImage_medial, count_lowerImage_medial]
    by_cases hb : endsWord b a = true
    · rw [if_pos (endsWord_append_a_of_endsWord hb)]
      exact Nat.zero_le _
    · rw [if_neg hb]
      split <;> decide
  have hsigma : (lowerImage (front.reverse ++ ['a']) capitalSigma (back ++ [])).count 'σ' <
      (lowerImage (front.reverse ++ []) capitalSigma (back ++ [])).count 'σ' := by
    simp [count_lowerImage_medial, h, hnot]
  have hlt := count_lowerBetween_lt hle hsigma
  rw [lowerAfter_eq_lowerBetween, lowerAfter_eq_lowerBetween, lowerBetween, lowerImage_a]
  simpa using hlt

/-- A text with a capital sigma that is not settled is part of a text whose lower case does not hold
its own. -/
theorem exists_infix_of_not_settlesSigmas (h : ¬ SettlesSigmas cs) :
    ∃ ds, cs <:+: ds ∧ ¬ lowerAfter [] cs <:+: lowerAfter [] ds := by
  obtain ⟨front, back, rfl, hnot⟩ := exists_of_not_settlesSigmasAfter h
  rw [List.append_nil, Settles, not_or, not_or] at hnot
  obtain ⟨hback, hfront, hboth⟩ := hnot
  -- an occurrence would hold at least as many of the sigmas that the letter has taken away
  have hcount : ∀ {x : Char} {ds es : List Char}, ds.count x < es.count x → ¬ es <:+: ds :=
    fun hlt hpart => absurd (hpart.sublist.count_le _) (Nat.not_le.mpr hlt)
  -- a letter behind the text unsettles a sigma that ends a word, one before it any other
  cases hcased : casedNext? front.reverse with
  | some cased =>
    obtain rfl : cased = true := by
      cases cased with
      | true => rfl
      | false => exact absurd hcased hfront
    have hnone : casedNext? back = none := by
      rcases hafter : casedNext? back with _ | _ | _
      · rfl
      · exact absurd ⟨hcased, hafter⟩ hboth
      · exact absurd hafter hback
    refine ⟨_, (List.prefix_append _ ['a']).isInfix, hcount (count_append_a_lt ?_ ?_)⟩
    · simp [endsWord, nextIsCased_eq, hcased, hnone]
    · simp [endsWord, nextIsCased_eq, casedNext?_append, casedNext?_a, hnone]
  | none =>
    have hnext : nextIsCased back = false := by
      rw [nextIsCased_eq]
      rcases hafter : casedNext? back with _ | _ | _
      · rfl
      · rfl
      · exact absurd hafter hback
    refine ⟨_, (List.suffix_cons 'a' _).isInfix, hcount (count_a_cons_lt ?_ ?_)⟩
    · have hletter : nextIsCased (front.reverse ++ ['a']) = true := by
        rw [nextIsCased_eq, casedNext?_append, hcased, casedNext?_a]
        rfl
      rw [endsWord, hletter, hnext]
      rfl
    · rw [endsWord, nextIsCased_eq front.reverse, hcased]
      rfl

end RecordScript.Unicode

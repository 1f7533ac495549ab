import Mathlib.Data.List.TakeWhile
import RecordScript.Proofs.Decimal.Numeral

/-!
# Reading decimals

What a text must look like to be read as a decimal, and as which one. Every numeral is read as the
decimal that it stands for. Two other kinds of texts are read as well: underscores may stand among
the digits of a numeral, where they count for nothing, and a sign may stand behind a leading point,
where it counts as one of the places. Nothing else is read.
-/

namespace RecordScript

namespace Numeral

/-! ### Digits with underscores -/

/-- Digits with underscores among them, none of which stands before the first digit. -/
def IsGrouped (ds : List Char) : Prop :=
  (∀ c ∈ ds, c.isDigit = true ∨ c = '_') ∧ ∃ d ∈ ds.head?, d.isDigit = true

/-- Characters without the underscores among them. -/
def ungrouped (cs : List Char) : List Char := cs.filter (· ≠ '_')

theorem ne_underscore_of_isDigit {c : Char} (h : c.isDigit = true) : c ≠ '_' := by
  rintro rfl
  cases h

@[simp]
theorem ungrouped_append (cs ds : List Char) : ungrouped (cs ++ ds) = ungrouped cs ++ ungrouped ds :=
  List.filter_append _ _

theorem ungrouped_of_not_mem {cs : List Char} (h : '_' ∉ cs) : ungrouped cs = cs := by
  rw [ungrouped, List.filter_eq_self]
  exact fun c hc => decide_eq_true fun heq => h (heq ▸ hc)

theorem ungrouped_of_isDigit {ds : List Char} (h : ∀ c ∈ ds, c.isDigit = true) :
    ungrouped ds = ds :=
  ungrouped_of_not_mem fun hmem => ne_underscore_of_isDigit (h _ hmem) rfl

/-- Of digits and underscores the digits are left. -/
theorem isDigit_of_mem_ungrouped {ds : List Char} (h : ∀ c ∈ ds, c.isDigit = true ∨ c = '_') :
    ∀ c ∈ ungrouped ds, c.isDigit = true := by
  intro c hc
  obtain ⟨hmem, hne⟩ := List.mem_filter.mp hc
  exact (h c hmem).resolve_right (of_decide_eq_true hne)

theorem getD_map_ungrouped (fraction : Option (List Char)) :
    (fraction.map ungrouped).getD [] = ungrouped (fraction.getD []) := by
  cases fraction <;> rfl

theorem filter_isDigit_eq {ds : List Char} (h : ∀ c ∈ ds, c.isDigit = true ∨ c = '_') :
    ds.filter Char.isDigit = ungrouped ds := by
  refine List.filter_congr fun c hc => ?_
  rcases h c hc with hdigit | rfl
  · rw [hdigit, decide_eq_true (ne_underscore_of_isDigit hdigit)]
  · rfl

namespace IsGrouped

theorem of_isDigit {ds : List Char} (h : ∀ c ∈ ds, c.isDigit = true) (hne : ds ≠ []) :
    IsGrouped ds := by
  refine ⟨fun c hc => .inl (h c hc), ds.head hne, List.head?_eq_some_head hne, ?_⟩
  exact h _ (List.head_mem hne)

theorem ungrouped_ne_nil {ds : List Char} (h : IsGrouped ds) : ungrouped ds ≠ [] := by
  obtain ⟨-, d, hd, hdigit⟩ := h
  refine List.ne_nil_of_mem (a := d) (List.mem_filter.mpr ⟨List.mem_of_mem_head? hd, ?_⟩)
  exact decide_eq_true (ne_underscore_of_isDigit hdigit)

end IsGrouped

/-- The text writes the numeral, perhaps with underscores among its digits. -/
def IsWrittenBy (n : Numeral) (cs : List Char) : Prop :=
  ∃ whole fraction, IsGrouped (whole ++ fraction.getD []) ∧
    ungrouped whole = n.whole ∧ fraction.map ungrouped = n.fraction ∧
    cs = n.sign.chars ++ (whole ++ pointed fraction) ++ suffix n.exponent

theorem isWrittenBy_chars (n : Numeral) : n.IsWrittenBy n.chars := by
  have hdigit : ∀ c ∈ n.whole ++ n.fraction.getD [], c.isDigit = true := by
    intro c hc
    exact (List.mem_append.mp hc).elim (n.whole_isDigit c) (n.fraction_isDigit c)
  refine ⟨n.whole, n.fraction, .of_isDigit hdigit n.ne_nil, ungrouped_of_isDigit n.whole_isDigit,
    ?_, rfl⟩
  cases h : n.fraction with
  | none => rfl
  | some ds =>
    rw [Option.map_some, ungrouped_of_isDigit]
    simpa [h] using n.fraction_isDigit

/-- The decimal that is read for a numeral without a point if a point is put before its sign: the
sign counts as a place. -/
def behindPoint (n : Numeral) : Decimal := ⟨n.decimal.digits, n.scale + (n.whole.length + 1)⟩

/-! ### The numeral that grouped digits write -/

section Grouped

variable {whole : List Char} {fraction : Option (List Char)}

/-- The numeral that is left of grouped digits without the underscores. -/
def ofGrouped (sign : Sign) (exponent : Option Exponent)
    (h : IsGrouped (whole ++ fraction.getD [])) : Numeral where
  sign := sign
  whole := ungrouped whole
  fraction := fraction.map ungrouped
  exponent := exponent
  whole_isDigit := isDigit_of_mem_ungrouped fun c hc => h.1 c (List.mem_append_left _ hc)
  fraction_isDigit := by
    rw [getD_map_ungrouped]
    exact isDigit_of_mem_ungrouped fun c hc => h.1 c (List.mem_append_right _ hc)
  ne_nil := by
    rw [getD_map_ungrouped, ← ungrouped_append]
    exact h.ungrouped_ne_nil

theorem isWrittenBy_ofGrouped (sign : Sign) (exponent : Option Exponent)
    (h : IsGrouped (whole ++ fraction.getD [])) :
    (ofGrouped sign exponent h).IsWrittenBy
      (sign.chars ++ (whole ++ pointed fraction) ++ suffix exponent) :=
  ⟨whole, fraction, h, rfl, rfl, rfl⟩

/-- What writes a numeral is grouped digits with the sign and the exponent of the numeral. -/
theorem IsWrittenBy.exists_eq_ofGrouped {n : Numeral} {cs : List Char} (h : n.IsWrittenBy cs) :
    ∃ (whole : List Char) (fraction : Option (List Char))
      (hgroup : IsGrouped (whole ++ fraction.getD [])),
      n = ofGrouped n.sign n.exponent hgroup ∧
      cs = n.sign.chars ++ (whole ++ pointed fraction) ++ suffix n.exponent := by
  obtain ⟨whole, fraction, hgroup, hwhole, hfraction, hcs⟩ := h
  refine ⟨whole, fraction, hgroup, ?_, hcs⟩
  cases n
  simp only at hwhole hfraction
  subst hwhole hfraction
  rfl

theorem decimal_ofGrouped (sign : Sign) (exponent : Option Exponent)
    (h : IsGrouped (whole ++ fraction.getD [])) :
    (ofGrouped sign exponent h).decimal =
      ⟨sign.factor * wholeValue (ungrouped (whole ++ fraction.getD [])),
        (ungrouped (fraction.getD [])).length - power exponent⟩ := by
  have hplaces : (ofGrouped sign exponent h).places = ungrouped (fraction.getD []) :=
    getD_map_ungrouped fraction
  rw [decimal, scale, hplaces, ungrouped_append]
  rfl

theorem behindPoint_ofGrouped {ds : List Char} (sign : Sign) (exponent : Option Exponent)
    (h : IsGrouped (ds ++ (none : Option (List Char)).getD [])) :
    (ofGrouped sign exponent h).behindPoint =
      ⟨sign.factor * wholeValue (ungrouped ds),
        ((ungrouped ds).length + 1 : Nat) - power exponent⟩ := by
  refine congrArg₂ Decimal.mk ?_ ?_
  · rw [decimal_ofGrouped, Option.getD_none, List.append_nil]
  · show (0 : Int) - power exponent + ((ungrouped ds).length + 1) = _
    push_cast
    ring

end Grouped

end Numeral

namespace Decimal

open Numeral

/-! ### The parts of a numeral -/

/-- A sign in front of a digit is split off. -/
theorem splitSign_append (sign : Sign) {ds : List Char} (h : ∃ d ∈ ds.head?, d.isDigit = true) :
    splitSign (sign.chars ++ ds) = (decide (sign = .minus), ds) := by
  obtain ⟨d, hd, hdigit⟩ := h
  obtain ⟨rest, rfl⟩ := List.head?_eq_some_iff.mp hd
  cases sign with
  | plus | minus => rfl
  | none =>
    have hminus : d ≠ '-' := by rintro rfl; cases hdigit
    have hplus : d ≠ '+' := by rintro rfl; cases hdigit
    change splitSign (d :: rest) = (false, d :: rest)
    rw [splitSign] <;> simp [hminus, hplus]

/-- What is split off is a sign. -/
theorem exists_sign (cs : List Char) :
    ∃ sign : Sign, splitSign cs = (decide (sign = .minus), (splitSign cs).2) ∧
      cs = sign.chars ++ (splitSign cs).2 := by
  fun_cases splitSign cs with
  | case1 cs => exact ⟨.minus, rfl, rfl⟩
  | case2 cs => exact ⟨.plus, rfl, rfl⟩
  | case3 cs => exact ⟨.none, rfl, rfl⟩

theorem readExponent_eq_some_iff {mark : Char} (hmark : IsMark mark) {cs : List Char}
    {z : Int} : readExponent cs = some z ↔ ∃ e : Exponent, e.chars = mark :: cs ∧ e.value = z := by
  constructor
  · intro h
    obtain ⟨sign, hsplit, hcs⟩ := exists_sign cs
    rw [readExponent, hsplit] at h
    simp only [Option.ite_none_right_eq_some, Option.some.injEq, List.all_eq_true] at h
    obtain ⟨⟨hne, hdigit⟩, rfl⟩ := h
    refine ⟨⟨mark, sign, _, hmark, hne, hdigit⟩, by rw [Exponent.chars, ← hcs], ?_⟩
    rw [Exponent.value, Sign.signed_eq, digitsValue_eq]
  · rintro ⟨e, hchars, rfl⟩
    obtain ⟨-, rfl⟩ := List.cons.inj hchars
    have hhead : ∃ d ∈ e.digits.head?, d.isDigit = true :=
      (IsGrouped.of_isDigit e.isDigit e.ne_nil).2
    rw [readExponent, splitSign_append _ hhead]
    simp only [Option.ite_none_right_eq_some, Option.some.injEq, List.all_eq_true]
    exact ⟨⟨e.ne_nil, e.isDigit⟩, by rw [Exponent.value, Sign.signed_eq, digitsValue_eq]⟩

theorem readDigits_eq_some_iff {cs : List Char} {z : Int} :
    readDigits cs = some z ↔ ∃ (sign : Sign) (ds : List Char), IsGrouped ds ∧
      cs = sign.chars ++ ds ∧ z = sign.factor * wholeValue (ungrouped ds) := by
  constructor
  · intro h
    obtain ⟨sign, hsplit, hcs⟩ := exists_sign cs
    rw [readDigits, hsplit] at h
    cases hds : (splitSign cs).2 with
    | nil => simp [hds] at h
    | cons d rest =>
      simp only [hds, Option.ite_none_right_eq_some, Option.some.injEq, List.all_eq_true,
        Bool.or_eq_true, decide_eq_true_eq] at h
      obtain ⟨⟨hd, hrest⟩, rfl⟩ := h
      have hgroup : ∀ c ∈ d :: rest, c.isDigit = true ∨ c = '_' :=
        List.forall_mem_cons.mpr ⟨.inl hd, hrest⟩
      refine ⟨sign, d :: rest, ⟨hgroup, d, rfl, hd⟩, by rw [← hds, ← hcs], ?_⟩
      rw [Sign.signed_eq, digitsValue_eq, filter_isDigit_eq hgroup]
  · rintro ⟨sign, ds, ⟨hgroup, d, hd, hdigit⟩, rfl, rfl⟩
    obtain ⟨rest, rfl⟩ := List.head?_eq_some_iff.mp hd
    rw [readDigits, splitSign_append _ ⟨d, rfl, hdigit⟩]
    simp only [Option.ite_none_right_eq_some, Option.some.injEq, List.all_eq_true,
      Bool.or_eq_true, decide_eq_true_eq]
    refine ⟨⟨hdigit, (List.forall_mem_cons.mp hgroup).2⟩, ?_⟩
    rw [Sign.signed_eq, digitsValue_eq, filter_isDigit_eq hgroup]

theorem dropPoint_of_not_mem {cs : List Char} (h : '.' ∉ cs) : dropPoint cs = (cs, 0) := by
  have hdrop : cs.dropWhile (· ≠ '.') = [] := by
    rw [List.dropWhile_eq_nil_iff]
    exact fun c hc => decide_eq_true fun heq => h (heq ▸ hc)
  rw [dropPoint, hdrop]

theorem dropPoint_append {whole : List Char} (h : '.' ∉ whole) (fraction : List Char) :
    dropPoint (whole ++ '.' :: fraction) = (whole ++ fraction, (ungrouped fraction).length) := by
  have hwhole : ∀ c ∈ whole, decide (c ≠ '.') = true :=
    fun c hc => decide_eq_true fun heq => h (heq ▸ hc)
  have hdrop : (whole ++ '.' :: fraction).dropWhile (· ≠ '.') = '.' :: fraction := by
    rw [List.dropWhile_append_of_pos hwhole]
    rfl
  have htake : (whole ++ '.' :: fraction).takeWhile (· ≠ '.') = whole := by
    rw [List.takeWhile_append_of_pos hwhole]
    simp
  rw [dropPoint, hdrop, htake]
  rfl

theorem splitExponent_of_not_isMark {cs : List Char} (h : ∀ c ∈ cs, ¬ IsMark c) :
    splitExponent cs = (cs, none) := by
  have hdrop : cs.dropWhile (fun c => !(decide (c = 'e') || decide (c = 'E'))) = [] := by
    rw [List.dropWhile_eq_nil_iff]
    exact fun c hc => by simpa [IsMark] using h c hc
  rw [splitExponent, hdrop]

theorem splitExponent_append {base : List Char} (h : ∀ c ∈ base, ¬ IsMark c) {mark : Char}
    (hmark : IsMark mark) (rest : List Char) :
    splitExponent (base ++ mark :: rest) = (base, some rest) := by
  have hbase : ∀ c ∈ base, (!(decide (c = 'e') || decide (c = 'E'))) = true :=
    fun c hc => by simpa [IsMark] using h c hc
  have hstop : (!(decide (mark = 'e') || decide (mark = 'E'))) = false := by
    rcases hmark with rfl | rfl <;> rfl
  rw [splitExponent, List.dropWhile_append_of_pos hbase, List.takeWhile_append_of_pos hbase,
    List.dropWhile_cons_of_neg (by simp [hstop]), List.takeWhile_cons_of_neg (by simp [hstop]),
    List.append_nil]

/-- A text has no exponent mark, or it can be split at its first one. -/
theorem exists_isMark (cs : List Char) :
    (∀ c ∈ cs, ¬ IsMark c) ∨ ∃ base mark rest, IsMark mark ∧ (∀ c ∈ base, ¬ IsMark c) ∧
      cs = base ++ mark :: rest := by
  induction cs with
  | nil => exact .inl (by simp)
  | cons c cs ih =>
    by_cases hc : IsMark c
    · exact .inr ⟨[], c, cs, hc, by simp, rfl⟩
    · rcases ih with h | ⟨base, mark, rest, hmark, hbase, rfl⟩
      · exact .inl (List.forall_mem_cons.mpr ⟨hc, h⟩)
      · exact .inr ⟨c :: base, mark, rest, hmark, List.forall_mem_cons.mpr ⟨hc, hbase⟩, rfl⟩

/-- The exponent of a numeral is read on its own, and so is what is in front of it. -/
theorem readNumeral_eq_some_iff {cs : List Char} {a : Decimal} :
    readNumeral cs = some a ↔ ∃ base exponent, (∀ c ∈ base, ¬ IsMark c) ∧
      cs = base ++ suffix exponent ∧ readDigits (dropPoint base).1 = some a.digits ∧
      a.scale = (dropPoint base).2 - power exponent := by
  constructor
  · intro h
    rcases exists_isMark cs with hno | ⟨base, mark, rest, hmark, hbase, rfl⟩
    · rw [readNumeral, splitExponent_of_not_isMark hno] at h
      simp only [Option.pure_def, Option.bind_eq_bind, Option.bind_some,
        Option.bind_eq_some_iff, Option.some.injEq] at h
      obtain ⟨digits, hdigits, rfl⟩ := h
      exact ⟨cs, none, hno, (List.append_nil cs).symm, hdigits, rfl⟩
    · rw [readNumeral, splitExponent_append hbase hmark] at h
      simp only [Option.pure_def, Option.bind_eq_bind, Option.bind_eq_some_iff,
        Option.some.injEq] at h
      obtain ⟨z, hz, digits, hdigits, rfl⟩ := h
      obtain ⟨e, hchars, rfl⟩ := (readExponent_eq_some_iff hmark).mp hz
      exact ⟨base, some e, hbase, by rw [suffix, ← hchars]; rfl, hdigits, rfl⟩
  · rintro ⟨base, exponent, hbase, rfl, hdigits, hscale⟩
    obtain ⟨digits, scale⟩ := a
    cases exponent with
    | none =>
      rw [suffix, Option.elim_none, List.append_nil, readNumeral, splitExponent_of_not_isMark hbase]
      simp only at hdigits hscale
      simp [hdigits, hscale, power]
    | some e =>
      rw [suffix, Option.elim_some, Exponent.chars, readNumeral,
        splitExponent_append hbase e.isMark]
      have he : readExponent (e.sign.chars ++ e.digits) = some e.value :=
        (readExponent_eq_some_iff e.isMark).mpr ⟨e, rfl, rfl⟩
      simp only at hdigits hscale
      simp [he, hdigits, hscale, power]

/-! ### What is read -/

/-- The point of grouped digits behind a sign is dropped. -/
theorem dropPoint_base (sign : Sign) {whole : List Char} {fraction : Option (List Char)}
    (h : IsGrouped (whole ++ fraction.getD [])) :
    dropPoint (sign.chars ++ (whole ++ pointed fraction)) =
      (sign.chars ++ (whole ++ fraction.getD []), (ungrouped (fraction.getD [])).length) := by
  have hwhole : '.' ∉ sign.chars ++ whole := by
    intro hmem
    rcases List.mem_append.mp hmem with hmem | hmem
    · rcases mem_sign hmem with h | h <;> cases h
    · rcases h.1 '.' (List.mem_append_left _ hmem) with h | h <;> cases h
  cases fraction with
  | none =>
    simp only [pointed, Option.elim_none, Option.getD_none, List.append_nil]
    exact dropPoint_of_not_mem hwhole
  | some fraction =>
    have hdrop := dropPoint_append hwhole fraction
    rwa [List.append_assoc, List.append_assoc] at hdrop

/-- The point in front of a sign is dropped, and the sign counts as a place. -/
theorem dropPoint_sign {sign : Sign} (hsign : sign ≠ .none) (ds : List Char) :
    dropPoint ('.' :: (sign.chars ++ ds)) = (sign.chars ++ ds, (ungrouped ds).length + 1) := by
  have hdrop : dropPoint ('.' :: (sign.chars ++ ds)) =
      (sign.chars ++ ds, (ungrouped (sign.chars ++ ds)).length) :=
    dropPoint_append List.not_mem_nil _
  cases sign with
  | none => exact absurd rfl hsign
  | plus | minus => simpa [Sign.chars, ungrouped] using hdrop

/-- A sign with digits behind it is cut behind the sign, or in front of it. -/
theorem append_eq_sign_append {front back ds : List Char} {sign : Sign}
    (h : front ++ back = sign.chars ++ ds) :
    (∃ whole, front = sign.chars ++ whole ∧ ds = whole ++ back) ∨
      front = [] ∧ sign ≠ .none ∧ back = sign.chars ++ ds := by
  cases front with
  | nil =>
    cases sign with
    | none => exact .inl ⟨[], rfl, h.symm⟩
    | plus | minus => exact .inr ⟨rfl, by simp, h⟩
  | cons c front =>
    cases sign with
    | none => exact .inl ⟨c :: front, rfl, h.symm⟩
    | plus | minus =>
      obtain ⟨rfl, rfl⟩ := List.cons.inj h
      exact .inl ⟨front, rfl, rfl⟩

/-- The base of a numeral is read if it consists of grouped digits behind a sign, with a point
among them or at their ends, or with a point in front of a sign that is written. -/
theorem readDigits_dropPoint_iff {base : List Char} {z : Int} {places : Nat} :
    (readDigits (dropPoint base).1 = some z ∧ (dropPoint base).2 = places) ↔
      (∃ (sign : Sign) (whole : List Char) (fraction : Option (List Char)),
        IsGrouped (whole ++ fraction.getD []) ∧ base = sign.chars ++ (whole ++ pointed fraction) ∧
        z = sign.factor * wholeValue (ungrouped (whole ++ fraction.getD [])) ∧
        places = (ungrouped (fraction.getD [])).length) ∨
      (∃ (sign : Sign) (ds : List Char), sign ≠ .none ∧ IsGrouped ds ∧
        base = '.' :: (sign.chars ++ ds) ∧ z = sign.factor * wholeValue (ungrouped ds) ∧
        places = (ungrouped ds).length + 1) := by
  constructor
  · rintro ⟨hdigits, rfl⟩
    by_cases hpoint : '.' ∈ base
    · -- The digits are read without the point, so the sign may stand on either side of it.
      obtain ⟨front, fraction, rfl, hfront⟩ := List.eq_append_cons_of_mem hpoint
      rw [dropPoint_append hfront] at hdigits
      obtain ⟨sign, ds, hgroup, hcs, rfl⟩ := readDigits_eq_some_iff.mp hdigits
      rcases append_eq_sign_append hcs with ⟨whole, rfl, rfl⟩ | ⟨rfl, hsign, rfl⟩
      · refine .inl ⟨sign, whole, some fraction, hgroup, List.append_assoc _ _ _, rfl, ?_⟩
        rw [dropPoint_append hfront, Option.getD_some]
      · exact .inr ⟨sign, ds, hsign, hgroup, rfl, rfl, by rw [List.nil_append, dropPoint_sign hsign]⟩
    · rw [dropPoint_of_not_mem hpoint] at hdigits ⊢
      obtain ⟨sign, ds, hgroup, rfl, rfl⟩ := readDigits_eq_some_iff.mp hdigits
      exact .inl ⟨sign, ds, none, by simpa using hgroup, by simp [pointed], by simp, rfl⟩
  · rintro (⟨sign, whole, fraction, hgroup, rfl, rfl, rfl⟩ | ⟨sign, ds, hsign, hgroup, rfl, rfl, rfl⟩)
    · rw [dropPoint_base sign hgroup]
      exact ⟨readDigits_eq_some_iff.mpr ⟨sign, _, hgroup, rfl, rfl⟩, rfl⟩
    · rw [dropPoint_sign hsign]
      exact ⟨readDigits_eq_some_iff.mpr ⟨sign, ds, hgroup, rfl, rfl⟩, rfl⟩

/-- The texts that are read as a decimal if its scale is not beyond the limit: the numerals with or
without underscores among their digits, and the integer numerals with a point in front of a sign. -/
inductive IsSpelledBy : Decimal → List Char → Prop where
  | numeral {n : Numeral} {cs : List Char} (h : n.IsWrittenBy cs) : IsSpelledBy n.decimal cs
  | behindPoint {n : Numeral} {cs : List Char} (hsign : n.sign ≠ .none) (hpoint : n.fraction = none)
    (h : n.IsWrittenBy cs) : IsSpelledBy n.behindPoint ('.' :: cs)

theorem not_isMark_of_isGrouped {ds : List Char} (h : IsGrouped ds) : ∀ c ∈ ds, ¬ IsMark c := by
  rintro c hc (rfl | rfl) <;> rcases h.1 _ hc with h | h <;> cases h

theorem not_isMark_sign_append (sign : Sign) {cs : List Char} (h : ∀ c ∈ cs, ¬ IsMark c) :
    ∀ c ∈ sign.chars ++ cs, ¬ IsMark c := by
  refine List.forall_mem_append.mpr ⟨?_, h⟩
  cases sign <;> simp [Sign.chars, IsMark]

theorem not_isMark_base (sign : Sign) {whole : List Char} {fraction : Option (List Char)}
    (h : IsGrouped (whole ++ fraction.getD [])) :
    ∀ c ∈ sign.chars ++ (whole ++ pointed fraction), ¬ IsMark c := by
  obtain ⟨hwhole, hfraction⟩ := List.forall_mem_append.mp (not_isMark_of_isGrouped h)
  apply not_isMark_sign_append
  refine List.forall_mem_append.mpr ⟨hwhole, ?_⟩
  cases fraction with
  | none => exact List.forall_mem_nil _
  | some fraction => exact List.forall_mem_cons.mpr ⟨by simp [IsMark], hfraction⟩

theorem readNumeral_iff_isSpelledBy {cs : List Char} {a : Decimal} :
    readNumeral cs = some a ↔ a.IsSpelledBy cs := by
  rw [readNumeral_eq_some_iff]
  constructor
  · rintro ⟨base, exponent, -, rfl, hdigits, hscale⟩
    rcases readDigits_dropPoint_iff.mp ⟨hdigits, rfl⟩ with
      ⟨sign, whole, fraction, hgroup, rfl, hz, hplaces⟩ | ⟨sign, ds, hsign, hgroup, rfl, hz, hplaces⟩
    · have ha : a = (ofGrouped sign exponent hgroup).decimal := by
        rw [decimal_ofGrouped, ← hz, ← hplaces, ← hscale]
      rw [ha]
      exact .numeral (isWrittenBy_ofGrouped sign exponent hgroup)
    · have hgroup' : IsGrouped (ds ++ (none : Option (List Char)).getD []) := by simpa using hgroup
      have ha : a = (ofGrouped sign exponent hgroup').behindPoint := by
        rw [behindPoint_ofGrouped, ← hz, ← hplaces, ← hscale]
      have hwritten := isWrittenBy_ofGrouped sign exponent hgroup'
      simp only [pointed, Option.elim_none, List.append_nil] at hwritten
      rw [ha, List.cons_append]
      exact .behindPoint hsign rfl hwritten
  · intro h
    cases h with
    | @numeral n cs h =>
      obtain ⟨whole, fraction, hgroup, hn, rfl⟩ := h.exists_eq_ofGrouped
      obtain ⟨hdigits, hpoint⟩ := readDigits_dropPoint_iff.mpr
        (.inl ⟨n.sign, whole, fraction, hgroup, rfl, rfl, rfl⟩)
      have ha := congrArg Numeral.decimal hn
      rw [decimal_ofGrouped] at ha
      refine ⟨_, n.exponent, not_isMark_base n.sign hgroup, rfl, ?_, ?_⟩
      · rw [hdigits, ha]
      · rw [hpoint, ha]
    | @behindPoint n cs hsign hnone h =>
      obtain ⟨ds, fraction, hgroup, hn, rfl⟩ := h.exists_eq_ofGrouped
      obtain rfl : fraction = none := by
        rw [hn] at hnone
        exact Option.map_eq_none_iff.mp hnone
      have ha := congrArg Numeral.behindPoint hn
      rw [behindPoint_ofGrouped] at ha
      rw [Option.getD_none, List.append_nil] at hgroup
      obtain ⟨hdigits, hpoint⟩ := readDigits_dropPoint_iff.mpr
        (.inr ⟨n.sign, ds, hsign, hgroup, rfl, rfl, rfl⟩)
      refine ⟨'.' :: (n.sign.chars ++ ds), n.exponent, ?_, by simp [pointed], ?_, ?_⟩
      · refine List.forall_mem_cons.mpr ⟨by simp [IsMark], ?_⟩
        exact not_isMark_sign_append n.sign (not_isMark_of_isGrouped hgroup)
      · rw [hdigits, ha]
      · rw [hpoint, ha]

/-- A text is read as a decimal if, without the white space around it, it spells the decimal, and
the scale is not beyond the limit. -/
theorem parse_eq_some_iff {text : String} {a : Decimal} :
    parse text = some a ↔ a.IsSpelledBy (Text.trim text).toList ∧ a.scale.natAbs ≤ scaleLimit := by
  rw [parse, ← readNumeral_iff_isSpelledBy]
  simp only [Option.bind_eq_bind, Option.bind_eq_some_iff, Option.ite_none_right_eq_some,
    Option.some.injEq]
  constructor
  · rintro ⟨b, hb, hscale, rfl⟩
    exact ⟨hb, hscale⟩
  · rintro ⟨hb, hscale⟩
    exact ⟨a, hb, hscale, rfl⟩

/-! ### Numerals as they should be -/

/-- The text has no underscore, and no sign behind a leading point. -/
def IsPlainText (cs : List Char) : Prop :=
  '_' ∉ cs ∧ ∀ rest, cs ≠ '.' :: '+' :: rest ∧ cs ≠ '.' :: '-' :: rest

theorem eq_chars_of_isWrittenBy {n : Numeral} {cs : List Char} (h : n.IsWrittenBy cs)
    (hcs : '_' ∉ cs) : n.chars = cs := by
  obtain ⟨whole, fraction, -, hwhole, hfraction, rfl⟩ := h
  simp only [List.mem_append, not_or] at hcs
  rw [ungrouped_of_not_mem hcs.1.2.1] at hwhole
  have hfraction' : fraction = n.fraction := by
    rw [← hfraction]
    cases fraction with
    | none => rfl
    | some ds =>
      rw [Option.map_some, ungrouped_of_not_mem fun h => hcs.1.2.2 (List.mem_cons_of_mem _ h)]
  rw [chars, hwhole, hfraction']

/-- A numeral that starts with its point has a digit behind it. -/
theorem isDigit_of_chars_eq_point {n : Numeral} {c : Char} {rest : List Char}
    (h : n.chars = '.' :: c :: rest) : c.isDigit = true := by
  have hwhole := n.whole_isDigit '.'
  have hfraction := n.fraction_isDigit
  have hne := n.ne_nil
  rw [chars] at h
  cases hs : n.sign with
  | plus | minus => simp [hs, Sign.chars] at h
  | none =>
    rcases hw : n.whole with _ | ⟨d, ds⟩
    · -- There has to be a digit somewhere, so there is one behind the point.
      rcases hf : n.fraction with _ | _ | ⟨d, ds⟩
      · simp [hw, hf] at hne
      · simp [hw, hf] at hne
      · simp only [hs, hw, hf, Sign.chars, pointed, Option.elim_some, List.nil_append,
          List.cons_append, List.cons.injEq, true_and] at h
        exact h.1 ▸ hfraction d (by simp [hf])
    · simp only [hs, hw, Sign.chars, List.nil_append, List.cons_append, List.cons.injEq] at h
      exact absurd (hwhole (by simp [hw, h.1])) (by decide)

/-- A numeral has no underscores, and no sign behind its point if that leads. -/
theorem isPlainText_chars (n : Numeral) : IsPlainText n.chars := by
  constructor
  · intro h
    rcases mem_chars h with h | h | h | h | h | h <;> cases h
  · intro rest
    constructor <;> exact fun h => absurd (isDigit_of_chars_eq_point h) (by decide)

/-- The plain texts that are read are exactly the numerals. -/
theorem isSpelledBy_iff_of_isPlainText {a : Decimal} {cs : List Char} (h : IsPlainText cs) :
    a.IsSpelledBy cs ↔ ∃ n : Numeral, n.chars = cs ∧ a = n.decimal := by
  constructor
  · intro ha
    cases ha with
    | @numeral n cs hn => exact ⟨n, eq_chars_of_isWrittenBy hn h.1, rfl⟩
    | @behindPoint n cs hsign hpoint hn =>
      obtain ⟨whole, fraction, -, -, -, rfl⟩ := hn
      cases hs : n.sign with
      | none => exact absurd hs hsign
      | plus => exact absurd (by rw [hs]; rfl) (h.2 _).1
      | minus => exact absurd (by rw [hs]; rfl) (h.2 _).2
  · rintro ⟨n, rfl, rfl⟩
    exact .numeral n.isWrittenBy_chars

theorem readNumeral_chars (n : Numeral) : readNumeral n.chars = some n.decimal :=
  readNumeral_iff_isSpelledBy.mpr (.numeral n.isWrittenBy_chars)

/-- A numeral is read as the decimal that it stands for, unless its scale is beyond the limit. -/
theorem parse_of_chars {text : String} {n : Numeral} (h : n.chars = (Text.trim text).toList) :
    parse text = if n.scale.natAbs ≤ scaleLimit then some n.decimal else none := by
  rw [parse, ← h, readNumeral_chars]
  rfl

end Decimal

end RecordScript

import RecordScript.Calendar.Reader
import RecordScript.Proofs.Decimal.Numeral
import RecordScript.Proofs.Result
import RecordScript.Proofs.Text.Trim

/-!
# The form of dates

Dates are written as year, month and day between hyphens. Written so, every day of the calendar is
read back, also where its year has a sign or more than four digits.
-/

namespace RecordScript

open Result

/-! ### Padded numbers -/

namespace Date

theorem isDigit_of_mem_padded {width n : Nat} {c : Char} (h : c ∈ padded width n) :
    c.isDigit = true := by
  rcases List.mem_append.mp h with h | h
  · rw [List.eq_of_mem_replicate h]
    rfl
  · exact Nat.isDigit_of_mem_toDigits (by decide) (by decide) h

theorem wholeValue_padded (width n : Nat) : wholeValue (padded width n) = n := by
  rw [padded, wholeValue_replicate_append, wholeValue_toDigits]

theorem le_length_padded (width n : Nat) : width ≤ (padded width n).length := by
  rw [padded, List.length_append, List.length_replicate]
  omega

theorem length_padded {width n : Nat} (hwidth : 0 < width) (h : n < 10 ^ width) :
    (padded width n).length = width := by
  have hle := (Nat.length_toDigits_le_iff (by decide) hwidth).mpr h
  rw [padded, List.length_append, List.length_replicate]
  omega

/-- The characters spell the date: its year in four digits, or with a sign in at least as many, its
month and its day in two. -/
inductive IsSpelledBy (d : Date) : List Char → Prop
  | intro {sign : Numeral.Sign} {ys ms ds : List Char}
      (year_eq : d.year = sign.factor * wholeValue ys) (month_eq : d.month = wholeValue ms)
      (day_eq : d.day = wholeValue ds) (four : 4 ≤ ys.length)
      (unsigned : sign = .none → ys.length = 4) (twoOfMonth : ms.length = 2)
      (twoOfDay : ds.length = 2) (digits : ∀ c ∈ ys ++ ms ++ ds, c.isDigit = true) :
    IsSpelledBy d (sign.chars ++ ys ++ '-' :: (ms ++ '-' :: ds))

/-- The sign in front of a year. -/
def signOf (year : Int) : Numeral.Sign :=
  if year < 0 then .minus else if 9999 < year then .plus else .none

theorem renderYear_eq (year : Int) :
    renderYear year = (signOf year).chars ++ padded 4 year.natAbs := by
  rw [renderYear, signOf]
  split
  · rfl
  · split <;> rfl

theorem factor_signOf_mul (year : Int) : (signOf year).factor * year.natAbs = year := by
  rw [signOf]
  split
  · rw [Numeral.Sign.factor]
    omega
  · split <;> rw [Numeral.Sign.factor] <;> omega

theorem daysInMonth_le (year : Int) (month : Nat) : daysInMonth year month ≤ 31 := by
  unfold daysInMonth
  grind

/-- A day of the calendar is spelled by the text that it is written as. -/
theorem isSpelledBy_render {d : Date} (h : d.IsValid) : d.IsSpelledBy d.render.toList := by
  obtain ⟨-, -, -, hmonth, -, hday⟩ := h
  have hdays := daysInMonth_le d.year d.month
  have hunsigned : signOf d.year = .none → (padded 4 d.year.natAbs).length = 4 := by
    intro hsign
    rw [signOf] at hsign
    split at hsign
    · cases hsign
    · split at hsign
      · cases hsign
      · exact length_padded (by decide) (by omega)
  have hdigits : ∀ c ∈ padded 4 d.year.natAbs ++ padded 2 d.month ++ padded 2 d.day,
      c.isDigit = true := by
    simp only [List.mem_append]
    rintro c ((hc | hc) | hc) <;> exact isDigit_of_mem_padded hc
  rw [render, String.toList_ofList, renderYear_eq, List.append_assoc, List.cons_append]
  refine .intro ?_ (wholeValue_padded _ _).symm (wholeValue_padded _ _).symm (le_length_padded _ _)
    hunsigned (length_padded (by decide) (by omega)) (length_padded (by decide) (by omega)) hdigits
  rw [wholeValue_padded, factor_signOf_mul]

end Date

/-! ### Reading digits -/

namespace DateReader

/-- Digits are read up to the first character that is none. -/
theorem readDigits_append {width : Option Nat} {ds rest : List Char} (hne : ds ≠ [])
    (hdigits : ∀ c ∈ ds, c.isDigit = true) (hwidth : ∀ w ∈ width, ds.length ≤ w)
    (hrest : ∀ c ∈ rest.head?, c.isDigit = false) (hvalue : wholeValue ds ≤ wordMax) :
    readDigits width (ds ++ rest) = .ok (wholeValue ds, rest) := by
  have hstop : ∀ n, (rest.take n).takeWhile Char.isDigit = [] := by
    intro n
    cases rest with
    | nil => simp
    | cons c rest => cases n <;> simp [hrest c rfl]
  have hall : (ds ++ rest).takeWhile Char.isDigit = ds := by
    have h := hstop rest.length
    rw [List.take_length] at h
    rw [List.takeWhile_append_of_pos hdigits, h, List.append_nil]
  have hfew : ∀ w ∈ width, ((ds ++ rest).take w).takeWhile Char.isDigit = ds := by
    intro w hw
    rw [List.take_append, List.take_of_length_le (hwidth w hw),
      List.takeWhile_append_of_pos hdigits, hstop, List.append_nil]
  have hfold : ds.foldl (fun n c => n * 10 + (c.toNat - '0'.toNat)) 0 = wholeValue ds :=
    Decimal.digitsValue_eq ds
  have hdrop : (ds ++ rest).drop ds.length = rest := List.drop_left
  obtain ⟨d, ds, rfl⟩ := List.exists_cons_of_ne_nil hne
  cases width with
  | none =>
    unfold readDigits
    simp only [hall, hfold, hdrop, hvalue, if_true]
    rfl
  | some w =>
    unfold readDigits
    simp only [hfew w rfl, hfold, hdrop, hvalue, if_true]
    rfl

/-- Nothing is skipped in front of a visible character. -/
theorem skipSpace_cons {c : Char} (hlow : 0x20 < c.toNat) (hhigh : c.toNat < 0x80)
    (cs : List Char) : skipSpace (c :: cs) = c :: cs :=
  List.dropWhile_cons_of_neg (by simp [Unicode.isWhiteSpace_eq_false hlow hhigh])

section Number

variable {field : NumericField} {ds rest : List Char}

/-- A number without a sign. -/
theorem readNumber_append (hne : ds ≠ []) (hdigits : ∀ c ∈ ds, c.isDigit = true)
    (hwidth : ∀ w ∈ field.width, ds.length ≤ w) (hrest : ∀ c ∈ rest.head?, c.isDigit = false)
    (hvalue : wholeValue ds ≤ wordMax) :
    readNumber field (ds ++ rest) = .ok ((wholeValue ds : Int), rest) := by
  have hread := readDigits_append hne hdigits hwidth hrest hvalue
  obtain ⟨d, ds, rfl⟩ := List.exists_cons_of_ne_nil hne
  have hd := hdigits d List.mem_cons_self
  have hcode : 48 ≤ d.toNat ∧ d.toNat ≤ 57 := Char.isDigit_iff_toNat.mp hd
  have hskip : skipSpace (d :: ds ++ rest) = d :: ds ++ rest :=
    skipSpace_cons (by omega) (by omega) _
  rw [readNumber, hskip]
  split
  · rename_i heq
    cases heq
    cases hd
  · rename_i heq
    cases heq
    cases hd
  · rw [hread]
    rfl

/-- A number behind a sign may have any number of digits. -/
theorem readNumber_sign_append {sign : Numeral.Sign} (hsign : sign ≠ .none)
    (hsigned : field.isSigned = true) (hne : ds ≠ []) (hdigits : ∀ c ∈ ds, c.isDigit = true)
    (hrest : ∀ c ∈ rest.head?, c.isDigit = false) (hvalue : wholeValue ds ≤ wordMax) :
    readNumber field (sign.chars ++ ds ++ rest) = .ok (sign.factor * wholeValue ds, rest) := by
  have hany : ∀ w ∈ (none : Option Nat), ds.length ≤ w := by simp
  have hread := readDigits_append hne hdigits hany hrest hvalue
  rw [readNumber, hsigned]
  cases sign with
  | none => exact absurd rfl hsign
  | plus =>
    have hskip : skipSpace (['+'] ++ ds ++ rest) = '+' :: (ds ++ rest) :=
      skipSpace_cons (by decide) (by decide) _
    rw [Numeral.Sign.chars, hskip]
    simp only [hread, ok_bind, Numeral.Sign.factor, one_mul]
    rfl
  | minus =>
    have hskip : skipSpace (['-'] ++ ds ++ rest) = '-' :: (ds ++ rest) :=
      skipSpace_cons (by decide) (by decide) _
    rw [Numeral.Sign.chars, hskip]
    simp only [hread, ok_bind, Numeral.Sign.factor, neg_one_mul]
    rfl

end Number

theorem le_foldl_utf8Size (cs : List Char) (n : Nat) :
    n ≤ cs.foldl (fun n c => n + c.utf8Size) n := by
  induction cs generalizing n with
  | nil => exact le_rfl
  | cons c cs ih => exact (Nat.le_add_right _ _).trans (ih _)

/-- A hyphen between the numbers of a date. -/
theorem readItem_hyphen (rest : List Char) (fields : DateFields) :
    readItem (.literal ['-']) ⟨'-' :: rest, fields⟩ = .ok ⟨rest, fields⟩ := by
  have hlength : ¬ byteLength ('-' :: rest) < byteLength ['-'] :=
    Nat.not_lt.mpr (le_foldl_utf8Size rest _)
  have hread : readLiteral ['-'] ('-' :: rest) = .ok rest := by
    rw [readLiteral, if_neg hlength]
    rfl
  rw [readItem, readSimple, hread]
  · rfl
  · simp

/-- A number of a date is read and given as a part of it. -/
theorem readItem_number {field : NumericField} {cs rest : List Char} {n : Int}
    {fields fields' : DateFields} (hread : readNumber field cs = .ok (n, rest))
    (hgive : fields.giveNumber field n = .ok fields') :
    readItem (.number field) ⟨cs, fields⟩ = .ok ⟨rest, fields'⟩ := by
  rw [readItem, readSimple]
  · simp [hread, hgive, pure, Except.pure]
  · simp

end DateReader

namespace Date

/-- The items of the form in which dates are written. -/
theorem ofFormat_form : DateItem.ofFormat "%Y-%m-%d" =
    [.number .year, .literal ['-'], .number .month, .literal ['-'], .number .day] := by
  decide +kernel

/-- The parts of a date that its form gives. -/
def formFields (d : Date) : DateFields :=
  { year := some d.year, month := some d.month, day := some d.day }

/-- Each part of a day of the calendar lies within its bounds. -/
theorem giveNumber_formFields {d : Date} (h : d.IsValid) :
    ({} : DateFields).giveNumber .year d.year = .ok { year := some d.year } ∧
      ({ year := some d.year } : DateFields).giveNumber .month d.month =
        .ok { year := some d.year, month := some d.month } ∧
      ({ year := some d.year, month := some d.month } : DateFields).giveNumber .day d.day =
        .ok d.formFields := by
  obtain ⟨hfirst, hlast, hmonth, hmonth', hday, hday'⟩ := h
  have hdays := daysInMonth_le d.year d.month
  have hwithin : ∀ {least most value : Int}, least ≤ value → value ≤ most →
      DateFields.within least most value = .ok value := fun hl hm => if_pos ⟨hl, hm⟩
  have hyear : DateFields.within (-DateFields.wordMax - 1) DateFields.wordMax d.year = .ok d.year :=
    hwithin (le_trans (by decide) hfirst) (le_trans hlast (by decide))
  have hmonths : DateFields.within 1 12 d.month = .ok (d.month : Int) :=
    hwithin (by omega) (by omega)
  have hdayOf : DateFields.within 1 31 d.day = .ok (d.day : Int) := hwithin (by omega) (by omega)
  refine ⟨?_, ?_, ?_⟩
  · rw [DateFields.giveNumber, hyear]
    rfl
  · rw [DateFields.giveNumber, DateFields.giveMonth, hmonths]
    rfl
  · rw [DateFields.giveNumber, hdayOf]
    rfl

theorem toDate_formFields {d : Date} (h : d.IsValid) : d.formFields.toDate = .ok d := by
  have hcandidate : d.formFields.candidate = .ok d := by
    have hfound : ofMonthDay? d.year (d.month : Int).toNat (d.day : Int).toNat = some d := by
      rw [Int.toNat_natCast, Int.toNat_natCast, ofMonthDay?, if_pos h]
    show DateFields.existing (ofMonthDay? d.year (d.month : Int).toNat (d.day : Int).toNat) = .ok d
    rw [hfound, DateFields.existing]
  have hmatches : d.formFields.matchesDate d = true := by
    simp [DateFields.matchesDate, formFields, DateFields.agrees, DateFields.agreesInCentury]
  rw [DateFields.toDate, hcandidate, ok_bind, hmatches]
  rfl

/-- The year of a text that spells a day of the calendar. -/
theorem readNumber_year {sign : Numeral.Sign} {ys : List Char} (four : 4 ≤ ys.length)
    (unsigned : sign = .none → ys.length = 4) (digits : ∀ c ∈ ys, c.isDigit = true)
    (hvalue : wholeValue ys ≤ DateReader.wordMax) (rest : List Char) :
    DateReader.readNumber .year (sign.chars ++ ys ++ '-' :: rest) =
      .ok (sign.factor * wholeValue ys, '-' :: rest) := by
  have hne : ys ≠ [] := List.ne_nil_of_length_pos (by omega)
  have hrest : ∀ c ∈ ('-' :: rest).head?, c.isDigit = false := by
    rintro c ⟨⟩
    rfl
  by_cases hsign : sign = .none
  · subst hsign
    have hwidth : ∀ w ∈ NumericField.year.width, ys.length ≤ w := by
      rintro w ⟨⟩
      exact (unsigned rfl).le
    have hread := DateReader.readNumber_append hne digits hwidth hrest hvalue
    rw [Numeral.Sign.chars, List.nil_append, hread, Numeral.Sign.factor, one_mul]
  · exact DateReader.readNumber_sign_append hsign rfl hne digits hrest hvalue

/-- A month or a day of a text that spells a day of the calendar. -/
theorem readNumber_two {field : NumericField} (hfield : field.width = some 2) {ds : List Char}
    (two : ds.length = 2) (digits : ∀ c ∈ ds, c.isDigit = true)
    (hvalue : wholeValue ds ≤ DateReader.wordMax) (rest : List Char)
    (hrest : ∀ c ∈ rest.head?, c.isDigit = false) :
    DateReader.readNumber field (ds ++ rest) = .ok ((wholeValue ds : Int), rest) := by
  refine DateReader.readNumber_append (List.ne_nil_of_length_pos (by omega)) digits ?_ hrest hvalue
  rw [hfield]
  rintro w ⟨⟩
  exact two.le

/-- A text that spells a day of the calendar gives its parts. -/
theorem IsSpelledBy.readFields {d : Date} {cs : List Char} (hspelled : d.IsSpelledBy cs)
    (h : d.IsValid) :
    DateReader.readFields (DateItem.ofFormat "%Y-%m-%d") cs = .ok d.formFields := by
  obtain ⟨hgiveYear, hgiveMonth, hgiveDay⟩ := giveNumber_formFields h
  obtain ⟨hfirst, hlast, -, hmonth, -, hday⟩ := h
  have hdays := daysInMonth_le d.year d.month
  have hword : 262143 ≤ DateReader.wordMax := by decide
  cases hspelled with
  | @intro sign ys ms ds year_eq month_eq day_eq four unsigned twoOfMonth twoOfDay digits =>
    simp only [List.mem_append, or_imp, forall_and] at digits
    obtain ⟨⟨hys, hms⟩, hds⟩ := digits
    have hvalue : wholeValue ys ≤ 262143 := by
      rw [firstYear, year_eq] at hfirst
      rw [lastYear, year_eq] at hlast
      cases sign <;> simp only [Numeral.Sign.factor] at hfirst hlast <;> omega
    have hyear := readNumber_year four unsigned hys (hvalue.trans hword) (ms ++ '-' :: ds)
    have hwidth : NumericField.month.width = some 2 := rfl
    have hwidth' : NumericField.day.width = some 2 := rfl
    have hmonths := readNumber_two hwidth twoOfMonth hms (by omega) ('-' :: ds) (by simp)
    have hdayOf := readNumber_two hwidth' twoOfDay hds (by omega) [] (by simp)
    rw [← year_eq] at hyear
    rw [← month_eq] at hmonths
    rw [← day_eq, List.append_nil] at hdayOf
    -- the items take their characters off the front, and each number gives a new part
    rw [DateReader.readFields, ofFormat_form]
    simp only [List.foldlM_cons, List.foldlM_nil, DateReader.readItem_number hyear hgiveYear,
      DateReader.readItem_number hmonths hgiveMonth, DateReader.readItem_number hdayOf hgiveDay,
      DateReader.readItem_hyphen, ok_bind]
    rfl

/-- All characters of a date are visible, so that there is nothing to trim. -/
theorem IsSpelledBy.trimChars_eq {d : Date} {cs : List Char} (h : d.IsSpelledBy cs) :
    Text.trimChars cs = cs := by
  have hvisible : ∀ c ∈ cs, 0x20 < c.toNat ∧ c.toNat < 0x80 := by
    cases h with
    | @intro sign ys ms ds year_eq month_eq day_eq four unsigned twoOfMonth twoOfDay digits =>
      intro c hc
      have hcases : c ∈ sign.chars ∨ c ∈ ys ++ ms ++ ds ∨ c = '-' := by
        simp only [List.mem_append, List.mem_cons] at hc ⊢
        tauto
      rcases hcases with hsign | hdigit | rfl
      · cases sign <;> simp only [Numeral.Sign.chars, List.mem_singleton, List.not_mem_nil] at hsign
        · subst hsign
          decide
        · subst hsign
          decide
      · have hcode : 48 ≤ c.toNat ∧ c.toNat ≤ 57 := Char.isDigit_iff_toNat.mp (digits c hdigit)
        omega
      · decide
  have htrim := Text.trim_eq_self (s := .ofList cs) fun c hc => by
    rw [String.toList_ofList] at hc
    exact Unicode.isWhiteSpace_eq_false (hvisible c hc).1 (hvisible c hc).2
  rw [Text.trim, String.toList_ofList] at htrim
  exact String.ofList_injective htrim

/-- A text that spells a day of the calendar is read as this day. -/
theorem IsSpelledBy.read {d : Date} {s : String} (hspelled : d.IsSpelledBy s.toList)
    (h : d.IsValid) : Date.read s "%Y-%m-%d" = .ok d := by
  rw [Date.read, hspelled.trimChars_eq, hspelled.readFields h, ok_bind, toDate_formFields h]

end Date

end RecordScript

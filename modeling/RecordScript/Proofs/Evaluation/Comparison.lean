import Mathlib.Data.List.Lex
import Mathlib.Data.String.Basic
import RecordScript.Proofs.Evaluation.Arithmetic
import RecordScript.Proofs.Typing.Calls

/-!
# Comparisons

Two operands are compared as values of one type, which does not depend on the operator. For texts
and numbers all six operators look at one order of the two values: that of the code points of the
texts, or that of the rational numbers. So the operators agree with each other and with their
mirrored forms, whatever the operands are.
-/

namespace RecordScript

open Result

/-! ### Texts by their code points -/

namespace Text

/-- The numbers of the characters of a text. -/
def codePoints (s : String) : List ℕ := s.toList.map Char.toNat

theorem codePoints_inj {s t : String} : codePoints s = codePoints t ↔ s = t := by
  rw [codePoints, codePoints, (List.map_injective_iff.mpr fun _ _ => Char.toNat_inj.mp).eq_iff,
    String.toList_inj]

theorem map_toNat_lt_iff {cs ds : List Char} :
    cs.map Char.toNat < ds.map Char.toNat ↔ cs < ds := by
  induction cs generalizing ds with
  | nil => cases ds <;> simp
  | cons c cs ih =>
    cases ds with
    | nil => simp
    | cons d ds =>
      rw [List.map_cons, List.map_cons, List.cons_lt_cons_iff, List.cons_lt_cons_iff, ih,
        Char.toNat_inj, Char.lt_def, UInt32.lt_iff_toNat_lt]
      rfl

/-- Texts are in the order of their code points. -/
theorem compare_eq_lt_iff {s t : String} : compare s t = .lt ↔ codePoints s < codePoints t := by
  rw [codePoints, codePoints, map_toNat_lt_iff, ← String.lt_iff_toList_lt]
  exact compareOfLessAndEq_eq_lt

end Text

/-! ### Operators and orders -/

namespace CompareOp

/-- The operator that says the same of two things in the other order. -/
def mirrored : CompareOp → CompareOp
  | eq => eq
  | ne => ne
  | lt => gt
  | le => ge
  | gt => lt
  | ge => le

/-- What the operator says of two elements of an ordered type. -/
def Relates {α : Type} [LT α] [LE α] : CompareOp → α → α → Prop
  | eq, a, b => a = b
  | ne, a, b => a ≠ b
  | lt, a, b => a < b
  | le, a, b => a ≤ b
  | gt, a, b => b < a
  | ge, a, b => b ≤ a

/-- The operators that ask which of two things is the larger one. -/
def orders : List CompareOp := [lt, le, gt, ge]

theorem holds_mirrored (op : CompareOp) (o : Ordering) : op.mirrored.holds o.swap = op.holds o := by
  cases op <;> cases o <;> rfl

/-- An operator holds of an ordering if it relates two elements that are in this order. -/
theorem holds_iff_relates {α : Type} [LinearOrder α] {o : Ordering} {a b : α}
    (hlt : o = .lt ↔ a < b) (heq : o = .eq ↔ a = b) (op : CompareOp) :
    op.holds o = true ↔ op.Relates a b := by
  have hgt : o = .gt ↔ b < a := by
    rcases lt_trichotomy a b with h | h | h
    · simp [hlt.mpr h, h.asymm]
    · simp [heq.mpr h, h]
    · have hne : o ≠ .lt ∧ o ≠ .eq := ⟨fun ho => h.asymm (hlt.mp ho), fun ho => h.ne' (heq.mp ho)⟩
      cases o <;> simp_all
  cases op with
  | eq => simp [holds, Relates, heq]
  | ne => simp [holds, Relates, heq]
  | lt => simp [holds, Relates, hlt]
  | le => simp [holds, Relates, hgt]
  | gt => simp [holds, Relates, hgt]
  | ge => simp [holds, Relates, hlt]

/-- An ordering is that of one of the operators. -/
theorem existsUnique_holds (o : Ordering) :
    ∃! op, op ∈ [lt, CompareOp.eq, gt] ∧ op.holds o = true := by
  cases o with
  | lt => exact ⟨lt, by decide, fun op h => by cases op <;> simp_all [holds]⟩
  | eq => exact ⟨eq, by decide, fun op h => by cases op <;> simp_all [holds]⟩
  | gt => exact ⟨gt, by decide, fun op h => by cases op <;> simp_all [holds]⟩

end CompareOp

variable [RegexEngine]

/-! ### The order of two operands -/

namespace Operand

/-- The type that two operands are compared as: that of a value, or a text for two fields. -/
def sharedType? (l r : Operand) : Option ValueType :=
  match l.strongType, r.strongType with
  | none, none => some .string
  | some t, none | none, some t => some t
  | some s, some t => if s = t then some s else none

/-- The values that two operands are compared by. -/
def comparands? (l r : Operand) : Option (Value × Value) := do
  let type ← l.sharedType? r
  let v ← (l.resolve type).toOption
  let w ← (r.resolve type).toOption
  return (v, w)

theorem eq_of_toText {o : Operand} {s : String} (h : o.toText = .ok s) :
    (∃ name, o = field name s) ∨ o = value (.string s) := by
  cases o with
  | field name text =>
    cases h
    exact .inl ⟨name, rfl⟩
  | value v =>
    cases v with
    | string s' =>
      cases h
      exact .inr rfl
    | _ => cases h

theorem strongType_of_toNumber {o : Operand} {n : Decimal} (h : o.toNumber = .ok n) :
    o.strongType = none ∨ o.strongType = some .number := by
  cases o with
  | field name text => exact .inl rfl
  | value v =>
    cases v with
    | number n' => exact .inr rfl
    | _ => cases h

theorem sharedType?_comm (l r : Operand) : l.sharedType? r = r.sharedType? l := by
  rw [sharedType?, sharedType?]
  cases l.strongType with
  | none => cases r.strongType <;> rfl
  | some s =>
    cases r.strongType with
    | none => rfl
    | some t =>
      by_cases h : s = t
      · rw [h]
      · simp [h, Ne.symm h]

theorem comparands?_comm (l r : Operand) : r.comparands? l = (l.comparands? r).map Prod.swap := by
  rw [comparands?, comparands?, sharedType?_comm]
  cases l.sharedType? r with
  | none => rfl
  | some type =>
    cases hl : (l.resolve type).toOption <;> cases hr : (r.resolve type).toOption <;>
      simp [hl, hr]

variable {l r : Operand}

/-- Operands that can be read as texts are compared as texts. -/
theorem comparands?_of_toText {s t : String} (hl : l.toText = .ok s) (hr : r.toText = .ok t) :
    l.comparands? r = some (.string s, .string t) := by
  obtain ⟨n, rfl⟩ | rfl := eq_of_toText hl <;> obtain ⟨m, rfl⟩ | rfl := eq_of_toText hr <;> rfl

/-- Operands that can be read as numbers, one of which is a number, are compared as numbers. -/
theorem comparands?_of_toNumber {a b : Decimal} (hl : l.toNumber = .ok a) (hr : r.toNumber = .ok b)
    (h : l.strongType = some .number ∨ r.strongType = some .number) :
    l.comparands? r = some (.number a, .number b) := by
  have hshared : l.sharedType? r = some .number := by
    rw [sharedType?]
    rcases strongType_of_toNumber hl with hl | hl <;> rcases strongType_of_toNumber hr with hr | hr
    · simp [hl, hr] at h
    all_goals simp [hl, hr]
  simp [comparands?, hshared, resolve_number hl, resolve_number hr, Except.toOption]

end Operand

namespace CompareOp

variable {op : CompareOp} {l r : Operand}

theorem toOption_commonType (op : CompareOp) (l r : Operand) :
    (op.commonType l r).toOption = l.sharedType? r := by
  rw [commonType, Operand.sharedType?]
  cases l.strongType with
  | none => cases r.strongType <;> rfl
  | some s =>
    cases r.strongType with
    | none => rfl
    | some t => by_cases h : s = t <;> simp [h, Except.toOption]

/-- A comparison succeeds if the operands have values of one type, and the operator can be used on
these. -/
theorem toOption_apply (op : CompareOp) (l r : Operand) :
    (op.apply l r).toOption = (l.comparands? r).bind fun vw =>
      (op.order? vw.1 vw.2).map op.holds := by
  rw [apply, Operand.comparands?]
  simp only [toOption_bind, toOption_commonType]
  cases l.sharedType? r with
  | none => rfl
  | some type =>
    cases hl : (l.resolve type).toOption with
    | none => simp [hl]
    | some v =>
      cases hr : (r.resolve type).toOption with
      | none => simp [hl, hr]
      | some w =>
        simp only [hl, hr, Option.bind_some, Option.bind_eq_bind, Option.pure_def]
        cases op.order? v w <;> rfl

/-- A comparison in one order says what the mirrored one says in the other. -/
theorem order?_mirrored (op : CompareOp) (v w : Value) :
    op.mirrored.order? w v = (op.order? v w).map Ordering.swap := by
  have hequality : op.mirrored.isEquality = op.isEquality := by cases op <;> rfl
  cases v <;> cases w <;> try rfl
  · exact congrArg some Std.OrientedCmp.eq_swap
  · exact congrArg some (Decimal.compare_swap ..).symm
  · rename_i a b
    have hswap : compare b a = (compare a b).swap := Std.OrientedCmp.eq_swap
    rw [order?, order?, hequality, hswap]
    split <;> rfl

/-! ### What comparisons say -/

theorem apply_mirrored (op : CompareOp) (l r : Operand) :
    (op.mirrored.apply r l).toOption = (op.apply l r).toOption := by
  rw [toOption_apply, toOption_apply, Operand.comparands?_comm]
  cases l.comparands? r with
  | none => rfl
  | some vw =>
    have hholds : op.mirrored.holds ∘ Ordering.swap = op.holds := funext op.holds_mirrored
    simp [order?_mirrored, hholds]

theorem apply_of_order? {v w : Value} {o : Ordering} (h : l.comparands? r = some (v, w))
    (ho : op.order? v w = some o) : op.apply l r = .ok (op.holds o) := by
  rw [← toOption_eq_some, toOption_apply, h, Option.bind_some, ho, Option.map_some]

theorem apply_ne (l r : Operand) : (ne.apply l r).toOption = (eq.apply l r).toOption.map not := by
  have hholds : ne.holds = not ∘ eq.holds := funext fun o => by cases o <;> rfl
  have horder : ne.order? = eq.order? := by
    funext v w
    cases v <;> cases w <;> rfl
  rw [toOption_apply, toOption_apply, horder, hholds, Option.map_bind]
  simp only [Function.comp_def, Option.map_map]

/-- Operands that one of the order operators can compare are in some order, which decides what each
of the operators says of them. -/
theorem exists_order (hop : op ∈ orders) {b : Bool} (h : op.apply l r = .ok b) :
    ∃ o : Ordering, ∀ op' : CompareOp, op'.apply l r = .ok (op'.holds o) := by
  rw [← toOption_eq_some, toOption_apply, Option.bind_eq_some_iff] at h
  obtain ⟨⟨v, w⟩, hvw, h⟩ := h
  obtain ⟨o, ho, -⟩ := Option.map_eq_some_iff.mp h
  have hequality : op.isEquality = false := by cases op <;> simp_all [orders, isEquality]
  refine ⟨o, fun op' => apply_of_order? hvw ?_⟩
  cases v <;> cases w <;> simp_all [order?]

/-- The comparison succeeds, and says whether the proposition holds. -/
def Decides (op : CompareOp) (l r : Operand) (p : Prop) : Prop :=
  ∃ b, op.apply l r = .ok b ∧ (b = true ↔ p)

theorem Decides.apply_eq_true_iff {p : Prop} (h : op.Decides l r p) :
    op.apply l r = .ok true ↔ p := by
  obtain ⟨b, hb, hp⟩ := h
  rw [hb, ← hp, Except.ok.injEq]

/-- Operands that can be read as texts are compared by the code points of these. -/
theorem decides_of_toText {s t : String} (hl : l.toText = .ok s) (hr : r.toText = .ok t)
    (op : CompareOp) : op.Decides l r (op.Relates (Text.codePoints s) (Text.codePoints t)) :=
  ⟨_, apply_of_order? (Operand.comparands?_of_toText hl hr) rfl,
    op.holds_iff_relates Text.compare_eq_lt_iff
      (Std.compare_eq_iff_eq.trans Text.codePoints_inj.symm)⟩

/-- A number is compared with what can be read as a number by the values of both. -/
theorem decides_of_toNumber {a b : Decimal} (hl : l.toNumber = .ok a) (hr : r.toNumber = .ok b)
    (h : l.strongType = some .number ∨ r.strongType = some .number) (op : CompareOp) :
    op.Decides l r (op.Relates a.value b.value) :=
  ⟨_, apply_of_order? (Operand.comparands?_of_toNumber hl hr h) rfl,
    op.holds_iff_relates Decimal.compare_eq_lt_iff Decimal.compare_eq_eq_iff⟩

/-- The operators compare all operands with the property, and put them in a linear order. -/
structure IsLinearOn (P : Operand → Prop) : Prop where
  supported : ∀ {l r}, P l → P r → ∀ op : CompareOp, ∃ b, op.apply l r = .ok b
  total : ∀ {l r}, P l → P r → le.apply l r = .ok true ∨ le.apply r l = .ok true
  antisymm : ∀ {l r}, P l → P r → le.apply l r = .ok true → le.apply r l = .ok true →
    eq.apply l r = .ok true
  trans : ∀ {op l m r}, op ≠ ne → P l → P m → P r → op.apply l m = .ok true →
    op.apply m r = .ok true → op.apply l r = .ok true

/-- Operands are in a linear order if they are compared by keys that are. -/
theorem IsLinearOn.of_key {α : Type} [LinearOrder α] {P : Operand → Prop} (key : Operand → α)
    (h : ∀ {l r}, P l → P r → ∀ op : CompareOp, op.Decides l r (op.Relates (key l) (key r))) :
    IsLinearOn P where
  supported hl hr op := (h hl hr op).imp fun _ hb => hb.1
  total {l r} hl hr := by
    rw [(h hl hr le).apply_eq_true_iff, (h hr hl le).apply_eq_true_iff]
    exact le_total (key l) (key r)
  antisymm hl hr := by
    rw [(h hl hr le).apply_eq_true_iff, (h hr hl le).apply_eq_true_iff,
      (h hl hr eq).apply_eq_true_iff]
    exact le_antisymm
  trans {op _ _ _} hop hl hm hr := by
    rw [(h hl hm op).apply_eq_true_iff, (h hm hr op).apply_eq_true_iff,
      (h hl hr op).apply_eq_true_iff]
    cases op with
    | eq => exact fun hlm hmr => hlm.trans hmr
    | ne => exact absurd rfl hop
    | lt => exact lt_trans
    | le => exact le_trans
    | gt => exact fun hlm hmr => lt_trans hmr hlm
    | ge => exact fun hlm hmr => le_trans hmr hlm

end CompareOp

theorem Operand.toText_eq_render {o : Operand}
    (h : o.strongType = none ∨ o.strongType = some .string) : o.toText = .ok o.render := by
  cases o with
  | field name text => rfl
  | value v =>
    cases v with
    | string s => rfl
    | _ => simp [strongType, Value.type] at h

namespace CompareOp

theorem isLinearOn_text {t : Option ValueType} (ht : t = none ∨ t = some .string) :
    IsLinearOn fun o => o.strongType = t :=
  .of_key (fun o => Text.codePoints o.render) fun {_ _} hl hr =>
    decides_of_toText (Operand.toText_eq_render (hl ▸ ht)) (Operand.toText_eq_render (hr ▸ ht))

theorem isLinearOn_number : IsLinearOn fun o => o.strongType = some .number := by
  refine .of_key (fun o => o.toNumber.toOption.elim 0 Decimal.value) fun {l r} hl hr => ?_
  obtain ⟨a, rfl⟩ := Builtin.exists_number_of_strongType hl
  obtain ⟨b, rfl⟩ := Builtin.exists_number_of_strongType hr
  exact decides_of_toNumber rfl rfl (.inl rfl)

/-- Comparisons agree with each other: with their mirrored forms, and as one linear order does
wherever the order operators can be used at all, which they can among fields, texts or numbers. That
order is the one of the values of numbers, whatever their scales, and of the code points of texts,
so that two fields are equal only if they hold the same text. -/
theorem apply_coherent (l r : Operand) :
    (∀ op b, CompareOp.apply op l r = .ok b ↔ op.mirrored.apply r l = .ok b) ∧
    (∀ b, eq.apply l r = .ok b ↔ ne.apply l r = .ok !b) ∧
    (∀ op ∈ orders, (∃ b, op.apply l r = .ok b) →
      (∀ op' : CompareOp, ∃ b, op'.apply l r = .ok b) ∧
      (∃! op', op' ∈ [lt, eq, gt] ∧ op'.apply l r = .ok true) ∧
      (le.apply l r = .ok true ↔ lt.apply l r = .ok true ∨ eq.apply l r = .ok true) ∧
      (ge.apply l r = .ok true ↔ gt.apply l r = .ok true ∨ eq.apply l r = .ok true)) ∧
    (∀ t ∈ [none, some .string, some .number], IsLinearOn fun o => o.strongType = t) ∧
    (∀ a b, l.toNumber = .ok a → r.toNumber = .ok b →
      l.strongType = some .number ∨ r.strongType = some .number →
      ∀ op : CompareOp, op.Decides l r (op.Relates a.value b.value)) ∧
    (∀ s t, l.toText = .ok s → r.toText = .ok t →
      ∀ op : CompareOp, op.Decides l r (op.Relates (Text.codePoints s) (Text.codePoints t))) ∧
    (∀ m n s t, l = .field m s → r = .field n t → (eq.apply l r = .ok true ↔ s = t)) := by
  refine ⟨fun op b => ?_, fun b => ?_, fun op hop ⟨b, hb⟩ => ?_, fun t ht => ?_,
    fun a b => decides_of_toNumber, fun s t => decides_of_toText, ?_⟩
  · rw [← toOption_eq_some, ← apply_mirrored, toOption_eq_some]
  · rw [← toOption_eq_some, ← toOption_eq_some, apply_ne, Option.map_eq_some_iff]
    simp
  · obtain ⟨o, ho⟩ := exists_order hop hb
    simp only [ho, Except.ok.injEq]
    exact ⟨fun op' => ⟨_, rfl⟩, existsUnique_holds o, by cases o <;> decide, by cases o <;> decide⟩
  · have hmem : (t = none ∨ t = some .string) ∨ t = some .number := by simpa [or_assoc] using ht
    rcases hmem with h | rfl
    · exact isLinearOn_text h
    · exact isLinearOn_number
  · rintro m n s t rfl rfl
    rw [(decides_of_toText rfl rfl eq).apply_eq_true_iff]
    exact Text.codePoints_inj

/-- The number 1 equals the number 1.00. -/
example : eq.apply (.value (.number ⟨1, 0⟩)) (.value (.number ⟨100, 2⟩)) = .ok true := rfl

end CompareOp

end RecordScript

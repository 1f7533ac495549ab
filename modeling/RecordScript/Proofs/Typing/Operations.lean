import RecordScript.Evaluation.Basic
import RecordScript.Proofs.Result
import RecordScript.Proofs.Typing.Basic

/-!
# Operations on typed operands

An operation that takes the types of its operands never ends in a type fault; one that does not take
them always fails. Each operation is treated once, for both directions.
-/

namespace RecordScript

open Result

variable [RegexEngine]

/-- Whether the fault is that a value of some type does not fit. -/
def Fault.IsType : Fault → Prop
  | .type _ => True
  | _ => False

/-- The result has a value with the property, or it is a fault other than one of types. -/
def Untroubled {α : Type} (P : α → Prop) (r : Except Fault α) : Prop :=
  (∃ a, r = .ok a ∧ P a) ∨ ∃ fault, r = .error fault ∧ ¬ fault.IsType

/-- The result is a fault. -/
def IsFault {α : Type} (r : Except Fault α) : Prop := ∃ fault, r = .error fault

namespace Untroubled

variable {α β : Type} {P : α → Prop} {Q : β → Prop}

theorem ok {a : α} (h : P a) : Untroubled P (.ok a) := .inl ⟨a, rfl, h⟩

theorem error {fault : Fault} (h : ¬ fault.IsType) : Untroubled P (.error fault) :=
  .inr ⟨fault, rfl, h⟩

theorem bind {r : Except Fault α} {f : α → Except Fault β} (hr : Untroubled P r)
    (hf : ∀ a, P a → Untroubled Q (f a)) : Untroubled Q (r >>= f) := by
  rcases hr with ⟨a, rfl, ha⟩ | ⟨fault, rfl, hfault⟩
  · exact hf a ha
  · exact .error hfault

theorem map {r : Except Fault α} {f : α → β} (hr : Untroubled P r) (hf : ∀ a, P a → Q (f a)) :
    Untroubled Q (r.map f) := by
  rcases hr with ⟨a, rfl, ha⟩ | ⟨fault, rfl, hfault⟩
  · exact .ok (hf a ha)
  · exact .error hfault

end Untroubled

namespace IsFault

variable {α β : Type}

theorem bind_left {r : Except Fault α} {f : α → Except Fault β} (hr : IsFault r) :
    IsFault (r >>= f) := by
  obtain ⟨fault, rfl⟩ := hr
  exact ⟨fault, rfl⟩

theorem bind_right {r : Except Fault α} {f : α → Except Fault β} (hf : ∀ a, IsFault (f a)) :
    IsFault (r >>= f) := by
  cases r with
  | ok a => exact hf a
  | error fault => exact ⟨fault, rfl⟩

/-- What follows a value with the property need only fail for such values. -/
theorem bind_of_untroubled {P : α → Prop} {r : Except Fault α} {f : α → Except Fault β}
    (hr : Untroubled P r) (hf : ∀ a, P a → IsFault (f a)) : IsFault (r >>= f) := by
  rcases hr with ⟨a, rfl, ha⟩ | ⟨fault, rfl, -⟩
  · exact hf a ha
  · exact ⟨fault, rfl⟩

theorem map {r : Except Fault α} {f : α → β} (hr : IsFault r) : IsFault (r.map f) := by
  obtain ⟨fault, rfl⟩ := hr
  exact ⟨fault, rfl⟩

end IsFault

namespace Operand

variable {o : Operand} {t : StaticType}

theorem toNumber_untroubled (ho : o.strongType = t) (h : t.admits .number = true) :
    Untroubled (fun _ => True) o.toNumber := by
  subst ho
  cases o with
  | field name text =>
    rw [toNumber]
    cases Decimal.parse text with
    | some n => exact .ok trivial
    | none => exact .error id
  | value v => cases v <;> simp_all [strongType, StaticType.admits, Value.type, toNumber, Untroubled]

theorem toNumber_isFault (ho : o.strongType = t) (h : t.admits .number = false) :
    IsFault o.toNumber := by
  subst ho
  cases o with
  | field name text => simp [strongType, StaticType.admits] at h
  | value v => cases v <;> simp_all [strongType, StaticType.admits, Value.type, toNumber, IsFault]

theorem toText_untroubled (ho : o.strongType = t) (h : t.admits .string = true) :
    Untroubled (fun _ => True) o.toText := by
  subst ho
  cases o with
  | field name text => exact .ok trivial
  | value v => cases v <;> simp_all [strongType, StaticType.admits, Value.type, toText, Untroubled]

theorem toText_isFault (ho : o.strongType = t) (h : t.admits .string = false) :
    IsFault o.toText := by
  subst ho
  cases o with
  | field name text => simp [strongType, StaticType.admits] at h
  | value v => cases v <;> simp_all [strongType, StaticType.admits, Value.type, toText, IsFault]

theorem toBoolean_untroubled (ho : o.strongType = some .boolean) :
    Untroubled (fun _ => True) o.toBoolean := by
  cases o with
  | field name text => simp [strongType] at ho
  | value v => cases v <;> simp_all [strongType, Value.type, toBoolean, Untroubled]

theorem toBoolean_isFault (ho : o.strongType = t) (h : t ≠ some .boolean) :
    IsFault o.toBoolean := by
  subst ho
  cases o with
  | field name text => exact ⟨_, rfl⟩
  | value v => cases v <;> simp_all [strongType, Value.type, toBoolean, IsFault]

/-- A field and a value of the type can both be read as a value of a type that fields are compared
as. -/
theorem resolve_untroubled {v : ValueType} (ho : o.strongType = t) (h : t.admits v = true)
    (hv : v.comparesWithField = true) : Untroubled (·.type = v) (o.resolve v) := by
  subst ho
  cases o with
  | field name text =>
    cases v with
    | string => exact .ok rfl
    | number =>
      rw [resolve]
      cases Decimal.parse text with
      | some n => exact .ok rfl
      | none => exact .error id
    | _ => simp [ValueType.comparesWithField] at hv
  | value w =>
    obtain rfl : w.type = v := by simpa [strongType, StaticType.admits] using h
    rw [resolve, if_pos rfl]
    exact .ok rfl

theorem resolve_of_type {v : ValueType} (ho : o.strongType = some v) :
    Untroubled (·.type = v) (o.resolve v) := by
  cases o with
  | field name text => simp [strongType] at ho
  | value w =>
    obtain rfl : w.type = v := by simpa [strongType] using ho
    rw [resolve, if_pos rfl]
    exact .ok rfl

theorem resolve_isFault_of_field {v : ValueType} (ho : o.strongType = none)
    (hv : v.comparesWithField = false) : IsFault (o.resolve v) := by
  cases o with
  | field name text => cases v <;> simp_all [ValueType.comparesWithField, resolve, IsFault]
  | value w => simp [strongType] at ho

theorem resolve_isFault {v : ValueType} (ho : o.strongType = t) (h : t.admits v = false) :
    IsFault (o.resolve v) := by
  subst ho
  cases o with
  | field name text => simp [strongType, StaticType.admits] at h
  | value w =>
    have hne : w.type ≠ v := by simpa [strongType, StaticType.admits] using h
    rw [resolve, if_neg hne]
    exact ⟨_, rfl⟩

end Operand

namespace UnaryOp

variable {op : UnaryOp} {o : Operand} {t : StaticType}

theorem apply_untroubled (ho : o.strongType = t) (h : op.takes t = true) :
    Untroubled (·.type = op.resultType) (op.apply o) := by
  cases op with
  | plus | minus => exact (o.toNumber_untroubled ho h).map fun _ _ => rfl
  | not =>
    have hb : t = some .boolean := by simpa [takes] using h
    exact (o.toBoolean_untroubled (ho.trans hb)).map fun _ _ => rfl

theorem apply_isFault (ho : o.strongType = t) (h : op.takes t = false) : IsFault (op.apply o) := by
  cases op with
  | plus | minus => exact (o.toNumber_isFault ho h).map
  | not =>
    have hb : t ≠ some .boolean := by simpa [takes] using h
    exact (o.toBoolean_isFault ho hb).map

end UnaryOp

namespace BinaryOp

variable {op : BinaryOp} {l r : Operand} {s t : StaticType}

/-- Arithmetic fails for its numbers only where it divides by zero. -/
theorem arithmetic_untroubled {compute : Decimal → Decimal → Except Fault Decimal}
    (h : op.arithmetic? = some compute) (a b : Decimal) :
    Untroubled (fun _ => True) (compute a b) := by
  have hnonzero : ∀ f, Untroubled (fun _ => True) (byNonzero f a b) := by
    intro f
    rw [byNonzero]
    split
    · exact .error id
    · exact .ok trivial
  cases op with
  | div | rem =>
    cases h
    exact hnonzero _
  | concat => cases h
  | _ =>
    cases h
    exact .ok trivial

theorem arithmetic?_eq_none_iff : op.arithmetic? = none ↔ op = .concat := by
  cases op <;> simp [arithmetic?]

theorem apply_untroubled (hl : l.strongType = s) (hr : r.strongType = t)
    (hs : s.admits op.operandType = true) (ht : t.admits op.operandType = true) :
    Untroubled (·.type = op.operandType) (op.apply l r) := by
  rw [apply]
  cases h : op.arithmetic? with
  | none =>
    obtain rfl := arithmetic?_eq_none_iff.mp h
    refine (l.toText_untroubled hl hs).bind fun _ _ => ?_
    exact (r.toText_untroubled hr ht).bind fun _ _ => .ok rfl
  | some compute =>
    have hop : op.operandType = .number := by
      cases op with
      | concat => cases h
      | _ => rfl
    rw [hop] at hs ht ⊢
    refine (l.toNumber_untroubled hl hs).bind fun a _ => ?_
    refine (r.toNumber_untroubled hr ht).bind fun b _ => ?_
    exact (arithmetic_untroubled h a b).bind fun _ _ => .ok rfl

theorem apply_isFault (hl : l.strongType = s) (hr : r.strongType = t)
    (h : (s.admits op.operandType && t.admits op.operandType) = false) :
    IsFault (op.apply l r) := by
  rw [apply]
  rw [Bool.and_eq_false_iff] at h
  cases ha : op.arithmetic? with
  | none =>
    obtain rfl := arithmetic?_eq_none_iff.mp ha
    rcases h with h | h
    · exact (l.toText_isFault hl h).bind_left
    · exact .bind_right fun _ => (r.toText_isFault hr h).bind_left
  | some compute =>
    have hop : op.operandType = .number := by
      cases op with
      | concat => cases ha
      | _ => rfl
    rw [hop] at h
    rcases h with h | h
    · exact (l.toNumber_isFault hl h).bind_left
    · exact .bind_right fun _ => (r.toNumber_isFault hr h).bind_left

end BinaryOp

namespace CompareOp

variable {op : CompareOp} {l r : Operand} {s t : StaticType}

/-- Values of one type have an order exactly if the operator compares values of the type. -/
theorem isSome_order? {v : ValueType} {a b : Value} (ha : a.type = v) (hb : b.type = v) :
    (op.order? a b).isSome = op.compares v := by
  subst ha
  cases a <;> cases b <;> simp_all [Value.type, order?, compares]
  split <;> simp_all

omit [RegexEngine] in
theorem compares_of_comparesWithField {v : ValueType} (h : v.comparesWithField = true) :
    op.compares v = true := by
  cases v <;> simp_all [ValueType.comparesWithField, compares]

theorem apply_eq_of_commonType {v : ValueType} (h : op.commonType l r = .ok v) :
    op.apply l r = (do
      let left ← l.resolve v
      let right ← r.resolve v
      match op.order? left right with
      | some order => return op.holds order
      | none => throw (.type (.notOrdered v op))) := by
  rw [apply, h]
  rfl

/-- Once both operands are values of a type that the operator compares, the comparison succeeds. -/
theorem apply_untroubled_of_type {v : ValueType} (htype : op.commonType l r = .ok v)
    (hl : Untroubled (·.type = v) (l.resolve v)) (hr : Untroubled (·.type = v) (r.resolve v))
    (hv : op.compares v = true) : Untroubled (fun _ => True) (op.apply l r) := by
  rw [apply_eq_of_commonType htype]
  refine hl.bind fun a ha => hr.bind fun b hb => ?_
  have hsome : (op.order? a b).isSome = true := by rw [isSome_order? ha hb, hv]
  obtain ⟨order, horder⟩ := Option.isSome_iff_exists.mp hsome
  rw [horder]
  exact .ok trivial

theorem apply_untroubled (hl : l.strongType = s) (hr : r.strongType = t)
    (h : op.takes s t = true) : Untroubled (fun _ => True) (op.apply l r) := by
  cases s with
  | none =>
    cases t with
    | none =>
      exact apply_untroubled_of_type (by rw [commonType, hl, hr]) (l.resolve_untroubled hl rfl rfl)
        (r.resolve_untroubled hr rfl rfl) rfl
    | some v =>
      exact apply_untroubled_of_type (by rw [commonType, hl, hr]) (l.resolve_untroubled hl rfl h)
        (r.resolve_of_type hr) (compares_of_comparesWithField h)
  | some v =>
    cases t with
    | none =>
      exact apply_untroubled_of_type (by rw [commonType, hl, hr]) (l.resolve_of_type hl)
        (r.resolve_untroubled hr rfl h) (compares_of_comparesWithField h)
    | some w =>
      obtain ⟨rfl, hv⟩ : v = w ∧ op.compares v = true := by simpa [takes] using h
      exact apply_untroubled_of_type (by simp [commonType, hl, hr]) (l.resolve_of_type hl)
        (r.resolve_of_type hr) hv

theorem apply_isFault (hl : l.strongType = s) (hr : r.strongType = t)
    (h : op.takes s t = false) : IsFault (op.apply l r) := by
  cases s with
  | none =>
    cases t with
    | none => cases h
    | some v =>
      rw [apply_eq_of_commonType (v := v) (by rw [commonType, hl, hr])]
      exact (l.resolve_isFault_of_field hl h).bind_left
  | some v =>
    cases t with
    | none =>
      rw [apply_eq_of_commonType (v := v) (by rw [commonType, hl, hr])]
      exact .bind_right fun _ => (r.resolve_isFault_of_field hr h).bind_left
    | some w =>
      by_cases hvw : v = w
      · -- both values have one type, which the operator does not compare
        subst hvw
        have hv : op.compares v = false := by simpa [takes] using h
        rw [apply_eq_of_commonType (v := v) (by simp [commonType, hl, hr])]
        refine .bind_of_untroubled (l.resolve_of_type hl) fun a ha => ?_
        refine .bind_of_untroubled (r.resolve_of_type hr) fun b hb => ?_
        have hnone : op.order? a b = none := by
          rw [← Option.not_isSome_iff_eq_none, isSome_order? ha hb, hv]
          decide
        rw [hnone]
        exact ⟨_, rfl⟩
      · have hcommon : op.commonType l r = .error (.type (.notComparable v op w)) := by
          simp [commonType, hl, hr, hvw]
        rw [apply, hcommon]
        exact ⟨_, rfl⟩

end CompareOp

namespace Config

variable {config : Config} {subject pattern : Operand} {s t : StaticType}

/-- A match against an operand that is no pattern value looks for its text. -/
theorem isMatch_eq_of_type (h : pattern.strongType ≠ some .regex) :
    config.isMatch subject pattern = (do
      let subject ← subject.toText
      return config.textMatches subject (← pattern.toText)) := by
  rw [isMatch]
  cases pattern with
  | field name text => rfl
  | value v =>
    cases v with
    | regex p => exact absurd rfl h
    | _ => rfl

theorem isMatch_untroubled (hs : subject.strongType = s) (ht : pattern.strongType = t)
    (h : s.admits .string = true) (hp : t.isPattern = true) :
    Untroubled (fun _ => True) (config.isMatch subject pattern) := by
  by_cases hregex : t = some .regex
  · subst hregex
    cases pattern with
    | field name text => cases ht
    | value v =>
      cases v with
      | regex p => exact (subject.toText_untroubled hs h).bind fun _ _ => .ok trivial
      | _ => cases ht
  · have htext : t.admits .string = true := by simpa [StaticType.isPattern, hregex] using hp
    rw [isMatch_eq_of_type (ht ▸ hregex)]
    refine (subject.toText_untroubled hs h).bind fun _ _ => ?_
    exact (pattern.toText_untroubled ht htext).bind fun _ _ => .ok trivial

theorem isMatch_isFault (hs : subject.strongType = s) (ht : pattern.strongType = t)
    (h : (s.admits .string && t.isPattern) = false) :
    IsFault (config.isMatch subject pattern) := by
  rcases Bool.and_eq_false_iff.mp h with h | h
  · exact (subject.toText_isFault hs h).bind_left
  · obtain ⟨htext, hregex⟩ : t.admits .string = false ∧ t ≠ some .regex := by
      simpa [StaticType.isPattern] using h
    rw [isMatch_eq_of_type (ht ▸ hregex)]
    exact .bind_right fun _ => (pattern.toText_isFault ht htext).bind_left

end Config

end RecordScript

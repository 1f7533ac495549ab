import RecordScript.Builtin.Call
import RecordScript.Proofs.Typing.Operations

/-!
# Calls with typed arguments

What a function does with arguments of the types that it takes, and with others: a parameter with a
type refuses them when they are passed, and a parameter without one leaves that to the function.
-/

namespace RecordScript

open Result

variable [RegexEngine]

namespace Builtin

variable {f : Builtin} {index : Nat} {o : Operand} {t : StaticType}

/-- Whether an operand is what the function gets as its argument at the given index. -/
def Receives (f : Builtin) (index : Nat) (o : Operand) : Prop :=
  match f.param index with
  | .string => o.strongType = some .string
  | .number => o.strongType = some .number
  | .any => f.takesUntyped o.strongType = true

/-- Whether all operands are what the function gets, from the one at the given index on. -/
def ReceivesAll (f : Builtin) : Nat → List Operand → Prop
  | _, [] => True
  | index, o :: os => f.Receives index o ∧ f.ReceivesAll (index + 1) os

theorem resolve_to_operand {v : ValueType} {r : Except Fault Value}
    (h : Untroubled (·.type = v) r) :
    Untroubled (·.strongType = some v) (r.map Operand.value) :=
  h.map fun _ ha => congrArg some ha

theorem accept_untroubled (ho : o.strongType = t) (h : f.takes index t = true) :
    Untroubled (f.Receives index) ((f.param index).accept o) := by
  unfold takes at h
  unfold Receives
  cases hp : f.param index with
  | string =>
    rw [hp] at h
    exact resolve_to_operand (o.resolve_untroubled ho h rfl)
  | number =>
    rw [hp] at h
    exact resolve_to_operand (o.resolve_untroubled ho h rfl)
  | any =>
    rw [hp] at h
    exact .ok (ho ▸ h)

/-- An operand that the function does not take is refused, or left to the function as it is. -/
theorem accept_of_not_takes (ho : o.strongType = t) (h : f.takes index t = false) :
    IsFault ((f.param index).accept o) ∨
      (f.param index).accept o = .ok o ∧ f.takesUntyped o.strongType = false := by
  unfold takes at h
  cases hp : f.param index with
  | string =>
    rw [hp] at h
    exact .inl (o.resolve_isFault ho h).map
  | number =>
    rw [hp] at h
    exact .inl (o.resolve_isFault ho h).map
  | any =>
    rw [hp] at h
    exact .inr ⟨rfl, ho ▸ h⟩

/-- A text operand is the text itself. -/
theorem exists_text_of_strongType (h : o.strongType = some .string) :
    ∃ s, o = .value (.string s) := by
  cases o with
  | field name text => cases h
  | value v => cases v <;> simp_all [Operand.strongType, Value.type]

theorem exists_number_of_strongType (h : o.strongType = some .number) :
    ∃ n, o = .value (.number n) := by
  cases o with
  | field name text => cases h
  | value v => cases v <;> simp_all [Operand.strongType, Value.type]

theorem readNumber_untroubled (field : Option String) (text : String) :
    Untroubled (·.type = .number) (readNumber field text) := by
  rw [readNumber]
  split
  · exact .ok rfl
  · exact .error id

theorem callAsNumber_untroubled (h : asNumber.takesUntyped o.strongType = true) :
    Untroubled (·.type = .number) (callAsNumber [o]) := by
  cases o with
  | field name text =>
    rw [callAsNumber]
    exact readNumber_untroubled _ _
  | value v =>
    cases v with
    | string s =>
      rw [callAsNumber]
      exact readNumber_untroubled _ _
    | number n => exact .ok rfl
    | _ => cases h

theorem callAsNumber_isFault (h : asNumber.takesUntyped o.strongType = false) :
    IsFault (callAsNumber [o]) := by
  cases o with
  | field name text => cases h
  | value v =>
    cases v with
    | string s => cases h
    | number n => cases h
    | _ => exact ⟨_, rfl⟩

theorem receivesAll_log {os : List Operand} (h : log.ReceivesAll index os) :
    ∀ o ∈ os, o ≠ .value .none := by
  induction os generalizing index with
  | nil => simp
  | cons o os ih =>
    have hparam : log.param index = .any := by cases index <;> rfl
    have ho : log.takesUntyped o.strongType = true := by
      have := h.1
      rwa [Receives, hparam] at this
    rw [List.forall_mem_cons]
    refine ⟨?_, ih h.2⟩
    rintro rfl
    cases ho

theorem callReadDate_untroubled (text format : String) :
    Untroubled (·.type = .string)
      (callReadDate [.value (.string text), .value (.string format)]) := by
  simp only [callReadDate, Operand.toText, ok_bind]
  split
  · exact .ok rfl
  · exact .error id

theorem toInteger_untroubled (n : Decimal) :
    Untroubled (fun _ => True) (toInteger (.value (.number n))) := by
  simp only [toInteger, Operand.toNumber, ok_bind]
  split
  · exact .ok trivial
  · exact .error id

/-- A function gives a value of its type for arguments that it takes, unless it fails for another
reason than their types. -/
theorem call_untroubled {config : Config} {record : Record} {os : List Operand}
    (harity : f.arity.accepts os.length = true) (h : f.ReceivesAll 0 os) :
    Untroubled (·.type = f.resultType) (f.call config record os).result := by
  cases f with
  | asNumber =>
    obtain ⟨o, rfl⟩ : ∃ o, os = [o] := List.length_eq_one_iff.mp (of_decide_eq_true harity)
    exact callAsNumber_untroubled h.1
  | log =>
    have hnone : os.any (· = .value .none) = false := by
      simpa using receivesAll_log h
    rw [call, callLog, hnone]
    exact .ok rfl
  | readDate =>
    obtain ⟨a, b, rfl⟩ : ∃ a b, os = [a, b] := List.length_eq_two.mp (of_decide_eq_true harity)
    obtain ⟨text, rfl⟩ := exists_text_of_strongType h.1
    obtain ⟨format, rfl⟩ := exists_text_of_strongType h.2.1
    exact callReadDate_untroubled text format
  | substring =>
    obtain ⟨a, b, c, rfl⟩ : ∃ a b c, os = [a, b, c] :=
      List.length_eq_three.mp (of_decide_eq_true harity)
    obtain ⟨text, rfl⟩ := exists_text_of_strongType h.1
    obtain ⟨i, rfl⟩ := exists_number_of_strongType h.2.1
    obtain ⟨j, rfl⟩ := exists_number_of_strongType h.2.2.1
    simp only [call, Outcome.ofExcept, callSubstring, Operand.toText, ok_bind]
    refine (toInteger_untroubled i).bind fun _ _ => ?_
    exact (toInteger_untroubled j).bind fun _ _ => .ok rfl
  | recordText | inputProtocol | outputProtocol => exact .ok rfl

/-- A function fails if an argument is left to it that it does not take. -/
theorem call_isFault {config : Config} {record : Record} {os : List Operand}
    (harity : f.arity.accepts os.length = true)
    (h : ∃ o ∈ os, f.takesUntyped o.strongType = false) :
    IsFault (f.call config record os).result := by
  obtain ⟨o, ho, hnot⟩ := h
  cases f with
  | asNumber =>
    obtain ⟨o', rfl⟩ : ∃ o, os = [o] := List.length_eq_one_iff.mp (of_decide_eq_true harity)
    obtain rfl := List.mem_singleton.mp ho
    exact callAsNumber_isFault hnot
  | log =>
    have hvalue : o = .value .none := by
      cases o with
      | field name text => cases hnot
      | value v => cases v <;> simp_all [takesUntyped, Operand.strongType, Value.type]
    have hnone : os.any (· = .value .none) = true :=
      List.any_eq_true.mpr ⟨o, ho, by simp [hvalue]⟩
    rw [call, callLog, hnone]
    exact ⟨_, rfl⟩
  | _ => cases hnot

end Builtin

end RecordScript

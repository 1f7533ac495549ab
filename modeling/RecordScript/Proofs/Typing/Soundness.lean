import Mathlib
import RecordScript.Loading.Basic
import RecordScript.Pattern.PlaceEngine
import RecordScript.Proofs.Evaluation.Outcome
import RecordScript.Proofs.Loading.Preparation
import RecordScript.Proofs.Syntax.Equality
import RecordScript.Proofs.Typing.Calls
import RecordScript.Source.Table

/-!
# Soundness of static types

An expression with a static type never ends in a type fault, whatever the record is, and what it
gives has its type. A strict expression of a loaded program that has no static type fails for every
record.
-/

namespace RecordScript

open Result

variable [RegexEngine] {config : Config} {record : Record}

/-- The claim about an expression that has a type. -/
def Expr.EvaluatesAsTyped (config : Config) (record : Record) (e : Expr) : Prop :=
  ∀ t, e.typeOf = some t → Untroubled (·.strongType = t) (e.evaluate config record).unlocated

/-- The claim about an expression that has no type. -/
def Expr.FailsIfUntyped (config : Config) (record : Record) (e : Expr) : Prop :=
  e.typeOf = none → IsFault (e.evaluate config record).unlocated

/-- Arguments that the function takes are evaluated to what it gets. -/
theorem evaluateArgs_untroubled {f : Builtin} {index : Nat} {args : List Expr}
    (hargs : ∀ arg ∈ args, Expr.EvaluatesAsTyped config record arg)
    (hfit : argsFit f index args = true) :
    Untroubled (fun os => f.ReceivesAll index os ∧ os.length = args.length)
      (evaluateArgs config record f index args).unlocated := by
  induction args generalizing index with
  | nil =>
    rw [evaluateArgs]
    exact .ok ⟨trivial, rfl⟩
  | cons arg args ih =>
    obtain ⟨harg, hrest⟩ := List.forall_mem_cons.mp hargs
    rw [argsFit, Bool.and_eq_true, Option.any_eq_true] at hfit
    obtain ⟨⟨t, ht, htakes⟩, hfit⟩ := hfit
    simp only [evaluateArgs, Outcome.unlocated_bind, Outcome.unlocated_placed_except,
      Outcome.unlocated_pure]
    refine (harg t ht).bind fun o ho => ?_
    refine (Builtin.accept_untroubled ho htakes).bind fun o' ho' => ?_
    exact (ih hrest hfit).bind fun os hos => .ok ⟨⟨ho', hos.1⟩, congrArg (· + 1) hos.2⟩

/-- A function gets as many operands as it is given arguments. -/
theorem length_of_evaluateArgs {f : Builtin} {index : Nat} {args : List Expr} {os : List Operand}
    (h : (evaluateArgs config record f index args).unlocated = .ok os) :
    os.length = args.length := by
  induction args generalizing index os with
  | nil =>
    rw [evaluateArgs, Outcome.unlocated_succeed] at h
    cases h
    rfl
  | cons arg args ih =>
    simp only [evaluateArgs, Outcome.unlocated_bind, Outcome.unlocated_placed_except,
      Outcome.unlocated_pure, bind_eq_ok] at h
    obtain ⟨o, -, o', -, os', hos, ho⟩ := h
    cases ho
    exact congrArg (· + 1) (ih hos)

/-- Where the function does not take an argument, the arguments cannot be passed, or one of them is
left to the function that it does not take. -/
theorem evaluateArgs_of_not_fit {f : Builtin} {index : Nat} {args : List Expr}
    (htyped : ∀ arg ∈ args, Expr.EvaluatesAsTyped config record arg)
    (huntyped : ∀ arg ∈ args, Expr.FailsIfUntyped config record arg)
    (hfit : argsFit f index args = false) :
    IsFault (evaluateArgs config record f index args).unlocated ∨
      ∃ os, (evaluateArgs config record f index args).unlocated = .ok os ∧
        os.length = args.length ∧ ∃ o ∈ os, f.takesUntyped o.strongType = false := by
  induction args generalizing index with
  | nil => simp [argsFit] at hfit
  | cons arg args ih =>
    obtain ⟨hargTyped, hrestTyped⟩ := List.forall_mem_cons.mp htyped
    obtain ⟨hargUntyped, hrestUntyped⟩ := List.forall_mem_cons.mp huntyped
    simp only [evaluateArgs, Outcome.unlocated_bind, Outcome.unlocated_placed_except,
      Outcome.unlocated_pure]
    cases ht : arg.typeOf with
    | none => exact .inl (hargUntyped ht).bind_left
    | some t =>
      rcases hargTyped t ht with ⟨o, ho, hot⟩ | ⟨fault, hfault, -⟩
      · rw [ho, ok_bind]
        cases htakes : f.takes index t with
        | false =>
          -- this argument is refused, or left to the function
          rcases Builtin.accept_of_not_takes hot htakes with hrefused | ⟨haccept, hnot⟩
          · exact .inl hrefused.bind_left
          · rw [haccept, ok_bind]
            cases hos : (evaluateArgs config record f (index + 1) args).unlocated with
            | error fault => exact .inl ⟨fault, rfl⟩
            | ok os =>
              exact .inr ⟨o :: os, rfl, congrArg (· + 1) (length_of_evaluateArgs hos), o,
                List.mem_cons_self, hnot⟩
        | true =>
          -- a later argument does not fit
          have hfit' : argsFit f (index + 1) args = false := by
            simpa [argsFit, ht, htakes] using hfit
          rcases Builtin.accept_untroubled hot htakes with ⟨o', ho', -⟩ | ⟨fault, hfault, -⟩
          · rw [ho', ok_bind]
            rcases ih hrestTyped hrestUntyped hfit' with hrest | ⟨os, hos, hlen, x, hx, hnot⟩
            · exact .inl hrest.bind_left
            · exact .inr ⟨o' :: os, by rw [hos]; rfl, congrArg (· + 1) hlen, x,
                List.mem_cons_of_mem _ hx, hnot⟩
          · exact .inl (.bind_left ⟨fault, hfault⟩)
      · exact .inl (.bind_left ⟨fault, hfault⟩)

/-- An expression with a static type gives an operand of this type, unless it fails for another
reason than types. -/
theorem Expr.evaluatesAsTyped (e : Expr) : Expr.EvaluatesAsTyped config record e := by
  induction e using ExprOf.inductionOn with
  | literal pos value =>
    intro t ht
    obtain rfl : some value.type = t := Option.some.inj ht
    exact .ok rfl
  | field pos name =>
    intro t ht
    obtain rfl : none = t := Option.some.inj ht
    exact .ok rfl
  | call pos function args ih =>
    intro t ht
    obtain ⟨f, hf, harity, hfit, rfl⟩ := typeOf_call_eq_some.mp ht
    simp only [Expr.evaluate, hf, Outcome.unlocated_bind, Outcome.unlocated_placed,
      Outcome.unlocated_pure]
    refine (evaluateArgs_untroubled ih hfit).bind fun os ⟨hos, hlen⟩ => ?_
    exact (Builtin.call_untroubled (hlen ▸ harity) hos).bind fun v hv => .ok (congrArg some hv)
  | unary pos op operand ih =>
    intro t ht
    obtain ⟨s, hs, htakes, rfl⟩ := typeOf_unary_eq_some.mp ht
    simp only [Expr.evaluate, Outcome.unlocated_bind, Outcome.unlocated_placed_except,
      Outcome.unlocated_pure]
    refine (ih s hs).bind fun o ho => ?_
    exact (UnaryOp.apply_untroubled ho htakes).bind fun v hv => .ok (congrArg some hv)
  | binary pos op left right ihl ihr =>
    intro t ht
    obtain ⟨r, s, hr, hs, hl, hr', rfl⟩ := typeOf_binary_eq_some.mp ht
    simp only [Expr.evaluate, Outcome.unlocated_bind, Outcome.unlocated_placed_except,
      Outcome.unlocated_pure]
    refine (ihl r hr).bind fun a ha => (ihr s hs).bind fun b hb => ?_
    exact (BinaryOp.apply_untroubled ha hb hl hr').bind fun v hv => .ok (congrArg some hv)
  | logical pos op left right ihl ihr =>
    intro t ht
    obtain ⟨hl, hr, rfl⟩ := typeOf_logical_eq_some.mp ht
    simp only [Expr.evaluate, Outcome.unlocated_bind, Outcome.unlocated_asCondition]
    refine (ihl _ hl).bind fun a ha => (a.toBoolean_untroubled ha).bind fun first _ => ?_
    split
    · exact .ok rfl
    · exact .ok rfl
    · simp only [Outcome.unlocated_bind, Outcome.unlocated_asCondition, Outcome.unlocated_pure]
      exact (ihr _ hr).bind fun b hb => (b.toBoolean_untroubled hb).bind fun _ _ => .ok rfl
  | comparison pos op left right ihl ihr =>
    intro t ht
    obtain ⟨r, s, hr, hs, htakes, rfl⟩ := typeOf_comparison_eq_some.mp ht
    simp only [Expr.evaluate, Outcome.unlocated_bind, Outcome.unlocated_placed_except,
      Outcome.unlocated_pure]
    refine (ihl r hr).bind fun a ha => (ihr s hs).bind fun b hb => ?_
    exact (CompareOp.apply_untroubled ha hb htakes).bind fun _ _ => .ok rfl
  | pattern pos subject pattern ihl ihr =>
    intro t ht
    obtain ⟨r, s, hr, hs, hsubject, hpattern, rfl⟩ := typeOf_pattern_eq_some.mp ht
    simp only [Expr.evaluate, Outcome.unlocated_bind, Outcome.unlocated_placed_except,
      Outcome.unlocated_pure]
    refine (ihl r hr).bind fun a ha => (ihr s hs).bind fun b hb => ?_
    exact (Config.isMatch_untroubled ha hb hsubject hpattern).bind fun _ _ => .ok rfl
  | barePattern pos pattern ih =>
    intro t ht
    cases ht

/-- Two operands in a row fail if the first has no type, or the second has none. -/
theorem isFault_of_untyped_operand {left right : Expr}
    {f : Operand → Operand → Outcome EvalError Operand}
    (hl : Expr.FailsIfUntyped config record left) (hr : Expr.FailsIfUntyped config record right)
    (hop : ∀ s t, left.typeOf = some s → right.typeOf = some t → ∀ a b : Operand,
      a.strongType = s → b.strongType = t → IsFault (f a b).unlocated) :
    IsFault (do
      let a ← left.evaluate config record
      let b ← right.evaluate config record
      f a b).unlocated := by
  simp only [Outcome.unlocated_bind]
  cases hs : left.typeOf with
  | none => exact (hl hs).bind_left
  | some s =>
    cases ht : right.typeOf with
    | none => exact .bind_right fun _ => (hr ht).bind_left
    | some t =>
      refine .bind_of_untroubled (left.evaluatesAsTyped s hs) fun a ha => ?_
      exact .bind_of_untroubled (right.evaluatesAsTyped t ht) fun b hb => hop s t hs ht a b ha hb

/-- A strict expression whose nodes are prepared fails if it has no static type. -/
theorem Expr.failsIfUntyped {e : Expr} (hprepared : ∀ x ∈ e.nodes, Expr.IsPrepared x)
    (hstrict : e.IsStrict) : Expr.FailsIfUntyped config record e := by
  induction e using ExprOf.inductionOnChildren with
  | step e ih =>
    obtain ⟨hnode, hbelow⟩ := ExprOf.forall_nodes_iff.mp hprepared
    obtain ⟨hlogical, hstrict⟩ := ExprOf.forall_nodes_iff.mp hstrict
    have hchild : ∀ c ∈ e.children, Expr.FailsIfUntyped config record c :=
      fun c hc => ih c hc (hbelow c hc) (hstrict c hc)
    intro huntyped
    cases e with
    | literal pos value => cases huntyped
    | field pos name => cases huntyped
    | call pos function args =>
      obtain ⟨f, hf, harity⟩ := hnode
      have hfit : argsFit f 0 args = false := by
        simpa [Expr.typeOf, hf, harity] using huntyped
      simp only [Expr.evaluate, hf, Outcome.unlocated_bind, Outcome.unlocated_placed,
        Outcome.unlocated_pure]
      have hargs : ∀ arg ∈ args, Expr.FailsIfUntyped config record arg := hchild
      rcases evaluateArgs_of_not_fit (fun arg _ => arg.evaluatesAsTyped) hargs hfit with
        hfault | ⟨os, hos, hlen, hnot⟩
      · exact hfault.bind_left
      · rw [hos, ok_bind]
        exact (Builtin.call_isFault (hlen ▸ harity) hnot).bind_left
    | unary pos op operand =>
      simp only [Expr.evaluate, Outcome.unlocated_bind, Outcome.unlocated_placed_except]
      cases ht : Expr.typeOf operand with
      | none => exact (hchild operand (by simp [ExprOf.children]) ht).bind_left
      | some t =>
        have htakes : op.takes t = false := by simpa [Expr.typeOf, ht] using huntyped
        refine .bind_of_untroubled (Expr.evaluatesAsTyped operand t ht) fun o ho => ?_
        exact (UnaryOp.apply_isFault ho htakes).bind_left
    | binary pos op left right =>
      refine isFault_of_untyped_operand (hchild left (by simp [ExprOf.children]))
        (hchild right (by simp [ExprOf.children])) fun s t hs ht a b ha hb => ?_
      have hop : (s.admits op.operandType && t.admits op.operandType) = false := by
        simpa [Expr.typeOf, hs, ht] using huntyped
      simpa using (BinaryOp.apply_isFault ha hb hop).bind_left
    | logical pos op left right => cases hlogical
    | comparison pos op left right =>
      refine isFault_of_untyped_operand (hchild left (by simp [ExprOf.children]))
        (hchild right (by simp [ExprOf.children])) fun s t hs ht a b ha hb => ?_
      have hop : op.takes s t = false := by simpa [Expr.typeOf, hs, ht] using huntyped
      simpa using (CompareOp.apply_isFault ha hb hop).bind_left
    | pattern pos subject pattern =>
      refine isFault_of_untyped_operand (hchild subject (by simp [ExprOf.children]))
        (hchild pattern (by simp [ExprOf.children])) fun s t hs ht a b ha hb => ?_
      have hop : (s.admits .string && t.isPattern) = false := by
        simpa [Expr.typeOf, hs, ht] using huntyped
      simpa using (Config.isMatch_isFault ha hb hop).bind_left
    | barePattern pos pattern => exact hnode.elim

namespace Program

/-- The nodes of a loaded program are prepared. -/
theorem isPrepared_of_ofSource {library : Library} {options : LoadOptions} {source : Source}
    {p : Program} (h : ofSource library options source = .ok p) :
    ∀ x ∈ p.expressions, Expr.IsPrepared x := by
  simp only [ofSource, ofSourceWith, bind_eq_ok, pure_eq_ok] at h
  obtain ⟨file, -, config, -, steps, -, steps', hprepare, rfl⟩ := h
  exact isPrepared_of_prepareSteps hprepare

/-- Static types are sound for loaded programs: an expression with a static type gives an operand of
this type for every record, unless it fails for another reason than types, and a strict expression
without one fails for every record. -/
theorem typeOf_sound {library : Library} {options : LoadOptions} {source : Source} {p : Program}
    (h : ofSource library options source = .ok p) {e : Expr} (he : e ∈ p.expressions) :
    (∀ t, e.typeOf = some t → ∀ record,
      (∃ operand, (e.evaluate p.config record).result = .ok operand ∧ operand.strongType = t) ∨
      ∃ error, (e.evaluate p.config record).result = .error error ∧ ¬ error.fault.IsType) ∧
    (e.typeOf = none → e.IsStrict → ∀ record,
      ∃ error, (e.evaluate p.config record).result = .error error) := by
  constructor
  · intro t ht record
    rcases Expr.evaluatesAsTyped e t ht with ⟨o, ho, hot⟩ | ⟨fault, hfault, hnot⟩
    · exact .inl ⟨o, Outcome.unlocated_eq_ok.mp ho, hot⟩
    · obtain ⟨error, herror, rfl⟩ := Outcome.unlocated_eq_error.mp hfault
      exact .inr ⟨error, herror, hnot⟩
  · intro ht hstrict record
    have hprepared : ∀ x ∈ e.nodes, Expr.IsPrepared x := fun x hx =>
      isPrepared_of_ofSource h x (Step.nodes_subset_blockExpressions he hx)
    obtain ⟨fault, hfault⟩ := Expr.failsIfUntyped hprepared hstrict ht
    obtain ⟨error, herror, -⟩ := Outcome.unlocated_eq_error.mp hfault
    exact ⟨error, herror⟩

end Program

end RecordScript

namespace RecordScript.Program

/-- In a program that takes a number from a text, the text has its static type and the difference
has none: it fails for every record. -/
theorem typeOf_sound_difference :
    ∃ p text difference,
      ofSource SourceTable.empty.toLibrary {} ⟨⟨"main"⟩, "x = 'a' . y - 1"⟩ = .ok p ∧
      (text ∈ p.expressions ∧ text.typeOf = some (some .string) ∧ ∀ record,
        (∃ operand, (text.evaluate p.config record).result = .ok operand ∧
          operand.strongType = some .string) ∨
        ∃ error, (text.evaluate p.config record).result = .error error ∧ ¬ error.fault.IsType) ∧
      (difference ∈ p.expressions ∧ difference.typeOf = none ∧ difference.IsStrict ∧
        ∀ record, ∃ error, (difference.evaluate p.config record).result = .error error) := by
  have hread : SourceFile.read "main" "x = 'a' . y - 1" =
      .ok { header := [], statements := [.assign ⟨"main", 1, 1⟩ "x"
        (.binary ⟨"main", 1, 13⟩ .sub
          (.binary ⟨"main", 1, 9⟩ .concat (.literal ⟨"main", 1, 5⟩ (.string "a"))
            (.field ⟨"main", 1, 11⟩ "y"))
          (.literal ⟨"main", 1, 15⟩ (.number ⟨1, 0⟩)))] } := by
    decide +kernel
  have hload : ofSource SourceTable.empty.toLibrary {} ⟨⟨"main"⟩, "x = 'a' . y - 1"⟩ =
      .ok { config := {}, steps := [.assign ⟨"main", 1, 1⟩ "x"
        (.binary ⟨"main", 1, 13⟩ .sub
          (.binary ⟨"main", 1, 9⟩ .concat (.literal ⟨"main", 1, 5⟩ (.string "a"))
            (.field ⟨"main", 1, 11⟩ "y"))
          (.literal ⟨"main", 1, 15⟩ (.number ⟨1, 0⟩)))] } := by
    rw [ofSource, ofSourceWith, Expansion.readSource, hread]
    cbv
  refine ⟨_, _, _, hload, ⟨.tail _ (.head _), rfl, ?_⟩, .head _, rfl, ?_, ?_⟩
  · exact (typeOf_sound hload (.tail _ (.head _))).1 _ rfl
  · simp [Expr.IsStrict, ExprOf.nodes, ExprOf.isLogical]
  · exact (typeOf_sound hload (.head _)).2 rfl
      (by simp [Expr.IsStrict, ExprOf.nodes, ExprOf.isLogical])

end RecordScript.Program

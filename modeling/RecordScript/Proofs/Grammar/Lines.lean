import RecordScript.Proofs.Grammar.Program

/-!
# Programs on lines of their own

Every construct is read the same when further lines follow the text, even if the text ends in a
comment. So a program followed by a program without a header is a program, and its statements are
those of the one and then those of the other.
-/

namespace RecordScript

namespace Language

open Reading

section Grows

variable {E : Reading SpelledExpr}

theorem grows_sign {s : String} (hs : Token.IsSign s) : Grows (sign s) :=
  grows_token (Token.isToken_sign hs)

theorem grows_bareName : Grows bareName := grows_token Token.isToken_name

theorem grows_fieldName : Grows fieldName :=
  Grows.orElse (grows_bareName.map _) ((grows_token Token.isToken_bracedName).map _)

theorem grows_anyLiteral : Grows anyLiteral :=
  Grows.orElse ((grows_token Token.isToken_boolean).map _)
    (Grows.orElse ((grows_token Token.isToken_number).map _)
      (Grows.orElse ((grows_token Token.isToken_quoted).map _)
        ((grows_token Token.isToken_regex).map _)))

/-- Things behind a sign are read the same when further lines follow. -/
theorem grows_signed {α : Type} {R : Reading α} {s : String} (hs : Token.IsSign s) (h : Grows R) :
    Grows (do let _ ← sign s; R) :=
  (grows_sign hs).bind fun _ => h

theorem grows_separated {α : Type} {R : Reading α} (h : Grows R) : Grows (separated R) :=
  h.bind fun _ => (grows_signed (by decide) h).star.bind fun _ => grows_pure _

theorem grows_arguments (hE : Grows E) : Grows (arguments E) :=
  (grows_sign (by decide)).bind fun _ => (grows_separated hE).optional.bind fun _ =>
    (grows_sign (by decide)).bind fun _ => grows_pure _

theorem grows_call (hE : Grows E) : Grows (call E) :=
  grows_bareName.bind fun _ => (grows_arguments hE).bind fun _ => grows_pure _

theorem grows_primary (hE : Grows E) : Grows (primary E) := by
  have hparenthesized : Grows (parenthesized E) :=
    (grows_sign (by decide)).bind fun _ => hE.bind fun _ =>
      (grows_sign (by decide)).bind fun _ => grows_pure _
  exact grows_anyLiteral.orElse (((grows_call hE).map _).orElse
    ((grows_fieldName.map _).orElse hparenthesized))

theorem grows_operator {α : Type} {signs : List String} (h : ∀ s ∈ signs, Token.IsSign s)
    (op : List Char → α) : Grows (operator signs op) :=
  (grows_token (Token.isToken_anySign h)).map op

theorem grows_unary (hE : Grows E) : Grows (unary E) :=
  (grows_operator (by decide) _).star.bind fun _ =>
    (grows_primary hE).bind fun _ => grows_pure _

theorem grows_binaryLevel {signs : List String} (hsigns : ∀ s ∈ signs, Token.IsSign s)
    {operand : Reading SpelledExpr} (h : Grows operand) : Grows (binaryLevel signs operand) := by
  have hother : Grows (do
      let op ← operator signs Grammar.binaryOp
      let right ← operand
      return (op, right)) :=
    (grows_operator hsigns _).bind fun _ => h.bind fun _ => grows_pure _
  exact h.bind fun _ => hother.star.bind fun _ => grows_pure _

theorem grows_sum (hE : Grows E) : Grows (sum E) :=
  grows_binaryLevel (by decide) (grows_binaryLevel (by decide) (grows_unary hE))

theorem grows_comparison (hE : Grows E) : Grows (comparison E) := by
  refine (grows_sum hE).bind fun _ => Grows.bind (Grows.optional ?_) fun other => ?_
  · exact (grows_token isToken_compareSigns).bind fun _ => (grows_sum hE).bind fun _ => grows_pure _
  · rcases other with _ | ⟨taken, right⟩
    · exact grows_pure _
    · exact grows_pure _

theorem grows_negation (hE : Grows E) : Grows (negation E) :=
  (grows_operator (by decide) _).star.bind fun _ =>
    (grows_comparison hE).bind fun _ => grows_pure _

theorem grows_conjunction (hE : Grows E) : Grows (conjunction E) :=
  (grows_negation hE).bind fun _ =>
    (grows_signed (by decide) (grows_negation hE)).star.bind fun _ => grows_pure _

theorem grows_alternatives (hE : Grows E) : Grows (alternatives E) :=
  (grows_sign (by decide)).optional.bind fun _ => (grows_conjunction hE).bind fun _ =>
    (grows_signed (by decide) (grows_conjunction hE)).star.bind fun _ => grows_pure _

theorem grows_expression (depth : Nat) : Grows (expression depth) := by
  induction depth with
  | zero => exact grows_nothing
  | succ depth ih => exact grows_alternatives ih

theorem grows_keyword (name : String) : Grows (keyword name) :=
  (grows_token (Token.isToken_keyword name)).bind fun _ => grows_pure _

theorem grows_directive (hE : Grows E) {mark : String} (hmark : Token.IsSign mark)
    (inline : Bool) : Grows (directive E mark inline) :=
  (grows_sign hmark).bind fun _ => grows_bareName.bind fun _ =>
    (grows_arguments hE).optional.bind fun _ => grows_pure _

theorem grows_branch (hE : Grows E) {block : Reading (List SpelledStatement)}
    (hblock : Grows block) (name : String) : Grows (branch E name block) :=
  (grows_keyword name).bind fun _ => hE.bind fun _ => (grows_keyword "then").bind fun _ =>
    hblock.bind fun _ => grows_pure _

theorem grows_rule (hE : Grows E) {block : Reading (List SpelledStatement)}
    (hblock : Grows block) : Grows (rule E block) := by
  have hotherwise : Grows (do keyword "else"; block) := (grows_keyword "else").bind fun _ => hblock
  exact (grows_branch hE hblock "if").bind fun _ =>
    (grows_branch hE hblock "elif").star.bind fun _ => hotherwise.optional.bind fun _ =>
      (grows_keyword "fi").bind fun _ => grows_pure _

theorem grows_bareStatement (hE : Grows E) {block : Reading (List SpelledStatement)}
    (hblock : Grows block) : Grows (bareStatement E block) := by
  have hassignment : Grows (assignment E) :=
    grows_fieldName.bind fun _ => (grows_token Token.isToken_assignSign).bind fun _ =>
      hE.bind fun _ => grows_pure _
  exact (grows_rule hE hblock).orElse (((grows_directive hE (by decide) true).map _).orElse
    (((grows_directive hE (by decide) false).map _).orElse
      (hassignment.orElse ((grows_call hE).map _))))

theorem grows_statement (depth : Nat) : Grows (statement depth) := by
  induction depth with
  | zero => exact grows_nothing
  | succ depth ih =>
    exact (grows_bareStatement (grows_expression depth) ih.star).bind fun _ =>
      (grows_sign (by decide)).optional.bind fun _ => grows_pure _

theorem grows_headerItem (depth : Nat) : Grows (headerItem depth) :=
  (grows_directive (grows_expression depth) (by decide) false).bind fun _ =>
    (grows_sign (by decide)).optional.bind fun _ => grows_pure _

end Grows

/-- A program and, on the lines behind it, a program without a header are together a program. -/
theorem program_append {cs more : List Char} {f : SpelledFile} {ss : List SpelledStatement}
    (hf : program (skip cs) f) (hss : program (skip more) { header := [], statements := ss }) :
    program (skip (cs ++ '\n' :: more))
      { header := f.header, statements := f.statements ++ ss } := by
  obtain ⟨mid, hheader, hstatements, hbehind⟩ := hf
  obtain ⟨_, hnil, hss, hssBehind⟩ := hss
  cases hnil
  rw [skip_line]
  have hheader' := (grows_anyDepth grows_headerItem).star more hheader
  have hstatements' := (grows_anyDepth grows_statement).star more hstatements
  refine ⟨grow more mid, hheader', star_append hstatements' hss, ?_⟩
  intro d hd
  rcases hf : f.statements with _ | ⟨s, rest⟩
  · exact hssBehind d (by simpa [hf] using hd)
  · exact hbehind d (by simpa [hf] using hd)

end Language

theorem SpelledFile.decode_append [RegexEngine] {f : SpelledFile} {ss : List SpelledStatement}
    {f' g' : SourceFile} (hf : SpelledFile.decode f = .ok f')
    (hss : SpelledFile.decode { header := [], statements := ss } = .ok g') :
    SpelledFile.decode { header := f.header, statements := f.statements ++ ss } =
      .ok { header := f'.header, statements := f'.statements ++ g'.statements } := by
  simp only [SpelledFile.decode, decodeBlock_eq, Result.bind_eq_ok, Result.pure_eq_ok] at hf hss
  obtain ⟨header, hheader, statements, hstatements, rfl⟩ := hf
  obtain ⟨_, -, others, hothers, rfl⟩ := hss
  simp [SpelledFile.decode, decodeBlock_eq, hheader, hstatements, hothers]

/-- A text and a text without a header on the lines behind it are read together as they are read
alone, up to positions. -/
theorem SourceFile.exists_read_append [RegexEngine] {x y nameX nameY : String} {f g : SourceFile}
    (hx : SourceFile.read nameX x = .ok f) (hy : SourceFile.read nameY y = .ok g)
    (hheader : g.header = []) (name : String) :
    ∃ h, SourceFile.read name (x ++ "\n" ++ y) = .ok h ∧
      h.unplaced = ⟨f.unplaced.header, f.unplaced.statements ++ g.unplaced.statements⟩ := by
  obtain ⟨spelled, hprogram, hdecode⟩ := SourceFile.exists_read_iff.mp ⟨f, hx, rfl⟩
  obtain ⟨⟨header, ss⟩, hmore, hss⟩ := SourceFile.exists_read_iff.mp ⟨g, hy, rfl⟩
  obtain rfl : header = [] := by
    obtain ⟨header', hheader', _, -, heq⟩ := by
      simpa only [SpelledFile.decode, Result.bind_eq_ok, Result.pure_eq_ok] using hss
    have hnil : header' = [] :=
      (congrArg SourceFileOf.header heq).trans (by rw [SourceFileOf.unplaced, hheader, List.map_nil])
    have hlength := (Result.mapM_eq_ok.mp hheader').length_eq
    rw [hnil] at hlength
    exact List.eq_nil_of_length_eq_zero hlength
  refine SourceFile.exists_read_iff.mpr ⟨_, ?_, SpelledFile.decode_append hdecode hss⟩
  have htext : (x ++ "\n" ++ y).toList = x.toList ++ '\n' :: y.toList := by simp
  rw [htext]
  exact Language.program_append hprogram hmore

end RecordScript

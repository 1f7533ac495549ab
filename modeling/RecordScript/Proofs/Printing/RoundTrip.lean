import Mathlib
import RecordScript.Pattern.PlaceEngine
import RecordScript.Proofs.Printing.Expression
import RecordScript.Proofs.Printing.WellFormed
import RecordScript.Proofs.Syntax.Equality

/-!
# Reading what is printed

A printed file is read as itself: its header, then its statements, each of which ends where the next
one starts.
-/

namespace RecordScript

section

variable [RegexEngine]

namespace Language

open Reading

section Directives

variable {E : Reading SpelledExpr}

/-- The sign before the name of a directive. -/
def directiveMark (inline : Bool) : String := if inline then "@@" else "@"

theorem directive_written {d : Directive} (h : Directive.IsWellFormed d)
    (hargs : ∀ arg ∈ d.args, IsRead false E arg) (ts : List (List Char)) :
    ∃ s, directive E (directiveMark d.inline) d.inline (written (Directive.tokens d ++ ts)) s
        (written ts) ∧
      SpelledDirective.decode s = .ok d.unplaced := by
  obtain ⟨ss, hss, hdecode⟩ := arguments_written hargs ts
  have hname := bareName_written h.1 (inParentheses (argTokens d.args).tail ++ ts)
  have hmark := sign_written (s := directiveMark d.inline) (by cases d.inline <;> decide)
    (by cases d.inline <;> decide) (d.name.toList :: (inParentheses (argTokens d.args).tail ++ ts))
  have htokens : Directive.tokens d ++ ts = (directiveMark d.inline).toList ::
      d.name.toList :: (inParentheses (argTokens d.args).tail ++ ts) := by
    rw [Directive.tokens, directiveMark]
    cases d.inline <;> rfl
  rw [htokens]
  refine ⟨_, ⟨_, _, hmark, _, _, hname, some ss, _, optional_iff.mpr (.inl ⟨ss, hss, rfl⟩), rfl,
    rfl⟩, ?_⟩
  simp [SpelledDirective.decode, hdecode, DirectiveOf.unplaced]

end Directives

section Statements

variable {E : Reading SpelledExpr} {B : Reading (List SpelledStatement)}

omit [RegexEngine] in
/-- A statement may stand without a semicolon. -/
theorem statementOver_of_bareStatement {cs rest : List Char} {s : SpelledStatement}
    (h : bareStatement E B cs s rest) : statementOver E B cs s rest :=
  ⟨s, rest, h, none, rest, optional_iff.mpr (.inr ⟨rfl, rfl⟩), rfl, rfl⟩

theorem blockTokens_eq (ss : List Statement) : blockTokens ss = ss.flatMap Statement.tokens := by
  induction ss with
  | nil => rfl
  | cons s ss ih => rw [blockTokens, ih, List.flatMap_cons]

/-- The tokens of one branch behind its keyword. -/
def tokensOfBranch (opening : String) (b : Branch) : List (List Char) :=
  opening.toList :: (Expr.tokens b.condition ++ "then".toList :: blockTokens b.body)

theorem branchTokens_cons (opening : String) (b : Branch) (branches : List Branch) :
    branchTokens opening (b :: branches) =
      tokensOfBranch opening b ++ branchTokens "elif" branches := by
  obtain ⟨condition, body⟩ := b
  simp [branchTokens, tokensOfBranch, BranchOf.condition, BranchOf.body]

theorem branchTokens_eq (branches : List Branch) :
    branchTokens "elif" branches = branches.flatMap (tokensOfBranch "elif") := by
  induction branches with
  | nil => rfl
  | cons b branches ih => rw [branchTokens_cons, ih, List.flatMap_cons]

/-- The tokens of the statement are read as a spelling of it, whatever follows them. -/
def IsStatementRead (R : Reading SpelledStatement) (s : Statement) : Prop :=
  ∀ ts, ∃ s', R (written (Statement.tokens s ++ ts)) s' (written ts) ∧
    SpelledStatement.decode s' = .ok s.unplaced

/-- The tokens of the block are read as a spelling of it, whatever follows them. -/
def IsBlockRead (B : Reading (List SpelledStatement)) (ss : List Statement) : Prop :=
  ∀ ts, ∃ ss', B (written (blockTokens ss ++ ts)) ss' (written ts) ∧
    decodeBlock ss' = .ok (unplacedBlock ss)

theorem isBlockRead_of_forall {R : Reading SpelledStatement} {ss : List Statement}
    (h : ∀ s ∈ ss, IsStatementRead R s) : IsBlockRead (star R) ss := by
  intro ts
  rw [blockTokens_eq, unplacedBlock_eq]
  simp only [decodeBlock_eq]
  exact star_written h ts

theorem branch_written {b : Branch} (hcondition : IsRead true E b.condition)
    (hbody : IsBlockRead B b.body) (name : String) (hname : name ∈ ["if", "elif"])
    (ts : List (List Char)) :
    ∃ s, branch E name B (written (tokensOfBranch name b ++ ts)) s (written ts) ∧
      SpelledBranch.decode s = .ok b.unplaced := by
  obtain ⟨body, hbody, hbodyDecode⟩ := hbody ts
  obtain ⟨condition, hcondition, hdecode⟩ :=
    hcondition ("then".toList :: (blockTokens b.body ++ ts))
  have hword : ∃ c cs, name.toList = c :: cs ∧ Token.isWordStart c = true ∧
      cs.all Token.isWordChar = true := by
    simp only [List.mem_cons, List.not_mem_nil, or_false] at hname
    rcases hname with rfl | rfl
    · exact ⟨_, _, rfl, rfl, rfl⟩
    · exact ⟨_, _, rfl, rfl, rfl⟩
  have hopening := keyword_written hword
    (Expr.tokens b.condition ++ "then".toList :: (blockTokens b.body ++ ts))
  have hthen := keyword_written (s := "then") ⟨_, _, rfl, rfl, rfl⟩ (blockTokens b.body ++ ts)
  have htokens : tokensOfBranch name b ++ ts = name.toList ::
      (Expr.tokens b.condition ++ "then".toList :: (blockTokens b.body ++ ts)) := by
    simp [tokensOfBranch]
  rw [htokens]
  refine ⟨.mk condition.asCondition body,
    ⟨_, _, hopening, condition, _, hcondition, _, _, hthen, body, _, hbody, rfl, rfl⟩, ?_⟩
  change SpelledExpr.decode condition.asCondition = _ at hdecode
  simp [SpelledBranch.decode, BranchOf.condition, BranchOf.body, hdecode, hbodyDecode,
    BranchOf.unplaced]

/-- Printed branches are read one behind the other, the first one with a keyword of its own. -/
theorem branches_written {first : Branch} {others : List Branch}
    (hconditions : ∀ b ∈ first :: others, IsRead true E b.condition)
    (hbodies : ∀ b ∈ first :: others, IsBlockRead B b.body) (ts : List (List Char)) :
    ∃ b bs mid, branch E "if" B (written (branchTokens "if" (first :: others) ++ ts)) b mid ∧
      star (branch E "elif" B) mid bs (written ts) ∧
      (b :: bs).mapM SpelledBranch.decode = .ok ((first :: others).map BranchOf.unplaced) := by
  obtain ⟨hfirstCondition, hotherConditions⟩ := List.forall_mem_cons.mp hconditions
  obtain ⟨hfirstBody, hotherBodies⟩ := List.forall_mem_cons.mp hbodies
  obtain ⟨bs, hbs, hdecodes⟩ := star_written (R := branch E "elif" B)
    (fun b hb ts => branch_written (hotherConditions b hb) (hotherBodies b hb) _ (by simp) ts) ts
  obtain ⟨b, hb, hdecode⟩ := branch_written hfirstCondition hfirstBody "if" (by simp)
    (others.flatMap (tokensOfBranch "elif") ++ ts)
  rw [branchTokens_cons, branchTokens_eq, List.append_assoc]
  exact ⟨b, bs, _, hb, hbs, by simp [List.mapM_cons, hdecode, hdecodes]⟩

theorem rule_written {branches : List Branch} {otherwise : Option (List Statement)}
    (hne : branches ≠ []) (hconditions : ∀ b ∈ branches, IsRead true E b.condition)
    (hbodies : ∀ b ∈ branches, IsBlockRead B b.body)
    (hotherwise : ∀ body ∈ otherwise, IsBlockRead B body) (ts : List (List Char)) :
    ∃ s, rule E B (written (Statement.tokens (.rule branches otherwise) ++ ts)) s (written ts) ∧
      SpelledStatement.decode s = .ok (StatementOf.unplaced (.rule branches otherwise)) := by
  obtain ⟨first, others, rfl⟩ := List.exists_cons_of_ne_nil hne
  have hfi := keyword_written (s := "fi") ⟨_, _, rfl, rfl, rfl⟩ ts
  cases otherwise with
  | none =>
    obtain ⟨b, bs, mid, hb, hbs, hdecode⟩ :=
      branches_written hconditions hbodies ("fi".toList :: ts)
    have htokens : Statement.tokens (.rule (first :: others) none) ++ ts =
        branchTokens "if" (first :: others) ++ "fi".toList :: ts := by
      simp [Statement.tokens]
    rw [htokens]
    refine ⟨_, ⟨b, mid, hb, bs, _, hbs, none, _, optional_iff.mpr (.inr ⟨rfl, rfl⟩), (), _, hfi,
      rfl, rfl⟩, ?_⟩
    simp only [SpelledStatement.decode, decodeBranches_eq, hdecode, StatementOf.unplaced,
      unplacedBranches_eq]
    rfl
  | some body =>
    obtain ⟨b, bs, mid, hb, hbs, hdecode⟩ := branches_written hconditions hbodies
      ("else".toList :: (blockTokens body ++ "fi".toList :: ts))
    obtain ⟨ss, hss, hblock⟩ := hotherwise body rfl ("fi".toList :: ts)
    have helse := keyword_written (s := "else") ⟨_, _, rfl, rfl, rfl⟩
      (blockTokens body ++ "fi".toList :: ts)
    have htokens : Statement.tokens (.rule (first :: others) (some body)) ++ ts =
        branchTokens "if" (first :: others) ++
          "else".toList :: (blockTokens body ++ "fi".toList :: ts) := by
      simp [Statement.tokens]
    rw [htokens]
    refine ⟨_, ⟨b, mid, hb, bs, _, hbs, some ss, _,
      optional_iff.mpr (.inl ⟨ss, ⟨_, _, helse, hss⟩, rfl⟩), (), _, hfi, rfl, rfl⟩, ?_⟩
    simp only [SpelledStatement.decode, decodeBranches_eq, hdecode, hblock, StatementOf.unplaced,
      unplacedBranches_eq]
    rfl

theorem assign_written {field : String} {value : Expr} (pos : Position)
    (hvalue : IsRead false E value) : IsStatementRead (statementOver E B) (.assign pos field value) := by
  intro ts
  obtain ⟨spelling, hfield, hfieldDecode⟩ := fieldName_written field
    (['='] :: (Expr.tokens value ++ ts))
  obtain ⟨e, he, hdecode⟩ := hvalue ts
  have hsign := token_written Token.isToken_assignSign (t := ['=']) rfl ⟨'=', rfl, rfl⟩
    (Expr.tokens value ++ ts)
  have hassignment : assignment E (written (Statement.tokens (.assign pos field value) ++ ts))
      (.assign default spelling e) (written ts) :=
    ⟨spelling, _, hfield, _, _, hsign, e, _, he, rfl, rfl⟩
  refine ⟨_, statementOver_of_bareStatement (.inr (.inr (.inr (.inl hassignment)))), ?_⟩
  rw [placed_false] at hdecode
  simp [SpelledStatement.decode, hfieldDecode, hdecode, StatementOf.unplaced]

theorem callStatement_written {function : String} {args : List Expr} (pos : Position)
    (hfunction : IsBareName function) (hargs : ∀ arg ∈ args, IsRead false E arg) :
    IsStatementRead (statementOver E B) (.call pos function args) := by
  intro ts
  obtain ⟨ss, hcall, hdecode⟩ := call_written hfunction hargs pos ts
  refine ⟨.call default function ss, statementOver_of_bareStatement
    (.inr (.inr (.inr (.inr (map_iff.mpr ⟨_, hcall, rfl⟩))))), ?_⟩
  simp [SpelledStatement.decode, hdecode, StatementOf.unplaced]

theorem directiveStatement_written {d : Directive} (h : Directive.IsWellFormed d)
    (hargs : ∀ arg ∈ d.args, IsRead false E arg) :
    IsStatementRead (statementOver E B) (.directive d) := by
  intro ts
  obtain ⟨d', hd, hdecode⟩ := directive_written h hargs ts
  refine ⟨.directive d', statementOver_of_bareStatement ?_, ?_⟩
  · cases hinline : d.inline with
    | true =>
      rw [hinline] at hd
      exact .inr (.inl (map_iff.mpr ⟨d', hd, rfl⟩))
    | false =>
      rw [hinline] at hd
      exact .inr (.inr (.inl (map_iff.mpr ⟨d', hd, rfl⟩)))
  · simp [SpelledStatement.decode, hdecode, StatementOf.unplaced]

/-- Well-formed arguments are read again, if the nesting that is allowed is as deep as their list. -/
theorem isRead_arguments {args : List Expr} (h : ArgsWellFormed args) {depth : Nat}
    (hdepth : sizeOf args ≤ depth) : ∀ arg ∈ args, IsRead false (expression depth) arg := by
  intro arg harg
  have hsize := List.sizeOf_lt_of_mem harg
  exact isRead_expression (argsWellFormed_iff.mp h arg harg) (by omega)

/-- A block is read again if its statements are, however deep the nesting is that they need. -/
theorem isBlockRead_of_isWellFormed {ss : List Statement} {depth : Nat} (hdepth : sizeOf ss < depth)
    (h : ∀ s ∈ ss, ∀ d, sizeOf s < d + 1 → IsStatementRead (statement (d + 1)) s) :
    IsBlockRead (star (statement depth)) ss := by
  obtain ⟨depth, rfl⟩ : ∃ d, depth = d + 1 := ⟨depth - 1, by omega⟩
  refine isBlockRead_of_forall fun s hs => h s hs depth ?_
  have hsize := List.sizeOf_lt_of_mem hs
  omega

/-- Every well-formed statement is read again. -/
theorem statement_written {s : Statement} (h : Statement.IsWellFormed s) {depth : Nat}
    (hdepth : sizeOf s < depth + 1) : IsStatementRead (statement (depth + 1)) s := by
  -- The blocks of a rule are nested less deep than the rule, so the depth is not fixed.
  induction s using StatementOf.inductionOn generalizing depth with
  | assign pos field value =>
    simp only [StatementOf.assign.sizeOf_spec] at hdepth
    exact assign_written pos (isRead_expression h (by omega))
  | call pos function args =>
    simp only [StatementOf.call.sizeOf_spec] at hdepth
    exact callStatement_written pos h.1 (isRead_arguments h.2 (by omega))
  | directive d =>
    obtain ⟨name, args, inline, position⟩ := d
    simp only [StatementOf.directive.sizeOf_spec, DirectiveOf.mk.sizeOf_spec] at hdepth
    have hargs : ArgsWellFormed args := h.2
    exact directiveStatement_written h (isRead_arguments hargs (by omega))
  | rule branches otherwise ihb iho =>
    obtain ⟨hne, hbranches, hotherwise⟩ := isWellFormed_rule_iff.mp h
    simp only [StatementOf.rule.sizeOf_spec] at hdepth
    have hsize : ∀ b ∈ branches, sizeOf b.condition < depth ∧ sizeOf b.body < depth := by
      rintro ⟨condition, body⟩ hb
      have hmem := List.sizeOf_lt_of_mem hb
      simp only [BranchOf.mk.sizeOf_spec] at hmem
      simp only [BranchOf.condition, BranchOf.body]
      omega
    have hconditions : ∀ b ∈ branches, IsRead true (expression depth) b.condition := fun b hb =>
      isRead_expression (hbranches b hb).1 (hsize b hb).1
    have hbodies : ∀ b ∈ branches, IsBlockRead (star (statement depth)) b.body := by
      intro b hb
      refine isBlockRead_of_isWellFormed (hsize b hb).2 fun s hs d hd => ?_
      exact ihb b hb s hs (blockWellFormed_iff.mp (hbranches b hb).2 s hs) hd
    have hother : ∀ body ∈ otherwise, IsBlockRead (star (statement depth)) body := by
      rintro body rfl
      simp only [Option.some.sizeOf_spec] at hdepth
      refine isBlockRead_of_isWellFormed (by omega) fun s hs d hd => ?_
      exact iho body rfl s hs (blockWellFormed_iff.mp (hotherwise body rfl) s hs) hd
    intro ts
    obtain ⟨s, hs, hdecode⟩ := rule_written hne hconditions hbodies hother ts
    exact ⟨s, statementOver_of_bareStatement (.inl hs), hdecode⟩

end Statements

theorem headerItem_written {d : Directive} (hinline : d.inline = false)
    (h : Directive.IsWellFormed d) (ts : List (List Char)) :
    ∃ s, anyDepth headerItem (written (Directive.tokens d ++ ts)) s (written ts) ∧
      SpelledDirective.decode s = .ok d.unplaced := by
  obtain ⟨s, hs, hdecode⟩ := directive_written h (isRead_arguments h.2 le_rfl) ts
  rw [hinline] at hs
  exact ⟨s, ⟨_, s, _, hs, none, _, optional_iff.mpr (.inr ⟨rfl, rfl⟩), rfl, rfl⟩, hdecode⟩

/-- The text of a well-formed file belongs to the language, and the tree that it is given there
stands for the file. -/
theorem program_print {f : SourceFile} (h : f.IsWellFormed) :
    ∃ spelled, program (skip f.print.toList) spelled ∧
      SpelledFile.decode spelled = .ok f.unplaced := by
  obtain ⟨hheader, hblock, hbehind⟩ := h
  obtain ⟨ds, hds, hdecode⟩ := star_written
    (fun d hd ts => headerItem_written (hheader d hd).1 (hheader d hd).2 ts)
    (f.statements.flatMap Statement.tokens)
  have hstatement : ∀ s ∈ f.statements, IsStatementRead (anyDepth statement) s := by
    intro s hs ts
    obtain ⟨s', hread, hdecode⟩ := statement_written (blockWellFormed_iff.mp hblock s hs)
      (Nat.lt_succ_self _) ts
    exact ⟨s', ⟨_, hread⟩, hdecode⟩
  obtain ⟨ss, hss, hdecodes⟩ := star_written hstatement []
  have htext : skip f.print.toList =
      written (f.header.flatMap Directive.tokens ++ f.statements.flatMap Statement.tokens) := by
    rw [SourceFile.print, String.toList_ofList, blockTokens_eq]
    rfl
  rw [List.append_nil] at hss
  have hfile : SpelledFile.decode ⟨ds, ss⟩ = .ok f.unplaced := by
    simp [SpelledFile.decode, decodeBlock_eq, hdecode, hdecodes, SourceFileOf.unplaced]
  have hbehind' : SourceFileOf.IsBehindHeader (⟨ds, ss⟩ : SpelledFile) := by
    rw [isBehindHeader_iff_of_decode hfile, SourceFile.isBehindHeader_unplaced]
    exact hbehind
  exact ⟨⟨ds, ss⟩, ⟨_, htext ▸ hds, hss, hbehind'⟩, hfile⟩

end Language

/-- Printing a well-formed file and reading the text gives the file again, up to positions; and what
is read from any text is a well-formed file, so it is given again by its own text. -/
theorem SourceFile.read_print :
    (∀ (f : SourceFile) (source : String), f.IsWellFormed →
      ∃ g, SourceFile.read source f.print = .ok g ∧ g.unplaced = f.unplaced) ∧
    ∀ (source text : String) (f : SourceFile), SourceFile.read source text = .ok f →
      f.IsWellFormed ∧ ∃ g, SourceFile.read source f.print = .ok g ∧ g.unplaced = f.unplaced := by
  have hprint : ∀ (f : SourceFile) (source : String), f.IsWellFormed →
      ∃ g, SourceFile.read source f.print = .ok g ∧ g.unplaced = f.unplaced := by
    intro f source h
    exact SourceFile.exists_read_iff.mpr (Language.program_print h)
  refine ⟨hprint, fun source text f h => ?_⟩
  have hwell := SourceFile.isWellFormed_of_read h
  exact ⟨hwell, hprint f source hwell⟩

end

/-- The pattern with a slash between two letters. -/
def slashPattern : Pattern :=
  Regex.pattern (.seq (.leaf (.oneOf (.range 'a' 'a')))
    (.seq (.leaf (.oneOf (.range '/' '/'))) (.leaf (.oneOf (.range 'b' 'b'))))) "a/b" false (by cbv)

/-- A file whose literals and names need escapes, with a condition that leaves its subject open. -/
def escapedFile : SourceFile where
  header := [⟨"default_field", [.literal default (.string "na\"me")], false, default⟩]
  statements := [
    .rule
      [.mk (.barePattern default (.literal default (.regex slashPattern)))
        [.assign default "a\x7d\\" (.binary default .concat
          (.unary default .minus (.literal default (.number ⟨150, 2⟩))) (.field default "if"))]]
      (some [.call default "log" [.literal default (.boolean true)]])]

theorem SourceFile.read_print_escapedFile :
    SourceFile.IsWellFormed escapedFile ∧
      (∃ g, SourceFile.read "main" escapedFile.print = .ok g ∧
        g.unplaced = escapedFile.unplaced) ∧
      ∃ g, SourceFile.read "main" "record_str()" = .ok g ∧ g.IsWellFormed := by
  have hregex : Spelling.IsRegexText ['a', '/', 'b'] :=
    ⟨['a', '\\', '/', 'b'], .plain (by decide) (by decide) (by decide)
      (.escape (.plain (by decide) (by decide) (by decide) .nil)), by decide⟩
  have hpattern : slashPattern.source.toList = ['a', '/', 'b'] ∧
      slashPattern.ignoreCase = false := ⟨rfl, rfl⟩
  have hnames : IsBareName "default_field" ∧ IsBareName "log" :=
    ⟨⟨⟨_, _, rfl, rfl, rfl⟩, by decide⟩, ⟨⟨_, _, rfl, rfl, rfl⟩, by decide⟩⟩
  have hwell : SourceFile.IsWellFormed escapedFile := by
    simp [SourceFile.IsWellFormed, escapedFile, Directive.IsWellFormed, ArgsWellFormed,
      Expr.IsWellFormed, Value.IsSpellable, Value.isPattern, BlockWellFormed,
      Statement.IsWellFormed, BranchesWellFormed, SourceFileOf.IsBehindHeader, hnames, hpattern,
      hregex]
  have hread : SourceFile.read "main" "record_str()" =
      .ok ⟨[], [.call ⟨"main", 1, 1⟩ "record_str" []]⟩ := by decide +kernel
  exact ⟨hwell, SourceFile.read_print.1 escapedFile "main" hwell, _, hread,
    (SourceFile.read_print.2 "main" "record_str()" _ hread).1⟩

end RecordScript

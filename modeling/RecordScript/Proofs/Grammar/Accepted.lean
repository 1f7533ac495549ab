import RecordScript.Pattern.PlaceEngine
import RecordScript.Proofs.Grammar.Extent
import RecordScript.Proofs.Grammar.Place
import RecordScript.Proofs.Grammar.Program
import RecordScript.Proofs.Syntax.Equality

/-!
# Texts that the grammar accepts

Once the grammar has accepted a text, only its leaves can fail. The first of them that stands for
nothing, in the order of the text, is the error. If there is none, every node of the tree points at
its place in the text.
-/

namespace RecordScript

/-- The expressions of a text that is accepted span it from its first token up to its end. -/
theorem Grammar.spans_of_readSpelled {source : String} {text : List Char} {file : SpelledFile}
    (h : readSpelled source text = .ok file) :
    ∃ last, Spans (Cursor.start source text).skipLayout file.roots last ∧ last.rest = [] := by
  obtain ⟨last, houtcome⟩ := readSpelled_eq_ok.mp h
  exact ⟨last, always_program _ _ houtcome⟩

theorem Cursor.isReached_start (source : String) (text : List Char) :
    (Cursor.start source text).skipLayout.IsReached source text :=
  ⟨[], .nil _⟩

section

variable [RegexEngine]

theorem SourceFile.read_of_readSpelled {source text : String} {file : SpelledFile}
    (h : Grammar.readSpelled source text.toList = .ok file) :
    SourceFile.read source text = file.decode := by
  rw [SourceFile.read_eq, h]
  rfl

/-! ### The first problem -/

/-- The first leaf with a problem, with the leaves before it. -/
theorem findSome?_error?_eq_some {ls : List (Position × Leaf)} {e : SyntaxError} :
    ls.findSome? Leaf.error? = some e ↔
      ∃ before leaf after, ls = before ++ (e.position, leaf) :: after ∧
        (∀ l ∈ before, l.2.problem? = none) ∧ leaf.problem? = some e.problem := by
  have herror : ∀ l : Position × Leaf, Leaf.error? l = some e ↔
      l.1 = e.position ∧ l.2.problem? = some e.problem := by
    rintro ⟨pos, leaf⟩
    obtain ⟨pos', problem⟩ := e
    simp [Leaf.error?, and_comm]
  have hnone : ∀ l : Position × Leaf, Leaf.error? l = none ↔ l.2.problem? = none :=
    fun _ => Option.map_eq_none_iff
  simp only [List.findSome?_eq_some_iff, herror, hnone]
  constructor
  · rintro ⟨before, ⟨pos, leaf⟩, after, hls, ⟨rfl, hproblem⟩, hbefore⟩
    exact ⟨before, leaf, after, hls, hbefore, hproblem⟩
  · rintro ⟨before, leaf, after, hls, hbefore, hproblem⟩
    exact ⟨before, (e.position, leaf), after, hls, ⟨rfl, hproblem⟩, hbefore⟩

/-- Once the grammar accepts a text, only its leaves can fail. They are the leaves among its tokens,
in their order and at their places. Nothing stops the builder, and no number fails. A program is
built if no leaf has a problem: every text between quotes and every name in braces unescapes, and
every pattern is one. Otherwise the error is the problem of the first leaf that has one, at the
position of this leaf. -/
theorem SourceFile.parse_of_accepted {source text : String} {trees : List ParseTree}
    (h : TreeGrammar.read source text.toList = .ok trees) :
    ∃ file, Grammar.readSpelled source text.toList = .ok file ∧
      (∃ last, Tokens (Cursor.start source text.toList).skipLayout file.leaves last ∧
        last.rest = []) ∧
      (∀ l ∈ file.leaves, l.1.source = source ∧ l.2.StandsAt text.toList l.1) ∧
      (∀ cause, SourceFile.parse source text ≠ .error (.panic cause)) ∧
      (∀ pos numeral, (pos, Leaf.literal (.number numeral)) ∈ file.leaves →
        ∃ n, Decimal.readNumeral numeral = some n) ∧
      ((∃ tree, SourceFile.parse source text = .ok tree) ↔
        ∀ l ∈ file.leaves, l.2.problem? = none) ∧
      ∀ e, SourceFile.parse source text = .error (.invalid e) ↔
        ∃ before leaf after, file.leaves = before ++ (e.position, leaf) :: after ∧
          (∀ l ∈ before, l.2.problem? = none) ∧ leaf.problem? = some e.problem := by
  obtain ⟨file, hfile⟩ := TreeGrammar.exists_read_iff.mp ⟨trees, h⟩
  obtain ⟨last, hspans, hlast⟩ := Grammar.spans_of_readSpelled hfile
  have hstands := hspans.tokens_leaves.standsAt (Cursor.isReached_start _ _)
  have hfailure := file.failure?_decode
  rw [← SourceFile.read_of_readSpelled hfile] at hfailure
  refine ⟨file, hfile, ⟨last, hspans.tokens_leaves, hlast⟩, hstands,
    SourceFile.parse_ne_panic source text, fun pos numeral hmem => ?_, ?_, fun e => ?_⟩
  · obtain ⟨-, taken, behind, hwritten, -⟩ := hstands _ hmem
    exact hwritten.exists_readNumeral
  · simp only [parse_eq_ok]
    rw [← Result.failure?_eq_none, hfailure, List.findSome?_eq_none_iff]
    exact forall₂_congr fun _ _ => Option.map_eq_none_iff
  · rw [parse_eq_invalid, ← Result.failure?_eq_some, hfailure, findSome?_error?_eq_some]

end

/-- Of a wrong escape and a wrong pattern behind it, the escape is reported. -/
theorem SourceFile.parse_of_accepted_first :
    (∃ trees, TreeGrammar.read "m" "y = 1 . '\\q' . /(/".toList = .ok trees) ∧
      SourceFile.parse "m" "y = 1 . '\\q' . /(/" =
        .error (.invalid ⟨⟨"m", 1, 9⟩, .unknownEscape 'q'⟩) := by
  have hspelled : Grammar.readSpelled "m" "y = 1 . '\\q' . /(/".toList = .ok
      { header := []
        statements := [.assign ⟨"m", 1, 1⟩ (.bare ['y']) (.binary ⟨"m", 1, 14⟩ .concat
          (.binary ⟨"m", 1, 7⟩ .concat (.literal ⟨"m", 1, 5⟩ (.number ['1']))
            (.literal ⟨"m", 1, 9⟩ (.quoted ['\\', 'q'])))
          (.literal ⟨"m", 1, 16⟩ (.regex ['('])))] } := by decide +kernel
  obtain ⟨trees, htrees⟩ := TreeGrammar.exists_read_iff.mpr ⟨_, hspelled⟩
  obtain ⟨file, hfile, -, -, -, -, -, herror⟩ := SourceFile.parse_of_accepted htrees
  obtain rfl := Except.ok.inj (hspelled.symm.trans hfile)
  refine ⟨⟨trees, htrees⟩, (herror _).mpr
    ⟨[(⟨"m", 1, 1⟩, .name (.bare ['y'])), (⟨"m", 1, 5⟩, .literal (.number ['1']))],
      .literal (.quoted ['\\', 'q']), [(⟨"m", 1, 16⟩, .literal (.regex ['(']))], ?_, ?_, ?_⟩⟩
  · decide +kernel
  · decide +kernel
  · decide +kernel

section

variable [RegexEngine]

/-! ### Places of nodes -/

/-- A literal of the text that stands for the value is written at the position. -/
def Value.IsWrittenAt (text : List Char) (p : Position) (v : Value) : Prop :=
  ∃ s : LiteralSpelling, s.decode = .ok v ∧ (Leaf.literal s).StandsAt text p

/-- A name of the text that stands for the field name is written at the position. -/
def IsFieldWrittenAt (text : List Char) (p : Position) (name : String) : Prop :=
  ∃ s : NameSpelling, s.decode = .ok name ∧ (Leaf.name s).StandsAt text p

/-- The node of a program points at its place in the text. -/
def Expr.PointsInto (text : List Char) (e : Expr) : Prop :=
  ExprOf.PointsInto text (Value.IsWrittenAt text) (IsFieldWrittenAt text) e

namespace SpelledExpr

/-- Positions of nodes are kept when an expression is decoded. -/
theorem forall_position_of_decode {P : Position → Prop} {e : SpelledExpr} {e' : Expr}
    (h : e.decode = .ok e') (he : ∀ x ∈ e.nodes, P x.position) : ∀ x ∈ e'.nodes, P x.position := by
  intro x' hx'
  obtain ⟨x, hx, hdecode⟩ := exists_node_of_decode h x' hx'
  exact position_of_decode hdecode ▸ he x hx

theorem pointsInto_of_decode {text : List Char} {e : SpelledExpr} {e' : Expr}
    (h : e.decode = .ok e') (he : e.PointsInto text (fun p s => (Leaf.literal s).StandsAt text p)
      fun p s => (Leaf.name s).StandsAt text p) : Expr.PointsInto text e' := by
  cases e with
  | literal pos s
  | field pos s =>
    simp only [decode, Result.bind_eq_ok, Result.pure_eq_ok, problemAt_eq_ok] at h
    obtain ⟨v, hv, rfl⟩ := h
    exact ⟨s, hv, he⟩
  | call pos function args =>
    simp only [decode, Result.bind_eq_ok, Result.pure_eq_ok] at h
    obtain ⟨args', -, rfl⟩ := h
    exact he
  | unary pos op operand =>
    simp only [decode, Result.bind_eq_ok, Result.pure_eq_ok] at h
    obtain ⟨operand', ho, rfl⟩ := h
    exact ⟨he.1, forall_position_of_decode ho he.2⟩
  | binary pos op left right =>
    simp only [decode, Result.bind_eq_ok, Result.pure_eq_ok] at h
    obtain ⟨left', hl, right', hr, rfl⟩ := h
    exact ⟨he.1, forall_position_of_decode (P := fun p => p.Precedes text pos) hl he.2.1,
      forall_position_of_decode hr he.2.2⟩
  | logical pos op left right
  | comparison pos op left right
  | pattern pos left right =>
    simp only [decode, Result.bind_eq_ok, Result.pure_eq_ok] at h
    obtain ⟨left', hl, right', -, rfl⟩ := h
    exact forall_position_of_decode hl he
  | barePattern pos needle =>
    simp only [decode, Result.bind_eq_ok, Result.pure_eq_ok] at h
    obtain ⟨needle', hn, rfl⟩ := h
    exact Eq.trans he (position_of_decode hn).symm

end SpelledExpr

/-- Every node of a program, in directives, assigned fields, conditions and bodies, has a line and a
column that lead to an offset of its text. There stand the literal, the name or the sign of the
node; a sign stands before its operand or between its operands, and a node without a token of its
own is not behind its left operand. -/
theorem SourceFile.pointsInto_of_read {source text : String} {file : SourceFile}
    (h : SourceFile.read source text = .ok file) :
    ∀ e ∈ file.roots, ∀ x ∈ e.nodes, x.position.source = source ∧
      (∃ n < text.toList.length, x.position.offset? text.toList = some n) ∧
      Expr.PointsInto text.toList x := by
  have hread := h
  rw [SourceFile.read_eq, Result.bind_eq_ok] at hread
  obtain ⟨spelled, hspelled, hdecode⟩ := hread
  obtain ⟨last, hspans, -⟩ := Grammar.spans_of_readSpelled hspelled
  have hstart := Cursor.isReached_start source text.toList
  have hroots : spelled.roots.mapM SpelledExpr.decode = .ok file.roots := by
    rw [← decodesRoots_file spelled, hdecode]
    rfl
  -- A decoded node has the position of the node it is decoded from, so that one is located.
  intro e' he' x' hx'
  obtain ⟨e, he, hee'⟩ := Result.exists_mem_of_mapM hroots he'
  obtain ⟨x, hx, hxx'⟩ := SpelledExpr.exists_node_of_decode hee' x' hx'
  obtain ⟨hsource, n, hn, -, hlast⟩ := hspans.isWithin hstart e he x hx
  rw [SpelledExpr.position_of_decode hxx']
  refine ⟨hsource, ⟨n, hlast.trans_le (hspans.isReached hstart).offset_le, hn⟩, ?_⟩
  exact SpelledExpr.pointsInto_of_decode hxx' (hspans.pointsInto hstart e he x hx)

end

/-- Behind a comment and a line end of two characters, the node of a sign points at it. -/
theorem SourceFile.pointsInto_of_read_comment :
    Expr.PointsInto "#c\r\ny = -{a} > 'b'".toList
      (.unary ⟨"m", 2, 5⟩ .minus (.field ⟨"m", 2, 6⟩ "a")) := by
  have h : SourceFile.read "m" "#c\r\ny = -{a} > 'b'" = .ok
      { header := []
        statements := [.assign ⟨"m", 2, 1⟩ "y" (.comparison ⟨"m", 2, 5⟩ .gt
          (.unary ⟨"m", 2, 5⟩ .minus (.field ⟨"m", 2, 6⟩ "a"))
          (.literal ⟨"m", 2, 12⟩ (.string "b")))] } := by decide +kernel
  refine (SourceFile.pointsInto_of_read h (.comparison ⟨"m", 2, 5⟩ .gt
    (.unary ⟨"m", 2, 5⟩ .minus (.field ⟨"m", 2, 6⟩ "a")) (.literal ⟨"m", 2, 12⟩ (.string "b"))) ?_
    (.unary ⟨"m", 2, 5⟩ .minus (.field ⟨"m", 2, 6⟩ "a")) ?_).2.2
  · simp [SourceFileOf.roots, blockRoots, StatementOf.roots]
  · simp [ExprOf.nodes]

end RecordScript

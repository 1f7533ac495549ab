import RecordScript.Pattern.PlaceEngine
import RecordScript.Proofs.Grammar.Program
import RecordScript.Proofs.Layout.Gap
import RecordScript.Proofs.Layout.Spelling
import RecordScript.Proofs.Syntax.Equality

/-!
# Putting in what says nothing

White space and comments can be put between the tokens of a program, and signs that say nothing
where a phrase has none of them: semicolons behind statements, bars in front of expressions, and
parentheses around expressions. The text that arises has the tokens of the first text and these
signs, since no token ends elsewhere: what stands behind it goes on as before, or a separator comes.
So both texts are read as the same program, up to positions.
-/

namespace RecordScript

open Reading

/-! ### Tokens without those that are put in -/

/-- The tokens that are not put in. -/
def originalTokens (ts : List Lexeme) : List Lexeme := ts.filter fun t => !t.inserted

section Original

variable {t : Lexeme} {ts us : List Lexeme}

theorem originalTokens_cons (ht : t.inserted = false) :
    originalTokens (t :: ts) = t :: originalTokens ts :=
  List.filter_cons_of_pos (by simp [ht])

theorem originalTokens_inserted (ht : t.inserted = true) :
    originalTokens (t :: ts) = originalTokens ts :=
  List.filter_cons_of_neg (by simp [ht])

theorem originalTokens_append :
    originalTokens (ts ++ us) = originalTokens ts ++ originalTokens us :=
  List.filter_append ..

/-- A part without the tokens that are put in. -/
def originalPart {α : Type} (p : Part α) : Part α := (originalTokens p.1, p.2)

theorem originalTokens_between :
    originalTokens (between false ts) = between false (originalTokens ts) := by
  rw [between, originalTokens_cons rfl, originalTokens_append]
  rfl

theorem originalTokens_between_inserted : originalTokens (between true ts) = originalTokens ts := by
  rw [between, originalTokens_inserted rfl, originalTokens_append]
  exact List.append_nil _

theorem originalTokens_flatMap {ι : Type} (tokens : ι → List Lexeme) (parts : List ι) :
    originalTokens (parts.flatMap tokens) = parts.flatMap fun i => originalTokens (tokens i) :=
  List.filter_flatMap ..

theorem map_snd_originalPart {α : Type} (parts : List (Part α)) :
    (parts.map originalPart).map Prod.snd = parts.map Prod.snd := by
  rw [List.map_map]
  rfl

theorem originalTokens_flatMap_fst {α : Type} (parts : List (Part α)) :
    originalTokens (parts.flatMap Prod.fst) = (parts.map originalPart).flatMap Prod.fst := by
  rw [originalTokens_flatMap, List.flatMap_map]
  rfl

theorem originalTokens_argumentTokens (args : List (Part SpelledExpr)) :
    originalTokens (argumentTokens (args.map Prod.fst)) =
      argumentTokens ((args.map originalPart).map Prod.fst) := by
  rw [argumentTokens, originalTokens_between, argumentTokens]
  congr 1
  cases args with
  | nil => rfl
  | cons arg args =>
    rw [List.map_cons, separatedTokens, originalTokens_append, originalTokens_flatMap,
      List.map_map, List.map_cons, separatedTokens, List.flatMap_map, List.flatMap_map]
    rfl

theorem forall_originalPart {α : Type} {P : List Lexeme → α → Prop} {parts : List (Part α)}
    (h : ∀ p ∈ parts, P (originalTokens p.1) p.2) : ∀ p ∈ parts.map originalPart, P p.1 p.2 := by
  rintro _ hmap
  obtain ⟨p, hp, rfl⟩ := List.mem_map.mp hmap
  exact h p hp

end Original

/-- An expression stays the same expression without what is put in. -/
theorem Phrase.original {level : Level} {ts : List Lexeme} {e : SpelledExpr}
    (h : Phrase level ts e) : Phrase level (originalTokens ts) e := by
  induction h with
  | literal kind taken =>
    rw [originalTokens_cons (by cases kind <;> rfl)]
    exact .literal kind taken
  | field token =>
    rw [originalTokens_cons (by cases token <;> rfl)]
    exact .field token
  | call function args each ih =>
    rw [originalTokens_cons rfl, originalTokens_argumentTokens, ← map_snd_originalPart]
    exact .call function _ (forall_originalPart ih)
  | parenthesized inside ih =>
    rw [originalTokens_between]
    exact .parenthesized ih
  | signed op operand ih =>
    rw [originalTokens_cons rfl]
    exact .signed op ih
  | product op left right ihl ihr =>
    rw [originalTokens_append, originalTokens_cons rfl]
    exact .product op ihl ihr
  | sum op left right ihl ihr =>
    rw [originalTokens_append, originalTokens_cons rfl]
    exact .sum op ihl ihr
  | comparison op left right ihl ihr =>
    rw [originalTokens_append, originalTokens_cons rfl]
    exact .comparison op ihl ihr
  | negation op operand ih =>
    rw [originalTokens_cons rfl]
    exact .negation op ih
  | conjunction left right ihl ihr =>
    rw [originalTokens_append, originalTokens_cons rfl]
    exact .conjunction ihl ihr
  | disjunction left right ihl ihr =>
    rw [originalTokens_append, originalTokens_cons rfl]
    exact .disjunction ihl ihr
  | bar inserted behind ih =>
    cases inserted with
    | false =>
      rw [originalTokens_cons rfl]
      exact .bar false ih
    | true =>
      rw [originalTokens_inserted rfl]
      exact .looser ih
  | looser tighter ih => exact .looser ih
  | inserted inside ih =>
    rw [originalTokens_between_inserted]
    exact ih

theorem exists_originalTokens_semicolon (semicolon : Option Bool) :
    ∃ semicolon', originalTokens (semicolonTokens semicolon) = semicolonTokens semicolon' := by
  rcases semicolon with _ | _ | _
  · exact ⟨none, rfl⟩
  · exact ⟨some false, rfl⟩
  · exact ⟨none, rfl⟩

theorem DirectivePhrase.original {inline : Bool} {ts : List Lexeme} {d : SpelledDirective}
    (h : DirectivePhrase inline ts d) : DirectivePhrase inline (originalTokens ts) d := by
  cases h with
  | bare name => exact .bare name
  | withArguments name args each =>
    rw [originalTokens_cons rfl, originalTokens_cons rfl, originalTokens_argumentTokens,
      ← map_snd_originalPart]
    exact .withArguments name _ (forall_originalPart fun arg harg => (each arg harg).original)

theorem HeaderPhrase.original {ts : List Lexeme} {d : SpelledDirective} (h : HeaderPhrase ts d) :
    HeaderPhrase (originalTokens ts) d := by
  obtain ⟨tokens, semicolon⟩ := h
  obtain ⟨semicolon', hsemicolon⟩ := exists_originalTokens_semicolon semicolon
  rw [originalTokens_append, hsemicolon]
  exact .directive tokens.original semicolon'

/-- The parts of a branch without the tokens that are put in. -/
def BranchParts.original (b : BranchParts) : BranchParts :=
  ⟨originalPart b.condition, b.body.map originalPart⟩

theorem BranchParts.originalTokens_tokens (k : String) (b : BranchParts) :
    originalTokens (b.tokens k) = b.original.tokens k := by
  rw [tokens, originalTokens_cons rfl, originalTokens_append, originalTokens_cons rfl,
    originalTokens_flatMap_fst]
  rfl

theorem BranchParts.tree_original (b : BranchParts) : b.original.tree = b.tree := by
  simp only [tree, original, map_snd_originalPart]
  rfl

theorem forall_branchParts_original {P : BranchParts → Prop} {first : BranchParts}
    {others : List BranchParts} (h : ∀ b ∈ first :: others, P b.original) :
    ∀ b ∈ first.original :: others.map BranchParts.original, P b := by
  intro b hb
  obtain ⟨b, hmem, rfl⟩ := List.mem_map.mp (List.map_cons ▸ hb)
  exact h b hmem

theorem originalTokens_otherwise (otherwise : Option (List (Part SpelledStatement))) :
    originalTokens (otherwiseTokens otherwise) =
      otherwiseTokens (otherwise.map (List.map originalPart)) := by
  cases otherwise with
  | none => rfl
  | some body =>
    rw [otherwiseTokens, originalTokens_cons rfl, originalTokens_flatMap_fst]
    rfl

/-- A statement stays the same statement without what is put in. -/
theorem StatementPhrase.original {ts : List Lexeme} {s : SpelledStatement}
    (h : StatementPhrase ts s) : StatementPhrase (originalTokens ts) s := by
  induction h with
  | rule first others otherwise conditions bodies otherBody semicolon ih ihOther =>
    obtain ⟨semicolon', hsemicolon⟩ := exists_originalTokens_semicolon semicolon
    have htokens : originalTokens (others.flatMap (BranchParts.tokens "elif")) =
        (others.map BranchParts.original).flatMap (BranchParts.tokens "elif") := by
      simp only [originalTokens_flatMap, BranchParts.originalTokens_tokens, List.flatMap_map]
    have htrees : others.map BranchParts.tree =
        (others.map BranchParts.original).map BranchParts.tree := by
      rw [List.map_map]
      exact List.map_congr_left fun b _ => b.tree_original.symm
    have hother : otherwise.map (List.map Prod.snd) =
        (otherwise.map (List.map originalPart)).map (List.map Prod.snd) := by
      rw [Option.map_map]
      exact Option.map_congr fun body _ => (map_snd_originalPart body).symm
    rw [originalTokens_append, originalTokens_append, originalTokens_append,
      originalTokens_cons rfl, BranchParts.originalTokens_tokens, htokens,
      originalTokens_otherwise, hsemicolon, ← first.tree_original, htrees, hother]
    refine .rule first.original _ _ ?_ ?_ ?_ semicolon'
    · exact forall_branchParts_original fun b hb => (conditions b hb).original
    · exact forall_branchParts_original fun b hb => forall_originalPart (ih b hb)
    · intro body hbody
      obtain ⟨body, hmem, rfl⟩ := Option.map_eq_some_iff.mp hbody
      exact forall_originalPart (ihOther body hmem)
  | directive tokens semicolon =>
    obtain ⟨semicolon', hsemicolon⟩ := exists_originalTokens_semicolon semicolon
    rw [originalTokens_append, hsemicolon]
    exact .directive tokens.original semicolon'
  | assign token value semicolon =>
    obtain ⟨semicolon', hsemicolon⟩ := exists_originalTokens_semicolon semicolon
    rw [originalTokens_cons (by cases token <;> rfl), originalTokens_cons rfl,
      originalTokens_append, hsemicolon]
    exact .assign token value.original semicolon'
  | call function args each semicolon =>
    obtain ⟨semicolon', hsemicolon⟩ := exists_originalTokens_semicolon semicolon
    rw [originalTokens_cons rfl, originalTokens_append, hsemicolon, originalTokens_argumentTokens,
      ← map_snd_originalPart]
    exact .call function _ (forall_originalPart fun arg harg => (each arg harg).original) semicolon'

theorem ProgramPhrase.original {ts : List Lexeme} {file : SpelledFile} (h : ProgramPhrase ts file) :
    ProgramPhrase (originalTokens ts) file := by
  obtain ⟨header, statements, directives, each, isBehindHeader⟩ := h
  rw [originalTokens_append, originalTokens_flatMap_fst, originalTokens_flatMap_fst,
    ← map_snd_originalPart header, ← map_snd_originalPart statements]
  exact .program _ _ (forall_originalPart fun d hd => (directives d hd).original)
    (forall_originalPart fun s hs => (each s hs).original)
    (by rwa [map_snd_originalPart])

/-! ### Texts -/

/-- The signs that say nothing about the program where they are put in. -/
def silentSigns : List String := ["(", ")", ";", "|"]

/-- The first text has the tokens that are not put in, with gaps between them. In the second text,
the other tokens are put into these gaps, and so are white space and comments. -/
inductive Inserted : List Lexeme → List Char → List Char → Prop
  | last {gap gap' : List Char} (isLayout : IsLayout gap) (widens : Widens gap gap') :
      Inserted [] gap gap'
  | keep {t : Lexeme} {ts : List Lexeme} {gap gap' text text' : List Char} (isGap : IsGap gap)
      (widens : Widens gap gap') (plain : t.inserted = false)
      (scans : t.scan (t.chars ++ text) = some (t.chars, text)) (others : Inserted ts text text') :
      Inserted (t :: ts) (gap ++ (t.chars ++ text)) (gap' ++ (t.chars ++ text'))
  | put {s : String} {h : Token.IsSign s ∧ Token.StartsVisibly s} {ts : List Lexeme}
      {gap gap' text text' : List Char} (isGap : IsGap gap) (widens : Widens gap gap')
      (silent : s ∈ silentSigns) (others : Inserted ts text text') :
      Inserted (.sign s h true :: ts) (gap ++ text) (gap' ++ (s.toList ++ text'))

theorem isSeparator_of_endsLayout {c : Char} (h : endsLayout c = false) : isSeparator c = true := by
  simp only [endsLayout, Bool.and_eq_false_iff, Bool.not_eq_false', decide_eq_false_iff_not,
    Decidable.not_not] at h
  rcases h with h | rfl
  · simp [isSeparator, h]
  · rfl

theorem continues_of_isLayout {gap : List Char} (h : IsLayout gap) (hne : gap ≠ [])
    (cs rest : List Char) : Continues cs (gap ++ rest) := by
  obtain ⟨c, gap, rfl⟩ := List.exists_cons_of_ne_nil hne
  refine .apart fun c' hc' => ?_
  obtain rfl : c = c' := by simpa using hc'
  exact isSeparator_of_endsLayout (endsLayout_eq_false_of_isLayout h)

theorem exists_isSeparator :
    ∀ s ∈ silentSigns, ∃ c ∈ s.toList.head?, isSeparator c = true := by
  decide

namespace Inserted

variable {ts : List Lexeme} {text text' : List Char}

/-- The second text goes on like the first one up to a separator. -/
theorem continues (h : Inserted ts text text') : Continues text text' := by
  induction h with
  | @last gap gap' isLayout widens =>
    by_cases hgap : gap' = []
    · rw [hgap]
      exact .apart fun c hc => by cases hc
    · have h := continues_of_isLayout (widens.isLayout isLayout) hgap gap []
      rwa [List.append_nil] at h
  | @keep t ts gap gap' text text' isGap widens plain scans others ih =>
    by_cases hgap : gap' = []
    · -- Nothing is put in front of the token, so both texts go on with it.
      rw [hgap, widens.eq_nil hgap]
      exact ih.append t.chars
    · exact continues_of_isLayout (widens.isGap isGap).1 hgap _ _
  | @put s h ts gap gap' text text' isGap widens silent others ih =>
    by_cases hgap : gap' = []
    · -- What is put in is a separator itself.
      rw [hgap, List.nil_append]
      refine .apart fun c hc => ?_
      obtain ⟨c', hc', hseparator⟩ := exists_isSeparator s silent
      cases hs : s.toList with
      | nil => simp [hs] at hc'
      | cons d ds =>
        obtain rfl : d = c' := by simpa [hs] using hc'
        obtain rfl : d = c := by simpa [hs] using hc
        exact hseparator
    · exact continues_of_isLayout (widens.isGap isGap).1 hgap _ _

theorem skip_scanned {t : Lexeme} {text : List Char}
    (h : t.scan (t.chars ++ text) = some (t.chars, text)) :
    skip (t.chars ++ text) = t.chars ++ text := by
  obtain ⟨c, hc, hends⟩ := t.robust.start h
  cases hchars : t.chars with
  | nil => simp [hchars] at hc
  | cons c' chars =>
    obtain rfl : c' = c := by simpa [hchars] using hc
    exact skip_of_endsLayout hends _

/-- The second text is read along all tokens. -/
theorem reads (h : Inserted ts text text') : Reads ts (skip text') [] := by
  induction h with
  | last isLayout widens => exact (widens.isLayout isLayout).symm
  | @keep t ts gap gap' text text' isGap widens plain scans others ih =>
    -- The token ends where it has ended, although other characters may stand behind it.
    have hscan := t.robust.stable scans others.continues
    rw [(widens.isGap isGap).skip_append, skip_scanned hscan]
    exact ⟨skip text', ⟨text', hscan, rfl⟩, ih⟩
  | @put s h ts gap gap' text text' isGap widens silent others ih =>
    have hscan : (Lexeme.sign s h true).scan (s.toList ++ text') = some (s.toList, text') :=
      Token.sign_eq_some.mpr ⟨rfl, rfl⟩
    rw [(widens.isGap isGap).skip_append]
    refine ⟨skip text', ⟨text', ?_, rfl⟩, ih⟩
    rwa [show skip (s.toList ++ text') = s.toList ++ text' from skip_scanned hscan]

/-- The first text is read along the tokens that are not put in. -/
theorem reads_original (h : Inserted ts text text') : Reads (originalTokens ts) (skip text) [] := by
  induction h with
  | last isLayout widens => exact isLayout.symm
  | @keep t ts gap gap' text text' isGap widens plain scans others ih =>
    rw [isGap.skip_append, skip_scanned scans, originalTokens_cons plain]
    exact ⟨skip text, ⟨text, scans, rfl⟩, ih⟩
  | @put s h ts gap gap' text text' isGap widens silent others ih =>
    rw [isGap.skip_append, originalTokens_inserted rfl]
    exact ih

end Inserted

/-- A text that is read along plain tokens consists of these and of gaps. -/
theorem inserted_of_reads {ts : List Lexeme} {text : List Char} (hplain : IsPlain ts)
    (h : Reads ts (skip text) []) : Inserted ts text text := by
  induction ts generalizing text with
  | nil => exact .last h.symm .same
  | cons t ts ih =>
    obtain ⟨ht, hts⟩ := isPlain_cons.mp hplain
    obtain ⟨_, ⟨behind, hscan, rfl⟩, hreads⟩ := h
    have hsplit := t.robust.split hscan
    have hne : skip text ≠ [] := by
      rw [← hsplit]
      exact List.append_ne_nil_of_left_ne_nil (t.robust.ne_nil hscan) _
    obtain ⟨gap, hgap, htext⟩ := exists_isGap hne
    rw [← hsplit] at hscan htext
    rw [htext]
    exact .keep hgap .same ht hscan (ih hts hreads)

/-- A text is read as one program only. -/
theorem Language.program_unique {text : List Char} {f g : SpelledFile}
    (hf : Language.program (skip text) f) (hg : Language.program (skip text) g) : f = g := by
  have exists_file {f : SpelledFile} (h : Language.program (skip text) f) :
      ∃ file, Grammar.readSpelled "" text = .ok file ∧ file.unplaced = f :=
    Grammar.exists_readSpelled_of_program h
  obtain ⟨file, hread, rfl⟩ := exists_file hf
  obtain ⟨file', hread', rfl⟩ := exists_file hg
  obtain rfl : file = file' := Except.ok.inj (hread.symm.trans hread')
  rfl

/-- A text that can be read consists of the tokens of a program, and whatever is put into it between
tokens, behind statements and around expressions, the text that arises is read as the same program,
up to positions. -/
theorem SourceFile.read_inserted [RegexEngine] {source text : String} {f : SourceFile}
    (h : SourceFile.read source text = .ok f) :
    (∃ ts file, ProgramPhrase ts file ∧ IsPlain ts ∧ Inserted ts text.toList text.toList) ∧
      ∀ (ts : List Lexeme) (file : SpelledFile) (text' : String), ProgramPhrase ts file →
        Inserted ts text.toList text'.toList →
        ∃ g, SourceFile.read source text' = .ok g ∧ g.unplaced = f.unplaced := by
  obtain ⟨spelled, hprogram, hdecode⟩ := SourceFile.exists_read_iff.mp ⟨f, h, rfl⟩
  constructor
  · obtain ⟨ts, hphrase, hplain, hreads⟩ := exists_of_program hprogram
    exact ⟨ts, spelled, hphrase, hplain, inserted_of_reads hplain hreads⟩
  · -- Without what is put in, the phrase is one of the first text, so its tree is the tree of the
    -- first text. With it, the phrase is one of the second text, with the same tree.
    intro ts file text' hphrase hinserted
    obtain rfl : spelled = file :=
      Language.program_unique hprogram (hphrase.original.reading hinserted.reads_original)
    exact SourceFile.exists_read_iff.mpr
      ⟨spelled, hphrase.reading hinserted.reads, hdecode⟩

namespace Insertion

/-- The tokens of a file with a directive, a rule and the concatenation of three operands.
Semicolons, bars and parentheses are put in: around the condition, and around the first two
operands. -/
def tokens : List Lexeme :=
  [.directiveSign false, .name ['h'], .opening false, .bar true, .name ['u'], .closing false,
    .semicolon true, .keyword "if", .opening true, .name ['p'], .closing true, .keyword "then",
    .name ['a'], .assignSign, .bar true, .opening true, LiteralKind.lexeme ['1'] .number,
    .operator Language.addSigns (by decide) ['.'], .name ['b'], .closing true,
    .operator Language.addSigns (by decide) ['.'], .name ['c'], .semicolon true, .keyword "fi",
    .semicolon true]

/-- The spelled value of the assignment. -/
def value : SpelledExpr :=
  .binary default .concat (.binary default .concat (.literal default (.number ['1']))
    (.field default (.bare ['b']))) (.field default (.bare ['c']))

/-- The spelled file. -/
def file : SpelledFile where
  header := [⟨"h", [.field default (.bare ['u'])], false, default⟩]
  statements := [.rule [.mk (.field default (.bare ['p']))
    [.assign default (.bare ['a']) value]] none]

/-- What is read of the text without anything put in. -/
def plainFile : SourceFile where
  header := [⟨"h", [.field ⟨"main", 1, 4⟩ "u"], false, ⟨"main", 1, 1⟩⟩]
  statements := [.rule [.mk (.field ⟨"main", 1, 9⟩ "p")
    [.assign ⟨"main", 1, 16⟩ "a" (.binary ⟨"main", 1, 21⟩ .concat
      (.binary ⟨"main", 1, 19⟩ .concat (.literal ⟨"main", 1, 18⟩ (.number ⟨1, 0⟩))
        (.field ⟨"main", 1, 20⟩ "b")) (.field ⟨"main", 1, 22⟩ "c"))]] none]

theorem phrase_field (c : Char) : Phrase .primary [.name [c]] (.field default (.bare [c])) :=
  .field (.bare [c])

theorem programPhrase_tokens : ProgramPhrase tokens file := by
  have one : Phrase .sum [LiteralKind.lexeme ['1'] .number] (.literal default (.number ['1'])) :=
    (Phrase.literal .number ['1']).looser.looser.looser
  have hvalue : Phrase .complete _ value :=
    .bar true (Phrase.sum ['.'] (.inserted (.sum ['.'] one (phrase_field 'b').looser.looser))
      (phrase_field 'c').looser.looser).looser.looser.looser.looser
  have hcondition : Phrase .complete _ (.field default (.bare ['p'])) :=
    (Phrase.inserted
      (phrase_field 'p')).looser.looser.looser.looser.looser.looser.looser.looser
  have hargument : Phrase .complete _ (.field default (.bare ['u'])) :=
    .bar true (phrase_field 'u').looser.looser.looser.looser.looser.looser.looser
  have hassign := StatementPhrase.assign (.bare ['a']) hvalue (some true)
  have hrule := StatementPhrase.rule ⟨(_, _), [(_, _)]⟩ [] none (by simpa using hcondition)
    (by simpa using hassign) (by simp) (some true)
  have hheader := HeaderPhrase.directive
    (DirectivePhrase.withArguments ['h'] [(_, _)] (by simpa using hargument)) (some true)
  exact .program [(_, _)] [(_, _)] (by simpa using hheader) (by simpa using hrule) (by simp)

/-- White space, comments and the tokens that are put in are put into the text. -/
theorem inserted_tokens : Inserted tokens "@h(u)if p then a=1.b.c fi#x".toList
    "@h( |u);if (p )then a = |(1.b).c; fi;#x#y\n".toList := by
  have keep {t : Lexeme} {ts : List Lexeme} {gap gap' : List Char} (text : List Char)
      {text' : List Char} (isGap : IsGap gap) (widens : Widens gap gap')
      (plain : t.inserted = false) (scans : t.scan (t.chars ++ text) = some (t.chars, text))
      (others : Inserted ts text text') :
      Inserted (t :: ts) (gap ++ (t.chars ++ text)) (gap' ++ (t.chars ++ text')) :=
    .keep isGap widens plain scans others
  have tight {t : Lexeme} {ts : List Lexeme} (text : List Char) {text' : List Char}
      (plain : t.inserted = false) (scans : t.scan (t.chars ++ text) = some (t.chars, text))
      (others : Inserted ts text text') :
      Inserted (t :: ts) ([] ++ (t.chars ++ text)) ([] ++ (t.chars ++ text')) :=
    keep text isGap_nil .same plain scans others
  have put {s : String} {h : Token.IsSign s ∧ Token.StartsVisibly s} {ts : List Lexeme}
      {text text' : List Char} (silent : s ∈ silentSigns) (others : Inserted ts text text') :
      Inserted (.sign s h true :: ts) ([] ++ text) ([] ++ (s.toList ++ text')) :=
    .put isGap_nil .same silent others
  have blank : Widens [] ([] ++ [' '] ++ []) :=
    .insert .same (by rintro ⟨⟩) (.blanks (by decide))
  have isBlank : IsGap [' '] := isGap_blanks (by decide)
  have comment : Widens "#x".toList ("#x".toList ++ ('#' :: (['y'] ++ ['\n'])) ++ []) :=
    .insert .same (by rintro - _ ⟨⟩) (.comment (by decide))
  have hend : Inserted [] "#x".toList "#x#y\n".toList :=
    .last rfl comment
  have hfi : Inserted (tokens.drop 23) " fi#x".toList " fi;#x#y\n".toList :=
    keep "#x".toList isBlank .same rfl rfl (put (by decide) hend)
  have hvalue : Inserted (tokens.drop 15) "1.b.c fi#x".toList "(1.b).c; fi;#x#y\n".toList :=
    put (by decide) (tight ".b.c fi#x".toList rfl rfl (tight "b.c fi#x".toList rfl rfl
      (tight ".c fi#x".toList rfl rfl (put (by decide) (tight "c fi#x".toList rfl rfl
        (tight " fi#x".toList rfl rfl (put (by decide) hfi)))))))
  have hassign : Inserted (tokens.drop 12) " a=1.b.c fi#x".toList
      " a = |(1.b).c; fi;#x#y\n".toList :=
    keep "=1.b.c fi#x".toList isBlank .same rfl rfl
      (keep "1.b.c fi#x".toList isGap_nil blank rfl rfl
        (.put isGap_nil blank (by decide) hvalue))
  have hcondition : Inserted (tokens.drop 8) " p then a=1.b.c fi#x".toList
      " (p )then a = |(1.b).c; fi;#x#y\n".toList :=
    .put isBlank .same (by decide) (tight " then a=1.b.c fi#x".toList rfl rfl
      (.put isBlank .same (by decide) (tight " a=1.b.c fi#x".toList rfl rfl hassign)))
  have hrule : Inserted (tokens.drop 6) "if p then a=1.b.c fi#x".toList
      ";if (p )then a = |(1.b).c; fi;#x#y\n".toList :=
    put (by decide) (tight " p then a=1.b.c fi#x".toList rfl rfl hcondition)
  exact tight "h(u)if p then a=1.b.c fi#x".toList rfl rfl
    (tight "(u)if p then a=1.b.c fi#x".toList rfl rfl
      (tight "u)if p then a=1.b.c fi#x".toList rfl rfl
        (.put isGap_nil blank (by decide) (tight ")if p then a=1.b.c fi#x".toList rfl rfl
          (tight "if p then a=1.b.c fi#x".toList rfl rfl hrule)))))

theorem read_inserted_tokens :
    SourceFile.read "main" "@h(u)if p then a=1.b.c fi#x" = .ok plainFile ∧
      ∃ g, SourceFile.read "main" "@h( |u);if (p )then a = |(1.b).c; fi;#x#y\n" = .ok g ∧
        g.unplaced = plainFile.unplaced := by
  have hread : SourceFile.read "main" "@h(u)if p then a=1.b.c fi#x" = .ok plainFile := by
    decide +kernel
  exact ⟨hread, (SourceFile.read_inserted hread).2 tokens file _ programPhrase_tokens
    inserted_tokens⟩

end Insertion

end RecordScript

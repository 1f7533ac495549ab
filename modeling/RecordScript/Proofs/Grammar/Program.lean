import RecordScript.Proofs.Grammar.Completeness
import RecordScript.Proofs.Spelled.Agreement
import RecordScript.Proofs.Syntax.Unplaced

/-!
# Whole programs

A text is read exactly if it belongs to the language, and the tree that is read is the one that the
language gives. The limit of the parser is above the length of the text, so no repetition and no
nesting is cut off.
-/

open RecordScript.Parser (Sound Yields Fails)

namespace RecordScript

namespace Grammar

variable {cs rest : List Char}

/-! ### The end of the header -/

/-- Where a statement can be read that is no directive of a header, there is no such directive. -/
theorem fails_headerItem_of_statement {limit depth : Nat} {s : SpelledStatement}
    (h : Language.statement depth cs s rest) (hs : ∀ d, s = .directive d → d.inline = true) :
    Fails (headerItem limit) cs := by
  refine (sound_headerItem limit).fails ?_
  rintro d rest' ⟨_, mid', hdirective, -⟩
  have hsign := hdirective.choose_spec.choose_spec.1
  have hat : ¬ Avoids ['@'] cs := by
    obtain ⟨c, cs', rfl, hc⟩ := Language.starts_sign (p := (· = '@')) (by decide) hsign
    obtain rfl : c = '@' := by simpa using hc
    exact fun havoids => avoids_cons.mp havoids (by decide)
  cases depth with
  | zero => exact h
  | succ depth =>
    obtain ⟨_, mid, h | h | h | h | h, _, _, _, rfl, rfl⟩ := h
    · obtain ⟨_, _, ⟨_, _, hkeyword, -⟩, -⟩ := h
      exact hat ((Language.starts_keyword "if").avoids (by decide) hkeyword)
    · obtain ⟨_, ⟨_, _, ⟨behind, hinline, -⟩, -⟩, -⟩ := Reading.map_iff.mp h
      rw [inlineSign_of_directive hdirective] at hinline
      cases hinline
    · obtain ⟨d', ⟨_, _, _, _, _, _, _, _, _, rfl, rfl⟩, rfl⟩ := Reading.map_iff.mp h
      cases hs _ rfl
    · exact hat (avoids_of_fieldName h.choose_spec.choose_spec.1)
    · obtain ⟨c, hc, -⟩ := Reading.map_iff.mp h
      exact hat ((Language.starts_call _).avoids (by decide) hc)

theorem avoids_of_statements {ss : List SpelledStatement}
    (h : Reading.star (Reading.anyDepth Language.statement) cs ss rest)
    (hrest : Avoids statementMarks rest) : Avoids statementMarks cs :=
  Reading.of_star h (fun _ _ _ ⟨_, hs⟩ => avoids_of_statement hs) hrest

/-- Where there is no directive of a header, the statements do not go on with one. -/
theorem isBehindHeader_of_outcome {limit : Nat} {c : Cursor} {f : SpelledFile}
    (h : Reading.star (Reading.anyDepth Language.statement) c.rest f.statements [])
    (hlength : c.rest.length ≤ limit) (hnone : (headerItem limit c).outcome = none) :
    f.IsBehindHeader := by
  intro d hd
  rcases hstatements : f.statements with _ | ⟨s, ss⟩
  · simp [hstatements] at hd
  · obtain rfl : s = .directive d := by simpa [hstatements] using hd
    rw [hstatements] at h
    cases h with
    | @cons _ last _ _ _ first others =>
      obtain ⟨depth, first⟩ := first
      cases depth with
      | zero => exact first.elim
      | succ depth =>
        obtain ⟨s, mid, hbare, semicolon, _, hsemicolon, hs, rfl⟩ := first
        subst hs
        rcases hbare with h | h | h | h | h
        · obtain ⟨_, _, _, _, _, _, _, _, _, _, _, _, h, -⟩ := h
          cases h
        · obtain ⟨d', ⟨_, _, _, _, _, _, _, _, _, rfl, -⟩, h⟩ := Reading.map_iff.mp h
          cases h
          rfl
        · obtain ⟨d', hdirective, h⟩ := Reading.map_iff.mp h
          cases h
          have hitem : Language.headerItem depth c.rest d last :=
            ⟨d, mid, hdirective, semicolon, last, hsemicolon, rfl, rfl⟩
          have hlast := avoids_of_statements others (avoids_nil _)
          have hyields : Yields DirectiveOf.unplaced (headerItem limit) c.rest d last :=
            yields_headerItem hitem (by omega) hlast
          obtain ⟨_, _, hread, -⟩ := hyields c rfl
          rw [hnone] at hread
          cases hread
        · obtain ⟨_, _, _, _, _, _, _, _, _, h, -⟩ := h
          cases h
        · obtain ⟨_, _, h⟩ := Reading.map_iff.mp h
          cases h

/-! ### Reading a text -/

theorem readSpelled_eq_ok {source : String} {text : List Char} {f : SpelledFile} :
    readSpelled source text = .ok f ↔
      ∃ c, (program (text.length + 1) (Cursor.start source text)).outcome = some (f, c) :=
  Parser.result_eq_ok

/-- What is read belongs to the language. -/
theorem program_of_readSpelled {source : String} {text : List Char} {f : SpelledFile}
    (h : readSpelled source text = .ok f) : Language.program (skip text) f.unplaced := by
  obtain ⟨last, h⟩ := readSpelled_eq_ok.mp h
  simp only [program, header_eq, Parser.outcome_named, Parser.outcome_bind,
    Option.bind_eq_some_iff] at h
  obtain ⟨⟨_, c⟩, hlayout, ⟨header, mid⟩, hheader, ⟨statements, c'⟩, hstatements, ⟨_, c''⟩, hend,
    h⟩ := h
  cases hlayout
  cases h
  have hlength := length_skip_le text
  have hheaderStar := (sound_headerItem _).many _ hheader
  have hheaderLength := Reading.length_add_length_le (Language.takes_headerItem _) hheaderStar
  have hstatementsStar := (sound_statement _).many _ hstatements
  have hnil : c'.rest = [] := by
    unfold Parser.atEnd at hend
    split at hend
    · rename_i hempty
      exact List.isEmpty_iff.mp hempty
    · cases hend
  rw [hnil] at hstatementsStar
  rw [Parser.rest_skipLayout] at hheaderLength
  change _ ≤ (skip text).length at hheaderLength
  have hnone : (headerItem (text.length + 1) mid).outcome = none := by
    refine (Parser.outcome_of_many hheader).resolve_left fun hlimit => ?_
    rw [List.length_map, hlimit] at hheaderLength
    omega
  have hmidLength : mid.rest.length ≤ text.length + 1 := by omega
  exact ⟨mid.rest, Reading.star_anyDepth hheaderStar, Reading.star_anyDepth hstatementsStar,
    isBehindHeader_of_outcome (Reading.star_anyDepth hstatementsStar) hmidLength hnone⟩

/-- Where the statements of a file start, no directive of a header is read. -/
theorem fails_headerItem_of_statements {limit : Nat} {f : SpelledFile}
    (h : Reading.star (Reading.anyDepth Language.statement) cs f.statements [])
    (hbehind : f.IsBehindHeader) : Fails (headerItem limit) cs := by
  rcases f with ⟨header, _ | ⟨s, ss⟩⟩
  · cases h
    exact (fails_directive rfl).bind _
  · cases h with
    | cons first _ =>
      refine fails_headerItem_of_statement first.choose_spec fun d hd => hbehind d ?_
      exact congrArg some hd

theorem yields_header (limit : Nat) {ds : List SpelledDirective}
    (h : Reading.star (Reading.anyDepth Language.headerItem) cs ds rest)
    (hlength : cs.length < limit) (hrest : Avoids statementMarks rest)
    (hstop : Fails (headerItem limit) rest) :
    Yields (List.map DirectiveOf.unplaced) (Parser.many limit (headerItem limit)) cs ds rest := by
  have htakes := Reading.takes_anyDepth Language.takes_headerItem
  have hdsLength := Reading.length_add_length_le htakes h
  exact Parser.yields_many h htakes.zero
    (fun _ _ _ hd hlength hrest => yields_headerItem hd.choose_spec (by omega) hrest)
    (fun _ _ _ hd => (Language.starts_headerItem _).avoids (by decide) hd.choose_spec) hrest hstop
    (Nat.le_of_lt hlength) (by omega)

theorem yields_statements (limit : Nat) {ss : List SpelledStatement}
    (h : Reading.star (Reading.anyDepth Language.statement) cs ss [])
    (hlength : cs.length < limit) :
    Yields (List.map StatementOf.unplaced) (Parser.many limit (statement limit)) cs ss [] := by
  have htakes := Reading.takes_anyDepth Language.takes_statement
  have hssLength := Reading.length_add_length_le htakes h
  have hstop : Fails (statement limit) [] := (sound_statement _).fails fun s rest hs => by
    have htaken := Language.takes_statement _ hs
    simp at htaken
  exact Parser.yields_many h htakes.zero
    (fun _ _ _ hs hlength hrest => yields_statement _ _ hs.choose_spec (by omega) hrest)
    (fun _ _ _ hs => avoids_of_statement hs.choose_spec) (avoids_nil _) hstop
    (Nat.le_of_lt hlength) (by omega)

/-- What belongs to the language is read. -/
theorem exists_readSpelled_of_program {source : String} {text : List Char} {f : SpelledFile}
    (h : Language.program (skip text) f) :
    ∃ g, readSpelled source text = .ok g ∧ g.unplaced = f := by
  obtain ⟨mid, hheader, hstatements, hbehind⟩ := h
  have hlength := length_skip_le text
  have hheaderLength := Reading.length_add_length_le
    (Reading.takes_anyDepth Language.takes_headerItem) hheader
  have hyields := yields_header (text.length + 1) hheader (by omega)
    (avoids_of_statements hstatements (avoids_nil _))
    (fails_headerItem_of_statements hstatements hbehind)
  have hyields' := yields_statements (text.length + 1) hstatements (by omega)
  have hend : Yields id (Parser.named .endOfInput Parser.atEnd) [] () [] :=
    Yields.named (fun c hc => ⟨(), c, by rw [Parser.atEnd, hc]; rfl, rfl, hc⟩) _
  have hlayout : Yields id Parser.layout text () (skip text) := by
    rintro c rfl
    exact ⟨(), c.skipLayout, rfl, rfl, rfl⟩
  have hprogram : Yields SourceFileOf.unplaced (program (text.length + 1)) text f [] := by
    refine Yields.named (hlayout.bind fun _ _ => ?_) _
    refine Yields.bind (hyields.named _) fun header hh => ?_
    refine Yields.bind (hyields'.named _) fun statements hs => hend.bind fun _ _ => ?_
    exact Parser.yields_pure (by rw [SourceFileOf.unplaced, hh, hs])
  obtain ⟨g, c, hread, hview, -⟩ := hprogram (Cursor.start source text) rfl
  exact ⟨g, readSpelled_eq_ok.mpr ⟨c, hread⟩, hview⟩

end Grammar

/-- What can be read of a text are the decoded trees that the language gives it. -/
theorem SourceFile.exists_read_iff [RegexEngine] {source text : String} {f : SourceFile} :
    (∃ g, SourceFile.read source text = .ok g ∧ g.unplaced = f) ↔
      ∃ spelled, Language.program (skip text.toList) spelled ∧
        SpelledFile.decode spelled = .ok f := by
  simp only [SourceFile.read_eq, Result.bind_eq_ok]
  constructor
  · rintro ⟨g, ⟨spelled, hread, hdecode⟩, rfl⟩
    refine ⟨spelled.unplaced, Grammar.program_of_readSpelled hread, ?_⟩
    have hunplaced := SpelledFile.toOption_decode_unplaced spelled
    rw [hdecode] at hunplaced
    exact Result.toOption_eq_some.mp hunplaced.symm
  · rintro ⟨spelled, hprogram, hdecode⟩
    obtain ⟨spelled', hread, rfl⟩ : ∃ g, Grammar.readSpelled source text.toList = .ok g ∧
        g.unplaced = spelled :=
      Grammar.exists_readSpelled_of_program hprogram
    have hunplaced := SpelledFile.toOption_decode_unplaced spelled'
    rw [hdecode] at hunplaced
    obtain ⟨g, hg, hview⟩ := Option.map_eq_some_iff.mp hunplaced
    exact ⟨g, ⟨spelled', hread, Result.toOption_eq_some.mp hg⟩, hview⟩

end RecordScript

import Mathlib.Data.List.Forall2
import RecordScript.Grammar.Tree
import RecordScript.Proofs.Grammar.Parser

/-!
# Parsers that go side by side

One parser mirrors another at a place if it fails where the other fails, comes as far as the other
where both succeed, and reports the same frontier. What the two have read is related. There is a
rule for each combination of parsers, and one for each way in which nodes are put together.
-/

namespace RecordScript

variable {α β γ δ : Type}

/-- Replies with the same frontier: both parsers fail, or they stop at the same place and what they
have read is related. -/
inductive Reply.Agree (R : α → β → Prop) : Reply α → Reply β → Prop
  | read {a : α} {b : β} {c : Cursor} {frontier : Option Frontier} (related : R a b) :
    Agree R ⟨some (a, c), frontier⟩ ⟨some (b, c), frontier⟩
  | failed {frontier : Option Frontier} : Agree R ⟨none, frontier⟩ ⟨none, frontier⟩

@[simp]
theorem Frontier.join_none (frontier : Option Frontier) : join frontier none = frontier := by
  cases frontier <;> rfl

namespace Parser

/-- At the cursor, the parsers come equally far and read things that are related. -/
def Mirrors (p : Parser α) (q : Parser β) (c : Cursor) (R : α → β → Prop) : Prop :=
  Reply.Agree R (p c) (q c)

section Mirrors

variable {p : Parser α} {q : Parser β} {c : Cursor} {R : α → β → Prop} {S : γ → δ → Prop}

theorem Mirrors.mono (h : Mirrors p q c R) {R' : α → β → Prop} (hR : ∀ a b, R a b → R' a b) :
    Mirrors p q c R' := by
  unfold Mirrors at h ⊢
  generalize p c = reply, q c = reply' at h
  cases h with
  | read related => exact .read (hR _ _ related)
  | failed => exact .failed

theorem mirrors_refl (p : Parser α) (c : Cursor) :
    Mirrors p p c fun a b => a = b ∧ ∃ c', (p c).outcome = some (b, c') := by
  unfold Mirrors
  rcases p c with ⟨_ | ⟨a, c'⟩, frontier⟩
  · exact .failed
  · exact .read ⟨rfl, c', rfl⟩

theorem mirrors_pure {a : α} {b : β} (h : R a b) : Mirrors (pure a) (pure b) c R := .read h

theorem mirrors_fail : Mirrors fail fail c R := .failed

theorem Mirrors.bind {f : α → Parser γ} {g : β → Parser δ} (h : Mirrors p q c R)
    (hf : ∀ a b c', R a b → Mirrors (f a) (g b) c' S) : Mirrors (p >>= f) (q >>= g) c S := by
  change Reply.Agree S (Parser.bind p f c) (Parser.bind q g c)
  unfold Mirrors at h hf
  unfold Parser.bind
  generalize p c = reply, q c = reply' at h
  cases h with
  | failed => exact .failed
  | @read a b c' frontier related =>
    dsimp only
    have hnext := hf a b c' related
    generalize f a c' = next, g b c' = next' at hnext
    cases hnext with
    | failed => exact .failed
    | read related => exact .read related

/-- What is read may be turned into something else, on either side. -/
theorem Mirrors.map {f : α → γ} {g : β → δ} (h : Mirrors p q c R)
    (hf : ∀ a b, R a b → S (f a) (g b)) :
    Mirrors (p >>= fun a => pure (f a)) (q >>= fun b => pure (g b)) c S :=
  h.bind fun a b _ hab => mirrors_pure (hf a b hab)

theorem bind_pure_eq (p : Parser α) : (p >>= fun a => pure a) = p := by
  funext c
  change Parser.bind p (fun a => Parser.pure a) c = p c
  unfold Parser.bind Parser.pure
  rcases p c with ⟨_ | ⟨a, c'⟩, frontier⟩ <;> simp

theorem Mirrors.map_left {R : γ → β → Prop} {f : α → γ}
    (h : Mirrors p q c fun a b => R (f a) b) : Mirrors (p >>= fun a => pure (f a)) q c R := by
  rw [← bind_pure_eq q]
  exact h.map fun _ _ hab => hab

theorem Mirrors.map_right {R : α → δ → Prop} {g : β → δ}
    (h : Mirrors p q c fun a b => R a (g b)) : Mirrors p (q >>= fun b => pure (g b)) c R := by
  rw [← bind_pure_eq p]
  exact h.map fun _ _ hab => hab

theorem here_bind (f : Position → Parser α) (c : Cursor) : (here >>= f) c = f c.position c := by
  change (⟨(f c.position c).outcome, Frontier.join none (f c.position c).frontier⟩ : Reply α) = _
  rcases f c.position c with ⟨outcome, frontier⟩
  rw [Frontier.join]

theorem mirrors_here_left {f : Position → Parser α} (h : Mirrors (f c.position) q c R) :
    Mirrors (here >>= f) q c R := by
  rw [Mirrors, here_bind]
  exact h

theorem mirrors_here_right {f : Position → Parser β} (h : Mirrors p (f c.position) c R) :
    Mirrors p (here >>= f) c R := by
  rw [Mirrors, here_bind]
  exact h

theorem Mirrors.orElse {p' : Parser α} {q' : Parser β} (h : Mirrors p q c R)
    (h' : Mirrors p' q' c R) : Mirrors (p <|> p') (q <|> q') c R := by
  change Reply.Agree R (Parser.orElse p (fun _ => p') c) (Parser.orElse q (fun _ => q') c)
  unfold Mirrors at h h'
  unfold Parser.orElse
  generalize p c = reply, q c = reply' at h
  cases h with
  | read related => exact .read related
  | failed =>
    dsimp only
    generalize p' c = next, q' c = next' at h'
    cases h' with
    | failed => exact .failed
    | read related => exact .read related

theorem Mirrors.named (h : Mirrors p q c R) (construct : Construct) :
    Mirrors (named construct p) (named construct q) c R := by
  unfold Mirrors at h ⊢
  unfold Parser.named
  generalize p c = reply, q c = reply' at h
  cases h with
  | read related => exact .read related
  | failed => exact .failed

theorem Mirrors.optional (h : Mirrors p q c R) :
    Mirrors (optional p) (optional q) c (Option.Rel R) :=
  Mirrors.orElse (h.map fun _ _ hab => .some hab) (mirrors_pure .none)

theorem mirrors_many (h : ∀ c, Mirrors p q c R) (limit : Nat) (c : Cursor) :
    Mirrors (many limit p) (many limit q) c (List.Forall₂ R) := by
  induction limit generalizing c with
  | zero => exact mirrors_pure .nil
  | succ limit ih =>
    refine Mirrors.orElse ((h c).bind fun a b c' hab => ?_) (mirrors_pure .nil)
    exact (ih c').map fun _ _ has => .cons hab has

end Mirrors

end Parser

/-! ### Nodes -/

namespace TreeGrammar

open RecordScript.Parser

variable {p : TreeParser} {ps : List TreeParser} {q : Parser β} {c : Cursor}
  {R : List ParseTree → β → Prop}

theorem mirrors_sequence_nil {b : β} (h : R [] b) : Mirrors (sequence []) (pure b) c R :=
  mirrors_pure h

theorem Mirrors.sequence_cons {S : List ParseTree → δ → Prop} {g : β → Parser δ}
    (h : Mirrors p q c R)
    (hnext : ∀ ts b c', R ts b →
      Mirrors (sequence ps) (g b) c' fun ts' d => S (ts ++ ts') d) :
    Mirrors (sequence (p :: ps)) (q >>= g) c S :=
  h.bind fun ts b c' hb => (hnext ts b c' hb).map_left

theorem Mirrors.sequence_single (h : Mirrors p q c R) : Mirrors (sequence [p]) q c R := by
  rw [← bind_pure_eq q]
  refine Mirrors.sequence_cons h fun ts b _ hb => mirrors_sequence_nil ?_
  rwa [List.append_nil]

theorem mirrors_maybe (h : Mirrors (sequence ps) q c R) :
    Mirrors (maybe ps) (optional q) c fun ts o => o.elim (ts = []) (R ts) :=
  Mirrors.map_left (h.optional.mono fun _ _ hab => by cases hab <;> trivial)

/-- A thing that is read again and again has its nodes one behind the other. -/
theorem mirrors_repeated (h : ∀ c, Mirrors (sequence ps) q c R) (limit : Nat) (c : Cursor) :
    Mirrors (repeated limit ps) (many limit q) c
      fun ts bs => ∃ tss, ts = tss.flatten ∧ List.Forall₂ R tss bs :=
  Mirrors.map_left ((mirrors_many h limit c).mono fun tss _ hbs => ⟨tss, rfl, hbs⟩)

/-- A thing with one node that is read again and again. -/
theorem mirrors_repeated_single {R : ParseTree → β → Prop}
    (h : ∀ c, Mirrors (sequence ps) q c fun ts b => ∃ t, ts = [t] ∧ R t b) (limit : Nat)
    (c : Cursor) : Mirrors (repeated limit ps) (many limit q) c (List.Forall₂ R) := by
  refine (mirrors_repeated h limit c).mono ?_
  rintro _ bs ⟨tss, rfl, hbs⟩
  induction hbs with
  | nil => exact .nil
  | cons hb _ ih =>
    obtain ⟨t, rfl, ht⟩ := hb
    exact .cons ht ih

theorem mirrors_mark (s : String) (c : Cursor) :
    Mirrors (mark s) (token (Token.sign s)) c fun ts _ => ts = [] :=
  Mirrors.map_left ((mirrors_refl _ c).mono fun _ _ _ => rfl)

theorem mirrors_maybe_mark (s : String) (c : Cursor) :
    Mirrors (maybe [mark s]) (optional (token (Token.sign s))) c fun ts _ => ts = [] :=
  (mirrors_maybe (Mirrors.sequence_single (mirrors_mark s c))).mono fun ts o hts => by
    cases o <;> exact hts

/-- A sign in front leaves nothing behind. -/
theorem mirrors_mark_cons (h : ∀ c, Mirrors (sequence ps) q c R) (s : String) (c : Cursor) :
    Mirrors (sequence (mark s :: ps)) (token (Token.sign s) >>= fun _ => q) c R := by
  refine Mirrors.sequence_cons (mirrors_mark s c) fun ts _ c' hts => ?_
  rw [hts]
  exact h c'

theorem mirrors_leaf (construct : Construct) (scan : Scanner) (c : Cursor) :
    Mirrors (leaf construct scan) (named construct (token scan)) c fun ts taken =>
      ts = [{ construct, position := c.position, text := taken }] ∧
        ∃ cs rest, scan cs = some (taken, rest) := by
  refine Mirrors.named (mirrors_here_left (Mirrors.map_left ?_)) construct
  refine (mirrors_refl _ c).mono ?_
  rintro _ taken ⟨rfl, c', h⟩
  obtain ⟨rest, hscan, -⟩ := sound_token scan h
  exact ⟨rfl, _, rest, hscan⟩

theorem mirrors_enclosed (construct : Construct) (inside : List Char → Construct) (scan : Scanner)
    (c : Cursor) :
    Mirrors (enclosed construct inside scan) (named construct (token scan)) c fun ts taken =>
      ∃ pos, ts =
        [{ construct
           position := c.position
           text := taken
           parts :=
            [{ construct := inside taken, position := pos, text := Token.inner taken }] }] :=
  Mirrors.named (mirrors_here_left (Mirrors.map_left
    ((mirrors_refl _ c).mono fun _ _ h => ⟨_, by rw [h.1]⟩))) construct

theorem mirrors_around (h : Mirrors (sequence ps) q c R) (construct : Construct) :
    Mirrors (around construct ps) (named construct q) c fun ts b =>
      ∃ parts, ts = [{ construct, position := c.position, parts }] ∧ R parts b :=
  Mirrors.named (mirrors_here_left (Mirrors.map_left
    (h.mono fun parts _ hb => ⟨parts, rfl, hb⟩))) construct

end TreeGrammar

end RecordScript

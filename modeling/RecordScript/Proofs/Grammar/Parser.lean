import RecordScript.Grammar.Tree
import RecordScript.Proofs.Grammar.Reading

/-!
# Parsers and readings

The outcome of a parser without its frontier, what always holds of it, and the two directions in
which a parser and a reading can agree. A parser is sound for a reading if all that it reads can be
read; it yields something at a text if it reads that, whatever line and column it stands at. A view
forgets positions on the way.
-/

namespace RecordScript.Parser

variable {α β γ δ : Type}

/-! ### Outcomes -/

theorem outcome_pure (a : α) (c : Cursor) : ((pure a : Parser α) c).outcome = some (a, c) := rfl

theorem outcome_bind (p : Parser α) (f : α → Parser β) (c : Cursor) :
    ((p >>= f) c).outcome = (p c).outcome.bind fun (a, c') => (f a c').outcome := by
  change (Parser.bind p f c).outcome = _
  unfold Parser.bind
  rcases p c with ⟨_ | ⟨a, c'⟩, frontier⟩ <;> rfl

theorem outcome_map (f : α → β) (p : Parser α) (c : Cursor) :
    ((f <$> p) c).outcome = (p c).outcome.map fun (a, c') => (f a, c') := by
  change ((p >>= fun a => pure (f a)) c).outcome = _
  rw [outcome_bind]
  rcases (p c).outcome with _ | ⟨a, c'⟩ <;> rfl

theorem outcome_orElse (p q : Parser α) (c : Cursor) :
    ((p <|> q) c).outcome = (p c).outcome.or (q c).outcome := by
  change (Parser.orElse p (fun _ => q) c).outcome = _
  unfold Parser.orElse
  rcases p c with ⟨_ | ⟨a, c'⟩, frontier⟩ <;> rfl

theorem outcome_named (construct : Construct) (p : Parser α) (c : Cursor) :
    (named construct p c).outcome = (p c).outcome := by
  unfold named
  rcases p c with ⟨_ | ⟨a, c'⟩, frontier⟩ <;> rfl

theorem outcome_many_succ (limit : Nat) (p : Parser α) (c : Cursor) :
    (many (limit + 1) p c).outcome =
      (((p c).outcome.bind fun (a, c') => (many limit p c').outcome.map fun (as, c'') =>
        (a :: as, c'')).or (some ([], c))) := by
  rw [many, outcome_orElse, outcome_bind, outcome_pure]
  congr 2
  funext ⟨a, c'⟩
  exact outcome_map (a :: ·) (many limit p) c'

theorem result_eq_ok {reply : Reply α} {source : String} {a : α} :
    reply.result source = .ok a ↔ ∃ c, reply.outcome = some (a, c) := by
  obtain ⟨_ | ⟨a', c⟩, _ | frontier⟩ := reply <;> simp [Reply.result]

theorem rest_skipLayout (c : Cursor) : c.skipLayout.rest = skip c.rest := rfl

/-! ### Postconditions -/

section Always

variable {p q : Parser α} {f : α → Parser β} {c : Cursor} {P : α → Cursor → Prop}
  {Q : β → Cursor → Prop}

/-- Whatever the parser reads at the cursor has the property, together with the cursor behind it. -/
def Always (p : Parser α) (c : Cursor) (P : α → Cursor → Prop) : Prop :=
  ∀ ⦃a c'⦄, (p c).outcome = some (a, c') → P a c'

theorem always_pure {a : α} (h : P a c) : Always (pure a) c P := by
  rintro b c' ⟨⟩
  exact h

theorem Always.bind (hp : Always p c P) (hf : ∀ a c', P a c' → Always (f a) c' Q) :
    Always (p >>= f) c Q := by
  intro b c' h
  rw [outcome_bind, Option.bind_eq_some_iff] at h
  obtain ⟨⟨a, mid⟩, ha, hb⟩ := h
  exact hf a mid (hp ha) hb

theorem always_here_bind {f : Position → Parser β} (hf : Always (f c.position) c Q) :
    Always (here >>= f) c Q := by
  intro b c' h
  rw [outcome_bind] at h
  exact hf h

theorem Always.map {g : α → β} (hp : Always p c fun a c' => Q (g a) c') : Always (g <$> p) c Q :=
  hp.bind fun _ _ h => always_pure h

theorem Always.orElse (hp : Always p c P) (hq : Always q c P) : Always (p <|> q) c P := by
  intro a c' h
  rw [outcome_orElse, Option.or_eq_some_iff] at h
  rcases h with h | ⟨-, h⟩
  · exact hp h
  · exact hq h

theorem Always.named (hp : Always p c P) (construct : Construct) :
    Always (named construct p) c P := by
  intro a c' h
  rw [outcome_named] at h
  exact hp h

theorem Always.optional {P : Option α → Cursor → Prop} (hp : Always p c fun a c' => P (some a) c')
    (hnone : P none c) : Always (optional p) c P :=
  Always.orElse (Always.map hp) (always_pure hnone)

/-- A property of things read one after the other, built up from the last to the first. -/
theorem always_many {P : Cursor → α → Cursor → Prop} {R : Cursor → List α → Cursor → Prop}
    (hp : ∀ c, Always p c (P c)) (nil : ∀ c, R c [] c)
    (cons : ∀ {c a mid as c'}, P c a mid → R mid as c' → R c (a :: as) c') (limit : Nat)
    (c : Cursor) : Always (many limit p) c (R c) := by
  induction limit generalizing c with
  | zero => exact always_pure (nil c)
  | succ limit ih =>
    rw [many]
    refine Always.orElse ((hp c).bind fun a mid ha => (ih mid).bind fun as c' has => ?_)
      (always_pure (nil c))
    exact always_pure (cons ha has)

end Always

/-! ### Soundness -/

/-- All that the parser reads can be read, up to the view. -/
def Sound (view : α → β) (p : Parser α) (R : Reading β) : Prop :=
  ∀ ⦃c a c'⦄, (p c).outcome = some (a, c') → R c.rest (view a) c'.rest

section Sound

variable {view : α → β} {view' : γ → δ} {p q : Parser α} {f : α → Parser γ} {R S : Reading β}
  {F : β → Reading δ}

theorem sound_pure (a : α) : Sound view (pure a) (pure (view a)) :=
  fun c => always_pure (P := fun a' c' => (pure (view a) : Reading β) c.rest (view a') c'.rest)
    ⟨rfl, rfl⟩

theorem Sound.bind (hp : Sound view p R) (hf : ∀ a, Sound view' (f a) (F (view a))) :
    Sound view' (p >>= f) (R >>= F) :=
  fun c => Always.bind (@hp c) fun a mid ha _ _ hd => ⟨view a, mid.rest, ha, hf a hd⟩

theorem sound_here_bind {f : Position → Parser α} (hf : ∀ pos, Sound view (f pos) R) :
    Sound view (here >>= f) R :=
  fun c => always_here_bind (@hf c.position c)

theorem Sound.map {g : α → γ} {g' : β → δ} (hp : Sound view p R)
    (hg : ∀ a, view' (g a) = g' (view a)) : Sound view' (g <$> p) (g' <$> R) :=
  hp.bind fun a => by
    change Sound view' (pure (g a)) (pure (g' (view a)))
    exact hg a ▸ sound_pure (g a)

theorem Sound.orElse (hp : Sound view p R) (hq : Sound view q S) :
    Sound view (p <|> q) (R <|> S) :=
  fun _ => Always.orElse (fun _ _ h => .inl (hp h)) fun _ _ h => .inr (hq h)

theorem Sound.named (hp : Sound view p R) (construct : Construct) :
    Sound view (named construct p) R :=
  fun c => Always.named (@hp c) construct

theorem Sound.optional (hp : Sound view p R) :
    Sound (Option.map view) (optional p) (Reading.optional R) := by
  have hsome : Sound (Option.map view) (some <$> p) (some <$> R) := hp.map fun _ => rfl
  exact hsome.orElse (sound_pure none)

theorem Sound.many (hp : Sound view p R) (limit : Nat) :
    Sound (List.map view) (many limit p) (Reading.star R) :=
  always_many (R := fun c as c' => Reading.star R c.rest (as.map view) c'.rest) (fun c => @hp c)
    (fun _ => .nil) (fun ha has => .cons ha has) limit

/-- What is read is something. -/
theorem sound_anything (view : α → β) (p : Parser α) : Sound view p fun _ _ _ => True :=
  fun _ _ _ _ => trivial

theorem sound_token (scan : Scanner) : Sound id (token scan) (Reading.token scan) := by
  intro c taken c' h
  unfold token at h
  split at h
  · rename_i behind hscan
    cases h
    exact ⟨_, hscan, rfl⟩
  · cases h

theorem exists_outcome_many (limit : Nat) (p : Parser α) (c : Cursor) :
    ∃ result, (many limit p c).outcome = some result := by
  cases limit with
  | zero => exact ⟨_, rfl⟩
  | succ limit =>
    rw [outcome_many_succ, Option.or_some]
    exact ⟨_, rfl⟩

/-- A repetition ends where the thing cannot be read again, or at its limit. -/
theorem outcome_of_many {limit : Nat} {c c' : Cursor} {as : List α}
    (h : (many limit p c).outcome = some (as, c')) :
    as.length = limit ∨ (p c').outcome = none := by
  induction limit generalizing c as with
  | zero =>
    cases h
    exact .inl rfl
  | succ limit ih =>
    rw [outcome_many_succ] at h
    cases hp : (p c).outcome with
    | none =>
      rw [hp] at h
      cases h
      exact .inr hp
    | some result =>
      obtain ⟨a, mid⟩ := result
      rw [hp, Option.bind_some, Option.or_eq_some_iff] at h
      rcases h with h | ⟨hnone, -⟩
      · obtain ⟨⟨as', last⟩, has, h⟩ := Option.map_eq_some_iff.mp h
        cases h
        exact (ih has).imp (congrArg (· + 1)) id
      · obtain ⟨result, hresult⟩ := exists_outcome_many limit p mid
        simp only [hresult, Option.map_some] at hnone
        cases hnone

end Sound

/-! ### Completeness -/

/-- At this text the parser reads the thing, up to the view, and leaves the rest. -/
def Yields (view : α → β) (p : Parser α) (cs : List Char) (b : β) (rest : List Char) : Prop :=
  ∀ c : Cursor, c.rest = cs → ∃ a c', (p c).outcome = some (a, c') ∧ view a = b ∧ c'.rest = rest

/-- At this text the parser reads nothing. -/
def Fails (p : Parser α) (cs : List Char) : Prop := ∀ c : Cursor, c.rest = cs → (p c).outcome = none

section Yields

variable {view : α → β} {view' : γ → δ} {p q : Parser α} {f : α → Parser γ} {b : β} {d : δ}
  {cs mid rest : List Char}

theorem yields_pure {a : α} (h : view a = b) : Yields view (pure a) cs b cs :=
  fun c hc => ⟨a, c, rfl, h, hc⟩

theorem Yields.bind (hp : Yields view p cs b mid)
    (hf : ∀ a, view a = b → Yields view' (f a) mid d rest) : Yields view' (p >>= f) cs d rest := by
  intro c hc
  obtain ⟨a, c', ha, hb, hc'⟩ := hp c hc
  obtain ⟨x, c'', hx, hd, hrest⟩ := hf a hb c' hc'
  refine ⟨x, c'', ?_, hd, hrest⟩
  rw [outcome_bind, ha]
  exact hx

theorem yields_here_bind {f : Position → Parser α} (hf : ∀ pos, Yields view (f pos) cs b rest) :
    Yields view (here >>= f) cs b rest := by
  intro c hc
  obtain ⟨a, c', ha, hb, hrest⟩ := hf c.position c hc
  refine ⟨a, c', ?_, hb, hrest⟩
  rw [outcome_bind]
  exact ha

theorem Yields.map {g : α → γ} (hp : Yields view p cs b rest)
    (hg : ∀ a, view a = b → view' (g a) = d) : Yields view' (g <$> p) cs d rest :=
  hp.bind fun a ha => yields_pure (hg a ha)

theorem Yields.orElse_left (hp : Yields view p cs b rest) (q : Parser α) :
    Yields view (p <|> q) cs b rest := by
  intro c hc
  obtain ⟨a, c', ha, hb, hrest⟩ := hp c hc
  refine ⟨a, c', ?_, hb, hrest⟩
  rw [outcome_orElse, ha, Option.some_or]

theorem Yields.orElse_right (hp : Fails p cs) (hq : Yields view q cs b rest) :
    Yields view (p <|> q) cs b rest := by
  intro c hc
  obtain ⟨a, c', ha, hb, hrest⟩ := hq c hc
  refine ⟨a, c', ?_, hb, hrest⟩
  rw [outcome_orElse, hp c hc, Option.none_or, ha]

theorem Yields.named (hp : Yields view p cs b rest) (construct : Construct) :
    Yields view (named construct p) cs b rest := by
  intro c hc
  rw [outcome_named]
  exact hp c hc

theorem Yields.optional (hp : Yields view p cs b rest) :
    Yields (Option.map view) (optional p) cs (some b) rest := by
  have hsome : Yields (Option.map view) (some <$> p) cs (some b) rest :=
    hp.map fun _ ha => congrArg some ha
  exact hsome.orElse_left _

theorem Fails.optional (hp : Fails p cs) : Yields (Option.map view) (optional p) cs none cs :=
  .orElse_right (fun c hc => by rw [outcome_map, hp c hc, Option.map_none]) (yields_pure rfl)

theorem Fails.many (hp : Fails p cs) (limit : Nat) :
    Yields (List.map view) (many limit p) cs [] cs := by
  intro c hc
  cases limit with
  | zero => exact ⟨[], c, rfl, rfl, hc⟩
  | succ limit =>
    refine ⟨[], c, ?_, rfl, hc⟩
    rw [outcome_many_succ, hp c hc]
    rfl

theorem Yields.many {limit : Nat} {bs : List β} (hp : Yields view p cs b mid)
    (hrest : Yields (List.map view) (many limit p) mid bs rest) :
    Yields (List.map view) (many (limit + 1) p) cs (b :: bs) rest := by
  intro c hc
  obtain ⟨a, c', ha, hb, hc'⟩ := hp c hc
  obtain ⟨as, c'', has, hbs, hrest⟩ := hrest c' hc'
  refine ⟨a :: as, c'', ?_, by rw [List.map_cons, hb, hbs], hrest⟩
  simp only [outcome_many_succ, ha, Option.bind_some, has, Option.map_some, Option.some_or]

theorem yields_token {scan : Scanner} {taken : List Char}
    (h : Reading.token scan cs taken rest) : Yields id (token scan) cs taken rest := by
  obtain ⟨behind, hscan, rfl⟩ := h
  intro c hc
  subst hc
  refine ⟨taken, (c.after taken behind).skipLayout, ?_, rfl, rfl⟩
  rw [token, hscan]

theorem fails_token {scan : Scanner} (h : scan cs = none) : Fails (token scan) cs := by
  intro c hc
  subst hc
  rw [token, h]

/-- A sound parser reads nothing where there is nothing to read. -/
theorem Sound.fails {R : Reading β} (hp : Sound view p R) (h : ∀ b rest, ¬ R cs b rest) :
    Fails p cs := by
  intro c hc
  subst hc
  cases hresult : (p c).outcome with
  | none => rfl
  | some result =>
    obtain ⟨a, c'⟩ := result
    exact absurd (hp hresult) (h _ _)

/-- Things are read one after the other if each of them is, and if they stop where none of them can
be read. What must follow a thing holds where the next one starts. -/
theorem yields_many {R : Reading β} {limit n : Nat} {follow : List Char → Prop} {bs : List β}
    (h : Reading.star R cs bs rest) (htakes : R.Takes 0)
    (hitem : ∀ ⦃cs b rest⦄, R cs b rest → cs.length ≤ n → follow rest → Yields view p cs b rest)
    (hfirst : ∀ ⦃cs b rest⦄, R cs b rest → follow cs) (hrest : follow rest) (hstop : Fails p rest)
    (hlength : cs.length ≤ n) (hlimit : bs.length ≤ limit) :
    Yields (List.map view) (many limit p) cs bs rest := by
  induction h generalizing limit with
  | nil => exact hstop.many limit
  | @cons cs mid rest b bs first others ih =>
    cases limit with
    | zero => cases hlimit
    | succ limit =>
      have htaken := htakes first
      have hmid : follow mid := Reading.of_star others hfirst hrest
      exact (hitem first hlength hmid).many
        (ih hrest hstop (by omega) (Nat.le_of_succ_le_succ hlimit))

theorem Fails.bind (hp : Fails p cs) (f : α → Parser γ) : Fails (p >>= f) cs := by
  intro c hc
  rw [outcome_bind, hp c hc, Option.bind_none]

theorem fails_here_bind {f : Position → Parser α} (hf : ∀ pos, Fails (f pos) cs) :
    Fails (here >>= f) cs := by
  intro c hc
  rw [outcome_bind]
  exact hf c.position c hc

theorem Fails.map (hp : Fails p cs) (g : α → γ) : Fails (g <$> p) cs := hp.bind _

theorem Fails.orElse (hp : Fails p cs) (hq : Fails q cs) : Fails (p <|> q) cs := by
  intro c hc
  rw [outcome_orElse, hp c hc, hq c hc, Option.none_or]

theorem Fails.named (hp : Fails p cs) (construct : Construct) : Fails (named construct p) cs := by
  intro c hc
  rw [outcome_named, hp c hc]

end Yields

end RecordScript.Parser

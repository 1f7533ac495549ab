import RecordScript.Proofs.Printing.Token
import RecordScript.Proofs.Syntax.Leaves
import RecordScript.Proofs.Text.Offset

/-!
# The tokens of a text

A text of the language is a sequence of tokens with white space and comments between them. Signs,
keywords and the names of functions and directives are plain; every other token is a leaf of the
tree. Going through the tokens from the start of a text finds the leaves one after the other, with
the positions at which they start.
-/

namespace RecordScript

namespace Token

/-- A word, with all the characters that belong to it, and what follows it. -/
structure IsWord (taken behind : List Char) : Prop where
  start : ∃ c ∈ taken.head?, isWordStart c = true
  chars : ∀ c ∈ taken, isWordChar c = true
  whole : ∀ c ∈ behind.head?, isWordChar c = false

/-- A word that is no keyword. -/
structure IsName (taken behind : List Char) : Prop extends IsWord taken behind where
  notKeyword : isKeyword taken = false

/-- The signs of the language. -/
def signs : List String :=
  ["(", ")", ",", ";", "@", "@@", "=", "!", "|", "&", "+", "-", "*", "/", "%", ".", "==", "!=",
    "<=", ">=", "<", ">", "~"]

/-- The keywords that are no literals. -/
def markers : List String := ["if", "then", "elif", "else", "fi"]

/-- A token that is no leaf, with what follows it. -/
inductive IsPlain : List Char → List Char → Prop
  | sign {s : String} (listed : s ∈ signs) (behind : List Char) : IsPlain s.toList behind
  | marker {s : String} {behind : List Char} (listed : s ∈ markers)
      (word : IsWord s.toList behind) : IsPlain s.toList behind
  | name {taken behind : List Char} (word : IsName taken behind) : IsPlain taken behind

end Token

/-- A leaf as it is written in a text, with what follows it. Words and numbers are taken as long as
they go on; literals between quotes or slashes and names in braces end at the first character that
closes them. -/
inductive Leaf.IsWritten : Leaf → List Char → List Char → Prop
  | boolean (b : Bool) {behind : List Char}
      (word : Token.IsWord (Value.truthWord b).toList behind) :
      IsWritten (.literal (.boolean b)) (Value.truthWord b).toList behind
  | whole {digits behind : List Char} (nonempty : digits ≠ [])
      (decimal : ∀ c ∈ digits, c.isDigit = true) (ends : ∀ c ∈ behind.head?, c.isDigit = false)
      (noFraction : Token.startsFraction behind = false) :
      IsWritten (.literal (.number digits)) digits behind
  | fraction {digits places behind : List Char} (nonempty : digits ≠ []) (placed : places ≠ [])
      (decimal : ∀ c ∈ digits ++ places, c.isDigit = true)
      (ends : ∀ c ∈ behind.head?, c.isDigit = false) :
      IsWritten (.literal (.number (digits ++ '.' :: places))) (digits ++ '.' :: places) behind
  | quoted {quote : Char} (isQuote : quote = '"' ∨ quote = '\'') {body : List Char}
      (inside : Token.IsBody quote false body) (behind : List Char) :
      IsWritten (.literal (.quoted body)) (quote :: (body ++ [quote])) behind
  | regex {body : List Char} (inside : Token.IsBody '/' true body) (behind : List Char) :
      IsWritten (.literal (.regex body)) ('/' :: (body ++ ['/'])) behind
  | bare {taken behind : List Char} (word : Token.IsName taken behind) :
      IsWritten (.name (.bare taken)) taken behind
  | braced {body : List Char} (inside : Token.IsBody '\x7d' false body) (behind : List Char) :
      IsWritten (.name (.braced body)) ('\x7b' :: (body ++ ['\x7d'])) behind

/-- Every number that is written is read. -/
theorem Leaf.IsWritten.exists_readNumeral {numeral taken behind : List Char}
    (h : IsWritten (.literal (.number numeral)) taken behind) :
    ∃ n, Decimal.readNumeral numeral = some n := by
  cases h with
  | whole nonempty decimal =>
    have hread := Language.readNumeral_pointed none nonempty decimal (List.forall_mem_nil _)
    rw [Numeral.pointed, Option.elim_none, List.append_nil] at hread
    exact ⟨_, hread⟩
  | @fraction digits places _ nonempty _ decimal =>
    obtain ⟨hdigits, hplaces⟩ := List.forall_mem_append.mp decimal
    exact ⟨_, Language.readNumeral_pointed (some places) nonempty hdigits hplaces⟩

/-! ### What scanners find -/

namespace Token

section Scanners

variable {cs taken behind : List Char}

theorem isWord_of_word (h : word cs = some (taken, behind)) : IsWord taken behind := by
  obtain ⟨c, cs, -, hstart, rfl, rfl⟩ := word_eq_some.mp h
  refine ⟨⟨c, rfl, hstart⟩, List.forall_mem_cons.mpr ⟨?_, fun c hc => List.mem_takeWhile_imp hc⟩,
    head?_dropWhile_eq_false cs⟩
  rw [isWordStart, Bool.or_eq_true] at hstart
  rw [isWordChar, Char.isAlphanum, Bool.or_eq_true, Bool.or_eq_true]
  exact hstart.imp_left .inl

theorem isName_of_name (h : name cs = some (taken, behind)) : IsName taken behind := by
  rw [name_eq, wordWith_eq_some] at h
  exact ⟨isWord_of_word h.1, by simpa using h.2⟩

theorem isPlain_of_keyword {s : String} (hs : s ∈ markers)
    (h : keyword s cs = some (taken, behind)) : IsPlain taken behind := by
  rw [keyword_eq, wordWith_eq_some] at h
  obtain ⟨hword, htaken⟩ := h
  obtain rfl : taken = s.toList := by simpa using htaken
  exact .marker hs (isWord_of_word hword)

theorem isPlain_of_sign {s : String} (hs : s ∈ signs) (h : sign s cs = some (taken, behind)) :
    IsPlain taken behind :=
  (sign_eq_some.mp h).1 ▸ .sign hs behind

theorem isWritten_of_boolean (h : boolean cs = some (taken, behind)) :
    Leaf.IsWritten (.literal (.boolean (taken = "true".toList))) taken behind := by
  rw [boolean_eq, wordWith_eq_some] at h
  obtain ⟨hword, htaken⟩ := h
  rcases of_decide_eq_true htaken with rfl | rfl
  · exact .boolean true (isWord_of_word hword)
  · exact .boolean false (isWord_of_word hword)

theorem isWritten_of_number (h : number cs = some (taken, behind)) :
    Leaf.IsWritten (.literal (.number taken)) taken behind := by
  obtain ⟨-, hends, digits, hne, hdigits, ⟨rfl, hpoint⟩ | ⟨d, places, hd, hplaces, rfl⟩⟩ :=
    number_eq_some h
  · exact .whole hne hdigits hends hpoint
  · refine .fraction hne (List.cons_ne_nil _ _) ?_ hends
    exact List.forall_mem_append.mpr ⟨hdigits, List.forall_mem_cons.mpr ⟨hd, hplaces⟩⟩

theorem isWritten_of_quoted (h : quoted cs = some (taken, behind)) :
    Leaf.IsWritten (.literal (.quoted (inner taken))) taken behind := by
  rcases quoted_cases h with h | h
  · obtain ⟨body, hbody, rfl, -⟩ := (delimited_eq_some (by decide)).mp h
    rw [Language.inner_delimited]
    exact .quoted (.inl rfl) hbody behind
  · obtain ⟨body, hbody, rfl, -⟩ := (delimited_eq_some (by decide)).mp h
    rw [Language.inner_delimited]
    exact .quoted (.inr rfl) hbody behind

theorem isWritten_of_regex (h : regex cs = some (taken, behind)) :
    Leaf.IsWritten (.literal (.regex (inner taken))) taken behind := by
  obtain ⟨body, hbody, rfl, -⟩ := (delimited_eq_some (by decide)).mp h
  rw [Language.inner_delimited]
  exact .regex hbody behind

theorem isWritten_of_bracedName (h : bracedName cs = some (taken, behind)) :
    Leaf.IsWritten (.name (.braced (inner taken))) taken behind := by
  obtain ⟨body, hbody, rfl, -⟩ := (delimited_eq_some (by decide)).mp h
  rw [Language.inner_delimited]
  exact .braced hbody behind

end Scanners

/-! ### Where tokens start -/

/-- The token starts with a character that is passed over nowhere between tokens. -/
def StartsInSight (taken : List Char) : Prop := ∃ c ∈ taken.head?, endsLayout c = true

theorem IsWord.startsInSight {taken behind : List Char} (h : IsWord taken behind) :
    StartsInSight taken :=
  h.start.imp fun _ hc => hc.imp_right endsLayout_of_isWordStart

theorem startsInSight_of_digits {digits : List Char} (hne : digits ≠ [])
    (hdigits : ∀ c ∈ digits, c.isDigit = true) (more : List Char) :
    StartsInSight (digits ++ more) := by
  obtain ⟨d, digits, rfl⟩ := List.exists_cons_of_ne_nil hne
  exact ⟨d, rfl, endsLayout_of_isDigit (hdigits d List.mem_cons_self)⟩

theorem IsPlain.startsInSight {taken behind : List Char} (h : IsPlain taken behind) :
    StartsInSight taken := by
  cases h with
  | sign listed =>
    exact (by decide : ∀ s ∈ signs, ∃ c ∈ s.toList.head?, endsLayout c = true) _ listed
  | marker _ word => exact word.startsInSight
  | name word => exact word.startsInSight

end Token

theorem Leaf.IsWritten.startsInSight {l : Leaf} {taken behind : List Char}
    (h : l.IsWritten taken behind) : Token.StartsInSight taken := by
  cases h with
  | boolean b word => exact word.startsInSight
  | whole nonempty decimal =>
    simpa using Token.startsInSight_of_digits nonempty decimal []
  | fraction nonempty _ decimal =>
    exact Token.startsInSight_of_digits nonempty (List.forall_mem_append.mp decimal).1 _
  | quoted isQuote =>
    rcases isQuote with rfl | rfl
    · exact ⟨'"', rfl, rfl⟩
    · exact ⟨'\'', rfl, rfl⟩
  | regex => exact ⟨'/', rfl, rfl⟩
  | bare word => exact word.startsInSight
  | braced => exact ⟨'\x7b', rfl, rfl⟩

/-! ### Going through tokens -/

/-- The cursor goes over a token and over the white space and the comments behind it. -/
def Cursor.Steps (c : Cursor) (taken behind : List Char) (c' : Cursor) : Prop :=
  c.rest = taken ++ behind ∧ c' = (c.after taken behind).skipLayout

/-- Goes from one cursor to another through tokens, with the leaves among them. -/
inductive Tokens : Cursor → List (Position × Leaf) → Cursor → Prop
  | nil (c : Cursor) : Tokens c [] c
  | plain {c mid c' : Cursor} {taken behind : List Char} {ls : List (Position × Leaf)}
      (token : Token.IsPlain taken behind) (step : c.Steps taken behind mid)
      (others : Tokens mid ls c') : Tokens c ls c'
  | leaf {c mid c' : Cursor} {taken behind : List Char} {l : Leaf} {ls : List (Position × Leaf)}
      (token : l.IsWritten taken behind) (step : c.Steps taken behind mid)
      (others : Tokens mid ls c') : Tokens c ((c.position, l) :: ls) c'

namespace Cursor.Steps

variable {c c' : Cursor} {taken behind : List Char}

theorem exists_passes (h : c.Steps taken behind c') :
    ∃ layout, c.Passes (taken ++ layout) c' := by
  obtain ⟨hrest, rfl⟩ := h
  obtain ⟨layout, hlayout⟩ := exists_passes_skipLayout (c.after taken behind)
  exact ⟨layout, (passes_after hrest).append hlayout⟩

/-- A token is not empty, so the cursor comes further, and it starts at no line end. -/
theorem inSight (h : c.Steps taken behind c') (htaken : Token.StartsInSight taken) :
    c.offset < c'.offset ∧ ∃ d cs, c.rest = d :: cs ∧ BeginsNoLineEnd d := by
  obtain ⟨layout, hpasses⟩ := h.exists_passes
  obtain ⟨d, hd, hends⟩ := htaken
  cases taken with
  | nil => cases hd
  | cons d' taken =>
    obtain rfl : d' = d := by simpa using hd
    refine ⟨?_, d', taken ++ behind, h.1, ?_⟩
    · rw [hpasses.offset_eq, List.cons_append, List.length_cons]
      omega
    · simp only [endsLayout, isLayoutChar, Bool.and_eq_true, Bool.not_eq_true',
        Bool.or_eq_false_iff, decide_eq_false_iff_not] at hends
      exact ⟨hends.1.2, hends.1.1.2⟩

end Cursor.Steps

namespace Tokens

variable {c mid c' : Cursor} {ls ls' : List (Position × Leaf)} {taken behind : List Char}

theorem append (h : Tokens c ls mid) (h' : Tokens mid ls' c') : Tokens c (ls ++ ls') c' := by
  induction h with
  | nil => exact h'
  | plain token step _ ih => exact .plain token step (ih h')
  | leaf token step _ ih => exact .leaf token step (ih h')

theorem of_plain (token : Token.IsPlain taken behind) (step : c.Steps taken behind c') :
    Tokens c [] c' := .plain token step (.nil c')

theorem of_leaf {l : Leaf} (token : l.IsWritten taken behind) (step : c.Steps taken behind c') :
    Tokens c [(c.position, l)] c' := .leaf token step (.nil c')

theorem exists_passes (h : Tokens c ls c') : ∃ taken, c.Passes taken c' := by
  induction h with
  | nil c => exact ⟨[], c.passes_nil⟩
  | plain _ step _ ih
  | leaf _ step _ ih =>
    obtain ⟨layout, hstep⟩ := step.exists_passes
    obtain ⟨taken, hothers⟩ := ih
    exact ⟨_, hstep.append hothers⟩

theorem offset_le (h : Tokens c ls c') : c.offset ≤ c'.offset := by
  obtain ⟨taken, hpasses⟩ := h.exists_passes
  rw [hpasses.offset_eq]
  exact Nat.le_add_right _ _

/-- Where tokens come next, no line end does. -/
theorem inSight (h : Tokens c ls c') (hlt : c.offset < c'.offset) :
    ∃ d cs, c.rest = d :: cs ∧ BeginsNoLineEnd d := by
  cases h with
  | nil => exact absurd hlt (Nat.lt_irrefl _)
  | plain token step _ => exact (step.inSight token.startsInSight).2
  | leaf token step _ => exact (step.inSight token.startsInSight).2

end Tokens

/-! ### Positions of tokens -/

/-- Going through the tokens of the text comes to the cursor. -/
def Cursor.IsReached (source : String) (text : List Char) (c : Cursor) : Prop :=
  ∃ ls, Tokens (Cursor.start source text).skipLayout ls c

/-- Going through the tokens of the text comes to the position, where the text goes on with the
given characters. -/
def Position.Marks (text : List Char) (p : Position) (taken behind : List Char) : Prop :=
  ∃ c, Cursor.IsReached p.source text c ∧ c.position = p ∧ p.offset? text = some c.offset ∧
    text.drop c.offset = taken ++ behind

/-- The position is where the leaf is written in the text. -/
def Leaf.StandsAt (text : List Char) (l : Leaf) (p : Position) : Prop :=
  ∃ taken behind, l.IsWritten taken behind ∧ p.Marks text taken behind

namespace Cursor.IsReached

variable {source : String} {text : List Char} {c c' : Cursor}

theorem tokens {ls : List (Position × Leaf)} (h : c.IsReached source text) (h' : Tokens c ls c') :
    c'.IsReached source text := by
  obtain ⟨before, hbefore⟩ := h
  exact ⟨before ++ ls, hbefore.append h'⟩

theorem exists_passes (h : c.IsReached source text) :
    ∃ taken, (start source text).Passes taken c := by
  obtain ⟨ls, hls⟩ := h
  obtain ⟨layout, hlayout⟩ := exists_passes_skipLayout (start source text)
  obtain ⟨taken, htaken⟩ := hls.exists_passes
  exact ⟨_, hlayout.append htaken⟩

theorem source_eq (h : c.IsReached source text) : c.position.source = source := by
  obtain ⟨taken, hpasses⟩ := h.exists_passes
  rw [hpasses.position_eq]

theorem offset_le (h : c.IsReached source text) : c.offset ≤ text.length := by
  obtain ⟨taken, hpasses⟩ := h.exists_passes
  have htext : text = taken ++ c.rest := hpasses.1
  have hoffset : c.offset = 0 + taken.length := hpasses.offset_eq
  rw [htext, List.length_append]
  omega

theorem offset?_position (h : c.IsReached source text)
    (hsight : ∃ d cs, c.rest = d :: cs ∧ BeginsNoLineEnd d) :
    c.position.offset? text = some c.offset := by
  obtain ⟨taken, hpasses⟩ := h.exists_passes
  obtain ⟨d, cs, hrest, hd⟩ := hsight
  exact hpasses.offset?_position hrest hd

theorem marks (h : c.IsReached source text) {taken behind : List Char}
    (step : c.Steps taken behind c') (htaken : Token.StartsInSight taken) :
    c.position.Marks text taken behind := by
  refine ⟨c, h.source_eq.symm ▸ h, rfl, h.offset?_position (step.inSight htaken).2, ?_⟩
  obtain ⟨before, hpasses⟩ := h.exists_passes
  rw [hpasses.drop_offset, step.1]

end Cursor.IsReached

/-- The leaves among the tokens of a text stand at their positions. -/
theorem Tokens.standsAt {source : String} {text : List Char} {c c' : Cursor}
    {ls : List (Position × Leaf)} (h : Tokens c ls c') (hc : c.IsReached source text) :
    ∀ l ∈ ls, l.1.source = source ∧ l.2.StandsAt text l.1 := by
  induction h with
  | nil => simp
  | plain token step _ ih => exact ih (hc.tokens (.of_plain token step))
  | leaf token step _ ih =>
    refine List.forall_mem_cons.mpr ⟨⟨hc.source_eq, ?_⟩, ih (hc.tokens (.of_leaf token step))⟩
    exact ⟨_, _, token, hc.marks step token.startsInSight⟩

end RecordScript

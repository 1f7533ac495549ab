import RecordScript.Evaluation.Operation
import RecordScript.Pattern.PlaceEngine
import RecordScript.Proofs.Unicode.Lowercase

/-!
# Matching texts without regard to case

Both texts of a match are put into lower case as a whole before they are compared. Texts that are
equal stay equal, but a text that occurs in another one need not occur in it any more: the lower case
of a capital sigma at the end of the shorter text depends on what follows it in the longer one.
-/

namespace RecordScript

open Unicode

namespace Text

/-- A text occurs in another one where it is a part of it. -/
theorem occursIn_iff {needle cs : List Char} : occursIn needle cs = true ↔ needle <:+: cs := by
  induction cs with
  | nil => rw [occursIn, List.isEmpty_iff, List.infix_nil]
  | cons c cs ih => rw [occursIn, Bool.or_eq_true, List.isPrefixOf_iff_prefix, ih, List.infix_cons_iff]

theorem contains_iff {subject needle : String} :
    contains subject needle = true ↔ needle.toList <:+: subject.toList :=
  occursIn_iff

end Text

theorem Unicode.toList_lowercase (s : String) : (lowercase s).toList = lowerAfter [] s.toList :=
  String.toList_ofList

variable [RegexEngine]

/-- Of two texts it is compared what their configuration says. -/
theorem Config.isMatch_of_toText (config : Config) (subject : Operand) {pattern : Operand}
    {needle : String} (h : pattern.toText = .ok needle) :
    config.isMatch subject pattern = subject.toText.map (config.textMatches · needle) := by
  rw [isMatch]
  cases subject.toText with
  | error e => rfl
  | ok s =>
    cases pattern with
    | field name text =>
      obtain rfl := Except.ok.inj h
      rfl
    | value v =>
      cases v with
      | string text =>
        obtain rfl := Except.ok.inj h
        rfl
      | _ => cases h

namespace StringMatch

/-- Every subject in which the text `needle` is found in this way is also one in which it is found
without regard to case. -/
def Widens (mode : StringMatch) (needle : String) : Prop :=
  ∀ (config : Config) (subject pattern : Operand),
    config.stringMatch = mode → pattern.toText = .ok needle →
    { config with caseInsensitive := false }.isMatch subject pattern = .ok true →
    { config with caseInsensitive := true }.isMatch subject pattern = .ok true

theorem widens_iff {mode : StringMatch} {needle : String} : mode.Widens needle ↔
    ∀ s, mode.found s needle = true → mode.found (lowercase s) (lowercase needle) = true := by
  constructor
  · intro h s hfound
    have hmatch := h { stringMatch := mode } (.value (.string s)) (.value (.string needle)) rfl rfl
    rw [Config.isMatch_of_toText _ _ rfl, Config.isMatch_of_toText _ _ rfl] at hmatch
    exact Except.ok.inj (hmatch (congrArg Except.ok hfound))
  · rintro h config subject pattern rfl hpattern hmatch
    rw [Config.isMatch_of_toText _ _ hpattern] at hmatch ⊢
    cases hs : subject.toText with
    | error e =>
      rw [hs] at hmatch
      cases hmatch
    | ok s =>
      rw [hs] at hmatch
      exact congrArg Except.ok (h s (Except.ok.inj hmatch))

theorem exact_widens (needle : String) : exact.Widens needle := by
  rw [widens_iff]
  intro s hfound
  have heq : s = needle := by simpa [found] using hfound
  simp [found, heq]

theorem contains_widens_iff (needle : String) :
    contains.Widens needle ↔ SettlesSigmas needle.toList := by
  rw [widens_iff]
  simp only [found, Text.contains_iff, toList_lowercase]
  constructor
  · intro h
    by_contra hnot
    obtain ⟨ds, hpart, hmissing⟩ := exists_infix_of_not_settlesSigmas hnot
    have hlower := h (String.ofList ds)
    rw [String.toList_ofList] at hlower
    exact hmissing (hlower hpart)
  · exact fun h s hpart => h.isInfix_lowerAfter hpart

end StringMatch

namespace Config

/-- Whether matching a text without regard to case finds all that matching it with regard to case
finds. If the texts have to be equal, it does. If the pattern may occur anywhere, it does exactly for
the patterns whose capital sigmas are settled by their neighbours in the pattern: each is followed by
a cased character, or comes after one that is not cased, or stands between a cased one and one that
is not, where case-ignorable characters do not count. So it does for every pattern without a capital
sigma. -/
theorem caseInsensitive_widens (mode : StringMatch) (needle : String) :
    (mode.Widens needle ↔ mode = .exact ∨ SettlesSigmas needle.toList) ∧
    (capitalSigma ∉ needle.toList → mode.Widens needle) := by
  have hiff : mode.Widens needle ↔ mode = .exact ∨ SettlesSigmas needle.toList := by
    cases mode with
    | exact => exact iff_of_true (StringMatch.exact_widens needle) (.inl rfl)
    | contains => simpa using StringMatch.contains_widens_iff needle
  exact ⟨hiff, fun hnot => hiff.mpr (.inr (settlesSigmas_of_not_mem hnot))⟩

end Config

end RecordScript

namespace RecordScript.Config

/-- A sigma that is followed by a letter is settled, as is one that ends a word before a space; one
at the end of the pattern is not. -/
theorem caseInsensitive_widens_sigma :
    StringMatch.contains.Widens "ΣΑ" ∧ StringMatch.contains.Widens "ΑΣ ΤΙ" ∧
    ¬ StringMatch.contains.Widens "ΑΣ" ∧ StringMatch.exact.Widens "ΑΣ" ∧
    StringMatch.contains.Widens "Straße İ" :=
  ⟨(caseInsensitive_widens .contains "ΣΑ").1.mpr (.inr (by decide +kernel)),
    (caseInsensitive_widens .contains "ΑΣ ΤΙ").1.mpr (.inr (by decide +kernel)),
    mt (caseInsensitive_widens .contains "ΑΣ").1.mp (by decide +kernel),
    (caseInsensitive_widens .exact "ΑΣ").1.mpr (.inl rfl),
    (caseInsensitive_widens .contains "Straße İ").2 (by decide)⟩

/-- `"ΑΣΒ" ~ "ΑΣ"` holds with regard to case, and not without. -/
theorem isMatch_sigma_inside_word :
    isMatch {} (.value (.string "ΑΣΒ")) (.value (.string "ΑΣ")) = .ok true ∧
    isMatch { caseInsensitive := true } (.value (.string "ΑΣΒ")) (.value (.string "ΑΣ")) =
      .ok false := by
  decide +kernel

end RecordScript.Config

import RecordScript.Pattern.PlaceEngine
import RecordScript.Proofs.Decimal.Integer
import RecordScript.Proofs.Evaluation.Call

/-!
# Parts of texts

A part of a text is given by two indices, which mean places in the text: it consists of the
characters from the first place up to the second. Every two integers of 64 bits are indices of every
text. The places can be computed in words of this size, and two parts that meet make up the text.
-/

namespace RecordScript

namespace Text

/-- The place in a text of the given length that an index means: an index below zero is counted from
the end, and no place lies outside the text. -/
def placeAt (length : Nat) (index : Int) : Int :=
  max 0 (min length (if index < 0 then index + length else index))

/-- The characters at the places from `start` on and before `stop`. -/
def charsFrom (start stop : Int) (cs : List Char) : List Char :=
  (cs.zipIdx.filter fun c => start ≤ c.2 ∧ c.2 < stop).map Prod.fst

/-- The place that an index means, computed in signed words of 64 bits. -/
def wordPlace (length index : Int64) : Int64 :=
  if index < 0 then if index + length < 0 then 0 else index + length
  else if index < length then index else length

theorem placeAt_bounds (length : Nat) (index : Int) :
    0 ≤ placeAt length index ∧ placeAt length index ≤ length := by
  rw [placeAt]
  omega

theorem placeOf_eq (length : Nat) (index : Int) :
    (Builtin.placeOf length index : Int) = placeAt length index := by
  rw [Builtin.placeOf, placeAt]
  split <;> omega

/-- In words the place comes out as it should: the sum of an index below zero and a length is a
word. -/
theorem toInt_wordPlace {length : Nat} (h : length < 2 ^ 63) (index : Int64) :
    (wordPlace (.ofNat length) index).toInt = placeAt length index.toInt := by
  have hlength : (Int64.ofNat length).toInt = length := Int64.toInt_ofNat_of_lt h
  have hleast := index.le_toInt
  have hmost := index.toInt_lt
  rw [wordPlace, placeAt]
  simp only [Int64.lt_iff_toInt_lt, Int64.toInt_zero, hlength]
  by_cases hindex : index.toInt < 0
  · have hsum : (index + .ofNat length).toInt = index.toInt + length := by
      rw [Int64.toInt_add, hlength, Int.bmod_eq_of_le] <;> omega
    simp only [hindex, if_true, hsum]
    split
    · rw [Int64.toInt_zero]
      omega
    · rw [hsum]
      omega
  · simp only [hindex, if_false]
    split
    · omega
    · rw [hlength]
      omega

theorem map_fst_filter_zipIdx (start stop k : Nat) (cs : List Char) :
    ((cs.zipIdx k).filter fun c => start ≤ c.2 ∧ c.2 < stop).map Prod.fst =
      (cs.drop (start - k)).take (stop - max start k) := by
  induction cs generalizing k with
  | nil => simp
  | cons c cs ih =>
    specialize ih (k + 1)
    rw [List.zipIdx_cons]
    rcases Nat.lt_or_ge k start with hk | hk
    · have hnot : ¬ (start ≤ k ∧ k < stop) := by omega
      have hdrop : start - k = start - (k + 1) + 1 := by omega
      have hmax : max start k = max start (k + 1) := by omega
      rw [List.filter_cons_of_neg (by simpa using hnot), ih, hdrop, hmax, List.drop_succ_cons]
    · have hdrop : start - k = 0 ∧ start - (k + 1) = 0 := by omega
      have hmax : max start k = k ∧ max start (k + 1) = k + 1 := by omega
      rw [hdrop.2, hmax.2, List.drop_zero] at ih
      rw [hdrop.1, hmax.1, List.drop_zero]
      by_cases hstop : k < stop
      · have htake : stop - k = stop - (k + 1) + 1 := by omega
        rw [List.filter_cons_of_pos (by simpa using ⟨hk, hstop⟩), List.map_cons, ih, htake,
          List.take_succ_cons]
      · have htake : stop - k = 0 ∧ stop - (k + 1) = 0 := by omega
        rw [List.filter_cons_of_neg (by simp [hstop]), ih, htake.1, htake.2, List.take_zero,
          List.take_zero]

/-- The characters between two places are what is left when those outside are dropped. -/
theorem charsFrom_eq (start stop : Nat) (cs : List Char) :
    charsFrom start stop cs = (cs.drop start).take (stop - start) := by
  have h := map_fst_filter_zipIdx start stop 0 cs
  simp only [Nat.sub_zero, Nat.max_zero] at h
  simpa [charsFrom] using h

/-- The part between two indices. -/
theorem between_eq (cs : List Char) (i j : Int) :
    Builtin.between cs i j = charsFrom (placeAt cs.length i) (placeAt cs.length j) cs := by
  rw [Builtin.between, ← placeOf_eq, ← placeOf_eq, charsFrom_eq]

theorem between_isInfix (cs : List Char) (i j : Int) : Builtin.between cs i j <:+: cs :=
  (List.take_prefix _ _).isInfix.trans (List.drop_suffix _ _).isInfix

/-- The parts before and behind a place make up the text. -/
theorem between_append_between (cs : List Char) (k : Int) :
    Builtin.between cs 0 k ++ Builtin.between cs k cs.length = cs := by
  have hzero : Builtin.placeOf cs.length 0 = 0 := by simp [Builtin.placeOf]
  have hlength : Builtin.placeOf cs.length cs.length = cs.length := by
    rw [Builtin.placeOf, if_neg (by omega)]
    omega
  rw [Builtin.between, Builtin.between, hzero, hlength, List.drop_zero, Nat.sub_zero,
    List.take_of_length_le (l := cs.drop _) (by simp), List.take_append_drop]

end Text

variable [RegexEngine]

/-! ### Indices -/

theorem Builtin.toInteger_of_toInteger? {n : Decimal} {i : Int} (h : n.toInteger? = some i) :
    toInteger (.value (.number n)) = .ok i := by
  simp [toInteger, Operand.toNumber, h, pure, Except.pure]

theorem Builtin.toInteger_of_eq_none {n : Decimal} (h : n.toInteger? = none) :
    toInteger (.value (.number n)) = .error (.notInteger n) := by
  simp [toInteger, Operand.toNumber, h, throw, throwThe, MonadExceptOf.throw]

namespace Expr

variable {config : Config} {record : Record} {text start stop : Expr} {s : String} {i j : Int}

/-- The expression evaluates to what can be read as a number, and its value is the integer, which
fits a signed word of 64 bits. -/
def GivesInteger (config : Config) (record : Record) (e : Expr) (i : Int) : Prop :=
  ∃ n, e.GivesNumber config record n ∧ n.value = i ∧ -2 ^ 63 ≤ i ∧ i < 2 ^ 63

theorem GivesInteger.exists_toInteger? (h : start.GivesInteger config record i) :
    ∃ n, start.GivesNumber config record n ∧ n.toInteger? = some i := by
  obtain ⟨n, hn, hvalue, hfits⟩ := h
  exact ⟨n, hn, Decimal.toInteger?_eq_some_iff.mpr ⟨hvalue, Decimal.fitsWord_iff.mpr hfits⟩⟩

theorem GivesNumber.toInteger?_eq_none {n : Decimal} (h : start.GivesNumber config record n)
    (hnot : ∀ i, ¬ start.GivesInteger config record i) : n.toInteger? = none := by
  rw [Option.eq_none_iff_forall_ne_some]
  intro i hi
  obtain ⟨hvalue, hfits⟩ := Decimal.toInteger?_eq_some_iff.mp hi
  exact hnot i ⟨n, h, hvalue, Decimal.fitsWord_iff.mp hfits⟩

/-- A call for a part of a text, up to the reading of its indices. -/
theorem result_substring {m n : Decimal} (htext : text.GivesText config record s)
    (hstart : start.GivesNumber config record m) (hstop : stop.GivesNumber config record n)
    (pos : Position) :
    (Expr.evaluate config record (.call pos "substring" [text, start, stop])).result =
      ((Builtin.callSubstring [.value (.string s), .value (.number m), .value (.number n)]).mapError
        (⟨·, pos⟩)).map .value :=
  result_call (f := .substring) rfl
    (htext.result_evaluateArgs_cons rfl <| hstart.result_evaluateArgs_cons rfl <|
      hstop.result_evaluateArgs_cons rfl result_evaluateArgs_nil) pos

/-- Between two integers a call gives the part of the text between the places that they mean. -/
theorem GivesInteger.result_substring (hstart : start.GivesInteger config record i)
    (hstop : stop.GivesInteger config record j) (htext : text.GivesText config record s)
    (pos : Position) :
    (Expr.evaluate config record (.call pos "substring" [text, start, stop])).result =
      .ok (.value (.string (.ofList (Builtin.between s.toList i j)))) := by
  obtain ⟨m, hm, hi⟩ := hstart.exists_toInteger?
  obtain ⟨n, hn, hj⟩ := hstop.exists_toInteger?
  rw [Expr.result_substring htext hm hn, Builtin.callSubstring, Builtin.toInteger_of_toInteger? hi,
    Builtin.toInteger_of_toInteger? hj]
  rfl

/-- The part of a text between two integers of 64 bits, however they are written, consists of the
characters from the place that the first one means and before the place that the second one means.
It is a part in one piece, and what comes before a place and what comes from there on make up the
text. An index that is no such integer is a fault that shows it. The places can be computed in words
of 64 bits, as long as the length of the text is one. -/
theorem evaluate_substring (htext : text.GivesText config record s) (pos : Position) :
    (∀ (start stop : Expr) (i j : Int), start.GivesInteger config record i →
      stop.GivesInteger config record j → ∃ part : String,
        (Expr.evaluate config record (.call pos "substring" [text, start, stop])).result =
          .ok (.value (.string part)) ∧
        part.toList = Text.charsFrom (Text.placeAt s.length i) (Text.placeAt s.length j) s.toList ∧
        part.toList <:+: s.toList) ∧
    (∀ (zero cut length : Expr) (k : Int), zero.GivesInteger config record 0 →
      cut.GivesInteger config record k → length.GivesInteger config record s.length →
      ∃ front back : String,
        (Expr.evaluate config record (.call pos "substring" [text, zero, cut])).result =
          .ok (.value (.string front)) ∧
        (Expr.evaluate config record (.call pos "substring" [text, cut, length])).result =
          .ok (.value (.string back)) ∧
        front ++ back = s) ∧
    (∀ (start stop : Expr) (m n : Decimal), start.GivesNumber config record m →
      stop.GivesNumber config record n →
      ((∀ i, ¬ start.GivesInteger config record i) →
        (Expr.evaluate config record (.call pos "substring" [text, start, stop])).result =
          .error ⟨.notInteger m, pos⟩) ∧
      ∀ i, start.GivesInteger config record i → (∀ j, ¬ stop.GivesInteger config record j) →
        (Expr.evaluate config record (.call pos "substring" [text, start, stop])).result =
          .error ⟨.notInteger n, pos⟩) ∧
    (s.length < 2 ^ 63 → ∀ index : Int64,
      (Text.wordPlace (.ofNat s.length) index).toInt = Text.placeAt s.length index.toInt ∧
        0 ≤ Text.placeAt s.length index.toInt ∧ Text.placeAt s.length index.toInt ≤ s.length) := by
  refine ⟨?_, ?_, ?_, fun hlength index =>
    ⟨Text.toInt_wordPlace hlength index, Text.placeAt_bounds _ _⟩⟩
  · intro start stop i j hstart hstop
    refine ⟨_, hstart.result_substring hstop htext pos, ?_, ?_⟩
    · rw [String.toList_ofList, Text.between_eq, String.length_toList]
    · rw [String.toList_ofList]
      exact Text.between_isInfix _ _ _
  · intro zero cut length k hzero hcut hlength
    have hfront := hzero.result_substring hcut htext pos
    have hback := hcut.result_substring hlength htext pos
    refine ⟨_, _, hfront, hback, ?_⟩
    rw [← String.ofList_append, ← String.length_toList, Text.between_append_between,
      String.ofList_toList]
  · intro start stop m n hm hn
    refine ⟨fun hnot => ?_, fun i hstart hnot => ?_⟩
    · rw [result_substring htext hm hn, Builtin.callSubstring,
        Builtin.toInteger_of_eq_none (hm.toInteger?_eq_none hnot)]
      rfl
    · obtain ⟨m', hm', hi⟩ := hstart.exists_toInteger?
      rw [result_substring htext hm' hn, Builtin.callSubstring, Builtin.toInteger_of_toInteger? hi,
        Builtin.toInteger_of_eq_none (hn.toInteger?_eq_none hnot)]
      rfl

end Expr

end RecordScript

namespace RecordScript.Expr

/-- From the third character before the end of a text up to the largest index, which is written with
places. -/
theorem evaluate_substring_most :
    let record : Record := .ofList [("s", "grüße"), ("most", "9223372036854775807.00")]
    let text : Expr := .field default "s"
    let start : Expr := .literal default (.number ⟨-30, 1⟩)
    let stop : Expr := .field default "most"
    (text.GivesText {} record "grüße" ∧ start.GivesInteger {} record (-3) ∧
      stop.GivesInteger {} record 9223372036854775807) ∧
    ∃ part : String,
      (Expr.evaluate {} record (.call default "substring" [text, start, stop])).result =
        .ok (.value (.string part)) ∧ part.toList = ['ü', 'ß', 'e'] := by
  intro record text start stop
  have htext : text.GivesText {} record "grüße" := givesText_field default "s"
  have hstart : start.GivesInteger {} record (-3) :=
    ⟨⟨-30, 1⟩, givesNumber_literal _ _, by norm_num [Decimal.value], by omega⟩
  have hmost : stop.GivesInteger {} record 9223372036854775807 :=
    ⟨⟨922337203685477580700, 2⟩, ⟨.field "most" "9223372036854775807.00", rfl, by decide +kernel⟩,
      by norm_num [Decimal.value], by omega⟩
  obtain ⟨part, hresult, hpart, -⟩ :=
    (evaluate_substring htext default).1 start stop _ _ hstart hmost
  exact ⟨⟨htext, hstart, hmost⟩, part, hresult, hpart.trans (by decide +kernel)⟩

end RecordScript.Expr

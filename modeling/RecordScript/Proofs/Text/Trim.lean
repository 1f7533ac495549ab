import Mathlib.Data.List.TakeWhile
import RecordScript.Text.Trim

/-!
# Trimming

A text whose characters are all visible has nothing to trim, and trimming makes no text longer.
-/

namespace RecordScript

/-- No visible character of ASCII is white space. -/
theorem Unicode.isWhiteSpace_eq_false {c : Char} (hlow : 0x20 < c.toNat) (hhigh : c.toNat < 0x80) :
    isWhiteSpace c = false := by
  have h : ∀ n ∈ List.range 0x80, 0x20 < n → isWhiteSpace (Char.ofNat n) = false := by
    decide +kernel
  simpa using h c.toNat (List.mem_range.mpr hhigh) hlow

theorem Text.trim_eq_self {s : String} (h : ∀ c ∈ s.toList, Unicode.isWhiteSpace c = false) :
    trim s = s := by
  have hdrop : ∀ cs : List Char, (∀ c ∈ cs, Unicode.isWhiteSpace c = false) →
      cs.dropWhile Unicode.isWhiteSpace = cs := by
    intro cs hcs
    rw [List.dropWhile_eq_self_iff]
    exact fun hpos => by simp [hcs _ (List.getElem_mem hpos)]
  rw [trim, trimChars, hdrop _ h, hdrop _ fun c hc => h c (List.mem_reverse.mp hc),
    List.reverse_reverse, String.ofList_toList]

theorem Text.length_trim_le (s : String) : (trim s).length ≤ s.length := by
  have hdrop : ∀ cs : List Char, (cs.dropWhile Unicode.isWhiteSpace).length ≤ cs.length :=
    fun cs => (List.dropWhile_sublist _).length_le
  rw [← String.length_toList, ← String.length_toList, trim, trimChars, String.toList_ofList,
    List.length_reverse]
  exact (hdrop _).trans (List.length_reverse.trans_le (hdrop _))

end RecordScript

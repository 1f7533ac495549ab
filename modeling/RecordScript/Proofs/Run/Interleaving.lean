import Mathlib.Data.List.Nodup

/-!
# Interleavings

A list that comes of mixing several lists, where the elements of each keep their order. The mixture
is seen as a list of elements with the numbers of the lists that they come from.
-/

namespace RecordScript

variable {α : Type}

/-- The elements that come from the list of the given number. -/
def ownedBy (i : Nat) (tagged : List (Nat × α)) : List α :=
  (tagged.filter (·.1 = i)).map Prod.snd

/-- The list is a mixture of the parts: each of its elements comes from one of them, and those of
each part are the part. -/
def IsInterleaving (parts : List (List α)) (whole : List α) : Prop :=
  ∃ tagged : List (Nat × α), tagged.map Prod.snd = whole ∧ (∀ x ∈ tagged, x.1 < parts.length) ∧
    ∀ i (h : i < parts.length), ownedBy i tagged = parts[i]

theorem ownedBy_append (i : Nat) (first second : List (Nat × α)) :
    ownedBy i (first ++ second) = ownedBy i first ++ ownedBy i second := by
  simp [ownedBy]

theorem ownedBy_cons (i : Nat) (x : Nat × α) (tagged : List (Nat × α)) :
    ownedBy i (x :: tagged) = if x.1 = i then x.2 :: ownedBy i tagged else ownedBy i tagged := by
  by_cases h : x.1 = i
  · simp [ownedBy, h]
  · simp [ownedBy, h]

/-- Empty parts have the empty mixture. -/
theorem isInterleaving_nil {parts : List (List α)} (h : ∀ part ∈ parts, part = []) :
    IsInterleaving parts [] := by
  refine ⟨[], rfl, by simp, ?_⟩
  intro i hi
  have hpart : parts[i] = [] := h _ (List.getElem_mem hi)
  simp [ownedBy, hpart]

/-- A part that gets longer makes the mixture longer. -/
theorem IsInterleaving.snoc {before after : List (List α)} {part whole : List α}
    (h : IsInterleaving (before ++ part :: after) whole) (a : α) :
    IsInterleaving (before ++ (part ++ [a]) :: after) (whole ++ [a]) := by
  obtain ⟨tagged, rfl, hlt, hparts⟩ := h
  have hlength : (before ++ (part ++ [a]) :: after).length = (before ++ part :: after).length := by
    simp
  refine ⟨tagged ++ [(before.length, a)], by simp, ?_, ?_⟩
  · intro x hx
    rw [hlength]
    rcases List.mem_append.mp hx with hx | hx
    · exact hlt x hx
    · obtain rfl := List.mem_singleton.mp hx
      simp
  · intro i hi
    have howned := hparts i (hlength ▸ hi)
    rw [ownedBy_append, howned]
    -- only the part of the new element has changed
    by_cases hib : i = before.length
    · subst hib
      simp [ownedBy]
    · have hne : before.length ≠ i := Ne.symm hib
      have hkeep : ownedBy i [(before.length, a)] = [] := by simp [ownedBy, hne]
      rw [hkeep, List.append_nil]
      rcases Nat.lt_or_gt_of_ne hib with hlt | hgt
      · rw [List.getElem_append_left hlt, List.getElem_append_left hlt]
      · rw [List.getElem_append_right (by omega), List.getElem_append_right (by omega),
          List.getElem_cons, List.getElem_cons, dif_neg (by omega), dif_neg (by omega)]

/-- A mixture holds the elements of its parts. -/
theorem IsInterleaving.perm {parts : List (List α)} {whole : List α}
    (h : IsInterleaving parts whole) : whole.Perm parts.flatten := by
  obtain ⟨tagged, rfl, hlt, hparts⟩ := h
  have hflat : parts.flatten = (List.range parts.length).flatMap (ownedBy · tagged) := by
    rw [List.flatMap_def]
    congr 1
    apply List.ext_getElem (by simp)
    intro i hi _
    simp [hparts i hi]
  rw [hflat]
  generalize parts.length = n at hlt
  clear hflat hparts
  -- element by element: each stands in the part that it comes from, and in no other
  induction tagged with
  | nil => simp [ownedBy]
  | cons x tagged ih =>
    obtain ⟨hx, hlt⟩ := List.forall_mem_cons.mp hlt
    obtain ⟨before, after, hrange⟩ := List.append_of_mem (List.mem_range.mpr hx)
    have hnodup : (before ++ x.1 :: after).Nodup := hrange ▸ List.nodup_range
    have hother : ∀ i ∈ before ++ after, ownedBy i (x :: tagged) = ownedBy i tagged := by
      intro i hi
      rw [ownedBy_cons, if_neg]
      rintro rfl
      exact (List.nodup_middle.mp hnodup).notMem hi
    have hbefore := List.flatMap_congr fun i hi => hother i (List.mem_append_left after hi)
    have hafter := List.flatMap_congr fun i hi => hother i (List.mem_append_right before hi)
    have ih := ih hlt
    rw [hrange, List.flatMap_append, List.flatMap_cons] at ih ⊢
    rw [hbefore, hafter, ownedBy_cons, if_pos rfl, List.map_cons, List.cons_append]
    exact (ih.cons x.2).trans List.perm_middle.symm

end RecordScript

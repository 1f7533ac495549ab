import Mathlib.Data.Finset.Card
import Mathlib.Data.List.Sort
import RecordScript.Proofs.Execution.Writes

/-!
# What a record holds

A record that has been built by writes has a field for each name that was written, in the order of
the first writes, with the text of the last one. Nothing else of the writes can be seen in it, so
records are equal if these are, and writes into two fields that are there can change places.
-/

namespace RecordScript

namespace FieldList

/-- With different names, a list of fields can be had from its names and what is found under them.
-/
theorem eq_map_lookup {fields : FieldList} (h : (names fields).Nodup) :
    fields = (names fields).map fun name => (name, (fields.lookup name).getD "") := by
  induction fields with
  | nil => rfl
  | cons field rest ih =>
    obtain ⟨name, text⟩ := field
    obtain ⟨hname, hrest⟩ := List.nodup_cons.mp h
    have hlater : ∀ x ∈ names rest, ((name, text) :: rest).lookup x = rest.lookup x := by
      intro x hx
      have hne : (x == name) = false := beq_false_of_ne fun heq => hname (heq ▸ hx)
      rw [List.lookup_cons, hne]
    calc (name, text) :: rest
        = (name, text) :: (names rest).map fun x => (x, (rest.lookup x).getD "") := by
          rw [← ih hrest]
      _ = (name, text) :: (names rest).map fun x =>
            (x, (((name, text) :: rest).lookup x).getD "") :=
          congrArg _ (List.map_congr_left fun x hx => by rw [hlater x hx])
      _ = _ := by simp [names]

end FieldList

namespace Record

/-- Records with the same names in the same order are equal if their fields have the same texts. -/
theorem ext_get? {r s : Record} (hnames : r.names = s.names)
    (h : ∀ name, r.get? name = s.get? name) : r = s := by
  have hfields : r.fields = s.fields := by
    rw [FieldList.eq_map_lookup r.nodup, FieldList.eq_map_lookup s.nodup]
    change r.names.map (fun name => (name, (r.get? name).getD "")) =
      s.names.map fun name => (name, (s.get? name).getD "")
    rw [hnames, funext fun name => congrArg (fun text => (name, text.getD "")) (h name)]
  obtain ⟨fields, _⟩ := r
  obtain ⟨others, _⟩ := s
  obtain rfl : fields = others := hfields
  rfl

theorem names_set_of_contains {r : Record} {name : String} (h : r.contains name = true)
    (text : String) : (r.set name text).names = r.names := by
  rw [names, set, FieldList.names_write, if_pos]
  · rfl
  · exact List.contains_iff_mem.mp h

theorem contains_set {r : Record} {name : String} (h : r.contains name = true)
    (other text : String) : (r.set other text).contains name = true := by
  rw [contains, List.contains_iff_mem] at h ⊢
  exact mem_names_set.mpr (.inl h)

/-- Writes into two fields that are there can change places. -/
theorem set_comm {r : Record} {name other : String} (hne : name ≠ other)
    (hname : r.contains name = true) (hother : r.contains other = true) (text otherText : String) :
    (r.set name text).set other otherText = (r.set other otherText).set name text := by
  refine ext_get? ?_ fun x => ?_
  · rw [names_set_of_contains (contains_set hother _ _), names_set_of_contains hname,
      names_set_of_contains (contains_set hname _ _), names_set_of_contains hother]
  · simp only [get?_set]
    by_cases hx : x = name
    · simp [hx, hne]
    · simp [hx]

/-! ### Records that have been built by writes -/

/-- The place of the first write into a field, which is behind all writes if there is none. -/
def firstWrite (writes : List (String × String)) (name : String) : Nat :=
  (writes.map Prod.fst).idxOf name

/-- The text is that of the last write into the field. -/
def IsLastWrite (writes : List (String × String)) (name text : String) : Prop :=
  ∃ before after, writes = before ++ (name, text) :: after ∧ ∀ w ∈ after, w.1 ≠ name

section Writes

variable {writes others : List (String × String)} {name other text : String}

theorem firstWrite_append (h : name ∈ writes.map Prod.fst) (others : List (String × String)) :
    firstWrite (writes ++ others) name = firstWrite writes name := by
  rw [firstWrite, List.map_append, List.idxOf_append_of_mem h, firstWrite]

theorem firstWrite_append_of_notMem (h : name ∉ writes.map Prod.fst) :
    firstWrite (writes ++ [(name, text)]) name = writes.length := by
  rw [firstWrite, List.map_append, List.idxOf_append_of_notMem h]
  simp

theorem firstWrite_lt_length (h : name ∈ writes.map Prod.fst) :
    firstWrite writes name < writes.length := by
  rw [firstWrite, ← List.length_map Prod.fst]
  exact List.idxOf_lt_length_of_mem h

theorem isLastWrite_nil : ¬ IsLastWrite [] name text := by
  rintro ⟨before, after, h, -⟩
  exact List.append_ne_nil_of_right_ne_nil before (List.cons_ne_nil _ _) h.symm

/-- A write in front of others is the last one of its field if they leave the field alone. -/
theorem isLastWrite_cons {write : String × String} :
    IsLastWrite (write :: writes) name text ↔
      IsLastWrite writes name text ∨ write = (name, text) ∧ name ∉ writes.map Prod.fst := by
  constructor
  · rintro ⟨before, after, h, hafter⟩
    cases before with
    | nil =>
      obtain ⟨rfl, rfl⟩ := List.cons.inj h
      exact .inr ⟨rfl, by simpa using fun text hw => hafter (name, text) hw rfl⟩
    | cons first before => exact .inl ⟨before, after, (List.cons.inj h).2, hafter⟩
  · rintro (⟨before, after, rfl, hafter⟩ | ⟨rfl, hlater⟩)
    · exact ⟨write :: before, after, rfl, hafter⟩
    · exact ⟨[], writes, rfl, fun w hw heq => hlater (heq ▸ List.mem_map_of_mem hw)⟩

/-- Every field that is written has a last write. -/
theorem exists_isLastWrite (h : name ∈ writes.map Prod.fst) :
    ∃ text, IsLastWrite writes name text := by
  induction writes with
  | nil => cases h
  | cons write writes ih =>
    by_cases hlater : name ∈ writes.map Prod.fst
    · obtain ⟨text, hlast⟩ := ih hlater
      exact ⟨text, isLastWrite_cons.mpr (.inl hlast)⟩
    · obtain rfl : name = write.1 := (List.mem_cons.mp h).resolve_right hlater
      exact ⟨write.2, isLastWrite_cons.mpr (.inr ⟨rfl, hlater⟩)⟩

theorem mem_names_setAll_empty :
    name ∈ (empty.setAll writes).names ↔ name ∈ writes.map Prod.fst := by
  rw [mem_names_setAll]
  simp [empty, names, FieldList.names]

/-- The fields stand in the order in which they were first written. -/
theorem pairwise_names_setAll (writes : List (String × String)) :
    (empty.setAll writes).names.Pairwise fun f g => firstWrite writes f < firstWrite writes g := by
  induction writes using List.reverseRecOn with
  | nil => exact .nil
  | append_singleton writes write ih =>
    obtain ⟨name, text⟩ := write
    have hmem : ∀ {f}, f ∈ (empty.setAll writes).names → f ∈ writes.map Prod.fst :=
      mem_names_setAll_empty.mp
    -- fields that stand there keep the places of their first writes
    have hold : (empty.setAll writes).names.Pairwise fun f g =>
        firstWrite (writes ++ [(name, text)]) f < firstWrite (writes ++ [(name, text)]) g := by
      refine ih.imp_of_mem fun {f g} hf hg hfg => ?_
      rwa [firstWrite_append (hmem hf), firstWrite_append (hmem hg)]
    rw [setAll_append]
    change (((empty.setAll writes).set name text).names).Pairwise _
    rw [names, set, FieldList.names_write]
    split
    · exact hold
    · -- a new field is written for the first time now, behind all others
      rename_i hnew
      rw [List.pairwise_append]
      refine ⟨hold, List.pairwise_singleton _ _, fun f hf g hg => ?_⟩
      obtain rfl := List.mem_singleton.mp hg
      rw [firstWrite_append (hmem hf),
        firstWrite_append_of_notMem (mt mem_names_setAll_empty.mpr hnew)]
      exact firstWrite_lt_length (hmem hf)

/-- A field has the text of its last write. -/
theorem IsLastWrite.get?_setAll (h : IsLastWrite writes name text) (r : Record) :
    (r.setAll writes).get? name = some text := by
  obtain ⟨before, after, rfl, hafter⟩ := h
  rw [setAll_append]
  -- the writes behind it leave the field alone
  change (((r.setAll before).set name text).setAll after).get? name = _
  rw [Record.get?_setAll hafter, get?_set, if_pos rfl]

theorem get?_setAll_empty (h : name ∉ writes.map Prod.fst) :
    (empty.setAll writes).get? name = none := by
  refine (Record.get?_setAll fun w hw heq => ?_).trans rfl
  exact h (heq ▸ List.mem_map_of_mem hw)

/-- What is found in a field is what was last written into it. -/
theorem get?_setAll_empty_eq_some :
    (empty.setAll writes).get? name = some text ↔ IsLastWrite writes name text := by
  refine ⟨fun h => ?_, fun h => h.get?_setAll empty⟩
  by_cases hmem : name ∈ writes.map Prod.fst
  · obtain ⟨last, hlast⟩ := exists_isLastWrite hmem
    obtain rfl : last = text := Option.some.inj ((hlast.get?_setAll empty).symm.trans h)
    exact hlast
  · rw [get?_setAll_empty hmem] at h
    cases h

theorem size_setAll_empty (writes : List (String × String)) :
    (empty.setAll writes).size = (writes.map Prod.fst).toFinset.card := by
  have hsame : (writes.map Prod.fst).toFinset = (empty.setAll writes).names.toFinset := by
    ext name
    rw [List.mem_toFinset, List.mem_toFinset, mem_names_setAll_empty]
  have hnodup : (empty.setAll writes).names.Nodup := (empty.setAll writes).nodup
  rw [hsame, List.toFinset_card_of_nodup hnodup, names, FieldList.names, List.length_map, size]

/-- Nothing can be seen in a record but the order of the first writes and the last texts. -/
theorem setAll_empty_congr
    (hfirst : ∀ f ∈ writes.map Prod.fst, ∀ g ∈ writes.map Prod.fst,
      firstWrite writes f < firstWrite writes g ↔ firstWrite others f < firstWrite others g)
    (hlast : ∀ name text, IsLastWrite writes name text ↔ IsLastWrite others name text) :
    empty.setAll writes = empty.setAll others := by
  have hget : ∀ name, (empty.setAll writes).get? name = (empty.setAll others).get? name := by
    intro name
    ext text
    rw [get?_setAll_empty_eq_some, get?_setAll_empty_eq_some, hlast]
  have hmem : ∀ name, name ∈ (empty.setAll writes).names ↔ name ∈ (empty.setAll others).names := by
    intro name
    rw [← List.contains_iff_mem, ← List.contains_iff_mem]
    change (empty.setAll writes).contains name = true ↔ (empty.setAll others).contains name = true
    rw [contains_eq_isSome, contains_eq_isSome, hget]
  refine ext_get? ?_ hget
  -- both lists of names are strictly increasing in the places of the first writes
  let before (f g : String) : Prop := firstWrite writes f < firstWrite writes g
  have hirrefl : Std.Irrefl before := ⟨fun f => Nat.lt_irrefl _⟩
  have hantisymm : Std.Antisymm before := ⟨fun f g hfg hgf => absurd hfg (Nat.lt_asymm hgf)⟩
  have hothers : (empty.setAll others).names.Pairwise before := by
    refine (pairwise_names_setAll others).imp_of_mem fun {f g} hf hg hfg => ?_
    exact (hfirst f (mem_names_setAll_empty.mp ((hmem f).mpr hf)) g
      (mem_names_setAll_empty.mp ((hmem g).mpr hg))).mpr hfg
  exact (pairwise_names_setAll writes).eq_of_mem_iff hothers hmem

end Writes

/-- What a record holds that has been built by writes, one after another or from a list: its fields
have different names and stand in the order in which they were first written, each has the text that
was last written into it, and a field that was not written is not there and reads as empty; there
are as many fields as there are names among the writes. So two sequences of writes with the same
order of first writes and the same last texts build equal records, and writes into two different
fields that are there can change places. -/
theorem setAll_holds_last_writes :
    (∀ writes : List (String × String),
      ofList writes = empty.setAll writes ∧
      (empty.setAll writes).names.Nodup ∧
      (empty.setAll writes).names.Pairwise
        (fun f g => firstWrite writes f < firstWrite writes g) ∧
      (∀ name text, IsLastWrite writes name text →
        (empty.setAll writes).contains name = true ∧ (empty.setAll writes).get name = text) ∧
      (∀ name, name ∉ writes.map Prod.fst →
        (empty.setAll writes).contains name = false ∧ (empty.setAll writes).get name = "") ∧
      (empty.setAll writes).size = (writes.map Prod.fst).toFinset.card) ∧
    (∀ writes others : List (String × String),
      (∀ f ∈ writes.map Prod.fst, ∀ g ∈ writes.map Prod.fst,
        firstWrite writes f < firstWrite writes g ↔ firstWrite others f < firstWrite others g) →
      (∀ name text, IsLastWrite writes name text ↔ IsLastWrite others name text) →
      empty.setAll writes = empty.setAll others) ∧
    ∀ (r : Record) (name other text otherText : String), name ≠ other →
      r.contains name = true → r.contains other = true →
      (r.set name text).set other otherText = (r.set other otherText).set name text := by
  refine ⟨fun writes => ⟨rfl, ?_, pairwise_names_setAll writes, fun name text h => ?_,
      fun name h => ?_, size_setAll_empty writes⟩,
    fun writes others => setAll_empty_congr,
    fun r name other text otherText hne hname hother => set_comm hne hname hother text otherText⟩
  · exact (pairwise_names_setAll writes).imp fun hlt => ne_of_apply_ne _ hlt.ne
  · have hget := h.get?_setAll empty
    exact ⟨by rw [contains_eq_isSome, hget, Option.isSome_some],
      by rw [get, hget, Option.getD_some]⟩
  · have hget := get?_setAll_empty h
    exact ⟨by rw [contains_eq_isSome, hget, Option.isSome_none],
      by rw [get, hget, Option.getD_none]⟩

/-- A field that is written twice keeps its first place and gets its second text. -/
theorem setAll_holds_last_writes_twice :
    let made := empty.setAll [("date", "2021-03-01"), ("amount", "-20.00"), ("date", "x")]
    made = empty.setAll [("date", "x"), ("amount", "-20.00")] ∧
      (made.contains "date" = true ∧ made.get "date" = "x") ∧
      (made.contains "Date" = false ∧ made.get "Date" = "") ∧
      (made.set "amount" "1").set "date" "y" = (made.set "date" "y").set "amount" "1" := by
  obtain ⟨hbuilt, hcongr, hcomm⟩ := setAll_holds_last_writes
  obtain ⟨-, -, -, hlast, hnone, -⟩ :=
    hbuilt [("date", "2021-03-01"), ("amount", "-20.00"), ("date", "x")]
  refine ⟨hcongr _ _ (by decide) fun name text => ?_, hlast _ _ ?_, hnone _ (by decide),
    hcomm _ _ _ _ _ (by decide) (by decide) (by decide)⟩
  · simp only [isLastWrite_cons, isLastWrite_nil]
    grind
  · exact ⟨[("date", "2021-03-01"), ("amount", "-20.00")], [], rfl, by simp⟩

end Record

end RecordScript

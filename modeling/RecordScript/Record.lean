/-!
# Records

A record is an ordered list of fields with different names. A field that a record does not have
reads as the empty text. Writing a field keeps its place, and a new field goes to the end, so that
the fields of the input stay in front, in their order.
-/

namespace RecordScript

/-- Fields with their texts, in order. -/
abbrev FieldList := List (String × String)

namespace FieldList

/-- The names of the fields, in order. -/
def names (fields : FieldList) : List String := fields.map Prod.fst

/-- The fields with one text written: in its place if there is a field of the name, otherwise at the
end. -/
def write (name text : String) : FieldList → FieldList
  | [] => [(name, text)]
  | (n, t) :: rest => if n = name then (n, text) :: rest else (n, t) :: write name text rest

theorem mem_names_write {name text x : String} {fields : FieldList} :
    x ∈ names (write name text fields) ↔ x ∈ names fields ∨ x = name := by
  induction fields with
  | nil => simp [names, write]
  | cons field rest ih =>
    obtain ⟨n, t⟩ := field
    simp only [names] at ih
    by_cases h : n = name
    · simp only [names, write, h, if_pos, List.map_cons, List.mem_cons]
      grind
    · simp only [names, write, h, if_false, List.map_cons, List.mem_cons, ih]
      grind

theorem nodup_names_write {name text : String} {fields : FieldList} (h : (names fields).Nodup) :
    (names (write name text fields)).Nodup := by
  induction fields with
  | nil => simp [names, write]
  | cons field rest ih =>
    obtain ⟨n, t⟩ := field
    simp only [names, List.map_cons, List.nodup_cons] at h
    by_cases hn : n = name
    · simp only [names, write, hn, if_pos, List.map_cons, List.nodup_cons]
      exact ⟨hn ▸ h.1, h.2⟩
    · simp only [names, write, hn, if_false, List.map_cons, List.nodup_cons]
      refine ⟨fun hm => ?_, ih h.2⟩
      rcases mem_names_write.mp hm with hm | hm
      · exact h.1 hm
      · exact hn hm

end FieldList

/-- An ordered list of fields with different names. -/
structure Record where
  fields : FieldList
  nodup : fields.names.Nodup
deriving DecidableEq

namespace Record

/-- The record without fields. -/
def empty : Record := ⟨[], List.nodup_nil⟩

instance : Inhabited Record := ⟨empty⟩

/-- The names of the fields, in order. -/
def names (r : Record) : List String := r.fields.names

/-- The text of a field, or `none` if the record does not have it. -/
def get? (r : Record) (name : String) : Option String := r.fields.lookup name

/-- The text of a field; a field that the record does not have reads as the empty text. -/
def get (r : Record) (name : String) : String := (r.get? name).getD ""

/-- Whether the record has a field. -/
def contains (r : Record) (name : String) : Bool := r.names.contains name

/-- The record with a text written into a field. -/
def set (r : Record) (name text : String) : Record :=
  ⟨r.fields.write name text, FieldList.nodup_names_write r.nodup⟩

/-- The record that arises when the fields are written one after another. -/
def ofList (fields : List (String × String)) : Record :=
  fields.foldl (fun r (name, text) => r.set name text) empty

/-- The number of fields. -/
def size (r : Record) : Nat := r.fields.length

/-- Whether the record has no field. -/
def isEmpty (r : Record) : Bool := r.fields.isEmpty

instance : Repr Record where
  reprPrec r _ := repr r.fields

end Record

end RecordScript

import RecordScript.Csv.Reader
import RecordScript.Csv.Writer
import RecordScript.Proofs.Text.Utf8

/-!
# Written values are read back

What the writer makes of a table is read as the same table. A field is quoted whenever it holds a
byte that would end it, and a quote in it is doubled, so the reader leaves a field only behind it. A
row never starts with the end of a line, so no row is passed over as an empty line.
-/

namespace RecordScript

open Text (encodeChars)

namespace Csv

/-- The bytes of the texts of a row. -/
def rowBytes (texts : List String) : List (List UInt8) := texts.map fun t => encodeChars t.toList

@[simp]
theorem length_rowBytes (texts : List String) : (rowBytes texts).length = texts.length :=
  List.length_map _

/-! ## Fields -/

section Fields

variable {field : List UInt8} {fields : List (List UInt8)} {rest : List UInt8}

/-- Whether a byte stands for itself outside quotes. -/
def IsPlain (b : UInt8) : Prop := b ≠ quote ∧ b ≠ comma ∧ endsRow b = false

theorem isPlain_of_mem_encodeChars {cs : List Char} (h : cs.any needsQuotes = false) :
    ∀ b ∈ encodeChars cs, IsPlain b := by
  intro b hb
  obtain ⟨c, hc, hbc⟩ := List.mem_flatMap.mp hb
  have hneeds : needsQuotes c = false := by simpa using List.any_eq_false.mp h c hc
  have other {d : Char} (hd : d.toNat < 128) (hq : needsQuotes d = true) :
      b ≠ UInt8.ofNat d.toNat := by
    rintro rfl
    rw [Text.eq_of_mem_utf8EncodeChar hd hbc, hq] at hneeds
    cases hneeds
  have hcomma : b ≠ comma := other (d := ',') (by decide) rfl
  have hquote : b ≠ quote := other (d := '"') (by decide) rfl
  have hlf : b ≠ lineFeed := other (d := '\n') (by decide) rfl
  have hcr : b ≠ carriageReturn := other (d := '\r') (by decide) rfl
  exact ⟨hquote, hcomma, by simp [endsRow, hlf, hcr]⟩

theorem readFields_plain {bytes : List UInt8} (h : ∀ b ∈ bytes, IsPlain b) :
    readFields .plain field fields (bytes ++ rest) =
      readFields .plain (bytes.reverse ++ field) fields rest := by
  induction bytes generalizing field with
  | nil => rfl
  | cons b bytes ih =>
    obtain ⟨⟨hquote, hcomma, hend⟩, htail⟩ := List.forall_mem_cons.mp h
    simp [readFields, hquote, hcomma, hend, ih htail]

theorem readFields_start {b : UInt8} (h : IsPlain b) :
    readFields .start field fields (b :: rest) = readFields .plain (b :: field) fields rest := by
  obtain ⟨hquote, hcomma, hend⟩ := h
  simp [readFields, hquote, hcomma, hend]

theorem readFields_quoted {bytes : List UInt8} (h : quote ∉ bytes) :
    readFields .quoted field fields (bytes ++ rest) =
      readFields .quoted (bytes.reverse ++ field) fields rest := by
  induction bytes generalizing field with
  | nil => rfl
  | cons b bytes ih =>
    obtain ⟨hb, htail⟩ : quote ≠ b ∧ quote ∉ bytes := by simpa using h
    simp [readFields, Ne.symm hb, ih htail]

theorem encodeChars_quote (cs : List Char) :
    encodeChars ('"' :: cs) = quote :: encodeChars cs := rfl

theorem encodeChars_comma (cs : List Char) :
    encodeChars (',' :: cs) = comma :: encodeChars cs := rfl

theorem quote_notMem_utf8EncodeChar {c : Char} (h : c ≠ '"') :
    quote ∉ String.utf8EncodeChar c :=
  fun hm => h (Text.eq_of_mem_utf8EncodeChar (d := '"') (by decide) hm)

/-- Between quotes, characters with their quotes doubled are read as they are. -/
theorem readFields_doubleQuotes (cs : List Char) :
    readFields .quoted field fields (encodeChars (doubleQuotes cs) ++ rest) =
      readFields .quoted ((encodeChars cs).reverse ++ field) fields rest := by
  induction cs generalizing field with
  | nil => rfl
  | cons c cs ih =>
    rw [doubleQuotes, List.flatMap_cons, ← doubleQuotes]
    by_cases hc : c = '"'
    · subst hc
      rw [if_pos rfl, List.cons_append, List.cons_append, List.nil_append]
      simp only [encodeChars_quote, List.cons_append, List.reverse_cons, List.append_assoc,
        List.nil_append]
      rw [← ih]
      simp [readFields]
    · rw [if_neg hc, List.cons_append, List.nil_append, Text.encodeChars_cons, List.append_assoc,
        readFields_quoted (quote_notMem_utf8EncodeChar hc), ih, Text.encodeChars_cons,
        List.reverse_append, List.append_assoc]

/-- What is written for a field is read as the field, and reading then stands outside quotes. -/
theorem readFields_writeField (fields : List (List UInt8)) (cs : List Char) :
    ∃ state, state ≠ .quoted ∧ ∀ rest,
      readFields .start [] fields (encodeChars (writeField cs) ++ rest) =
        readFields state (encodeChars cs).reverse fields rest := by
  by_cases hany : cs.any needsQuotes
  · refine ⟨.afterQuote, by decide, fun rest => ?_⟩
    rw [writeField, if_pos hany, encodeChars_quote, Text.encodeChars_append, List.cons_append,
      List.append_assoc]
    calc readFields .start [] fields (quote :: (encodeChars (doubleQuotes cs) ++ (quote :: rest)))
      _ = readFields .quoted [] fields (encodeChars (doubleQuotes cs) ++ (quote :: rest)) := by
        simp [readFields]
      _ = readFields .quoted (encodeChars cs).reverse fields (quote :: rest) := by
        rw [readFields_doubleQuotes, List.append_nil]
      _ = readFields .afterQuote (encodeChars cs).reverse fields rest := by simp [readFields]
  · have hplain := isPlain_of_mem_encodeChars (Bool.eq_false_iff.mpr hany)
    rw [writeField, if_neg hany]
    cases hbytes : encodeChars cs with
    | nil => exact ⟨.start, by decide, fun rest => rfl⟩
    | cons b bytes =>
      rw [hbytes] at hplain
      obtain ⟨hb, htail⟩ := List.forall_mem_cons.mp hplain
      refine ⟨.plain, by decide, fun rest => ?_⟩
      rw [List.cons_append, readFields_start hb, readFields_plain htail, List.reverse_cons]

theorem readFields_comma {state : FieldState} (h : state ≠ .quoted) :
    readFields state field fields (comma :: rest) =
      readFields .start [] (field.reverse :: fields) rest := by
  cases state <;> first | contradiction | simp [readFields, comma, quote]

theorem readFields_lineFeed {state : FieldState} (h : state ≠ .quoted) :
    readFields state field fields (lineFeed :: rest) =
      ((field.reverse :: fields).reverse, rest) := by
  cases state <;> first | contradiction | simp [readFields, comma, quote, lineFeed, endsRow]

end Fields

/-! ## Rows -/

theorem writeFields_cons_cons (text text' : String) (texts : List String) :
    writeFields (text :: text' :: texts) =
      writeField text.toList ++ ',' :: writeFields (text' :: texts) := rfl

/-- What is written for the fields of a row is read as these fields. -/
theorem readFields_writeFields {texts : List String} (h : texts ≠ []) (fields : List (List UInt8))
    (rest : List UInt8) :
    readFields .start [] fields (encodeChars (writeFields texts) ++ lineFeed :: rest) =
      (fields.reverse ++ rowBytes texts, rest) := by
  induction texts generalizing fields with
  | nil => contradiction
  | cons text texts ih =>
    obtain ⟨state, hstate, hread⟩ := readFields_writeField fields text.toList
    cases texts with
    | nil =>
      rw [writeFields, hread, readFields_lineFeed hstate, List.reverse_reverse, List.reverse_cons]
      rfl
    | cons text' texts =>
      rw [writeFields_cons_cons, Text.encodeChars_append, encodeChars_comma, List.append_assoc,
        hread, List.cons_append, readFields_comma hstate, ih (List.cons_ne_nil _ _),
        List.reverse_reverse, List.reverse_cons, List.append_assoc]
      rfl

theorem writeField_cons (c : Char) (cs : List Char) :
    ∃ ds, writeField (c :: cs) = '"' :: ds ∨
      needsQuotes c = false ∧ writeField (c :: cs) = c :: ds := by
  by_cases hany : (c :: cs).any needsQuotes
  · exact ⟨_, .inl (if_pos hany)⟩
  · have hc : needsQuotes c = false := by
      simpa using List.any_eq_false.mp (Bool.eq_false_iff.mpr hany) c List.mem_cons_self
    exact ⟨cs, .inr ⟨hc, if_neg hany⟩⟩

/-- What the written form of a row starts with: a quote or a comma, unless the first field is
written as it is. -/
theorem writeFields_cons (text : String) (texts : List String) :
    text = "" ∧ texts = [] ∨ ∃ c cs, writeFields (text :: texts) = c :: cs ∧
      (c = '"' ∨ c = ',' ∨ needsQuotes c = false ∧ text.toList.head? = some c) := by
  cases hchars : text.toList with
  | nil =>
    cases texts with
    | nil => exact .inl ⟨String.toList_eq_nil_iff.mp hchars, rfl⟩
    | cons text' texts =>
      refine .inr ⟨',', writeFields (text' :: texts), ?_, .inr (.inl rfl)⟩
      rw [writeFields_cons_cons, hchars]
      rfl
  | cons c cs =>
    obtain ⟨rest, hrest⟩ : ∃ rest, writeFields (text :: texts) = writeField (c :: cs) ++ rest := by
      cases texts with
      | nil => exact ⟨[], by rw [writeFields, hchars, List.append_nil]⟩
      | cons text' texts => exact ⟨_, by rw [writeFields_cons_cons, hchars]⟩
    obtain ⟨ds, hquote | ⟨hc, hself⟩⟩ := writeField_cons c cs
    · exact .inr ⟨'"', ds ++ rest, by rw [hrest, hquote, List.cons_append], .inl rfl⟩
    · exact .inr ⟨c, ds ++ rest, by rw [hrest, hself, List.cons_append], .inr (.inr ⟨hc, rfl⟩)⟩

theorem writeFields_eq_nil {texts : List String} (hne : texts ≠ []) (h : writeFields texts = []) :
    texts = [""] := by
  obtain ⟨text, texts, rfl⟩ := List.exists_cons_of_ne_nil hne
  obtain ⟨rfl, rfl⟩ | ⟨c, cs, hcs, _⟩ := writeFields_cons text texts
  · rfl
  · rw [h] at hcs
    cases hcs

theorem writeRow_cons (text : String) (texts : List String) :
    ∃ c cs, writeRow (text :: texts) = c :: cs ∧
      (c = '"' ∨ c = ',' ∨ needsQuotes c = false ∧ text.toList.head? = some c) := by
  obtain ⟨rfl, rfl⟩ | ⟨c, cs, hcs, hc⟩ := writeFields_cons text texts
  · exact ⟨'"', ['"', '\n'], rfl, .inl rfl⟩
  · exact ⟨c, cs ++ ['\n'], by simp [writeRow, hcs], hc⟩

/-- A row does not look like the end of a line. -/
theorem encodeChars_writeRow_cons {texts : List String} (h : texts ≠ []) :
    ∃ b bytes, encodeChars (writeRow texts) = b :: bytes ∧ endsRow b = false := by
  obtain ⟨text, texts, rfl⟩ := List.exists_cons_of_ne_nil h
  obtain ⟨c, cs, hcs, hc⟩ := writeRow_cons text texts
  rw [hcs, Text.encodeChars_cons]
  obtain rfl | rfl | ⟨hc, -⟩ := hc
  · exact ⟨quote, encodeChars cs, rfl, rfl⟩
  · exact ⟨comma, encodeChars cs, rfl, rfl⟩
  · obtain ⟨b, bytes, hb⟩ := List.exists_cons_of_ne_nil (String.utf8EncodeChar_ne_nil (c := c))
    have hneeds : [c].any needsQuotes = false := by simpa using hc
    have hplain : IsPlain b := isPlain_of_mem_encodeChars hneeds b (by simp [hb])
    exact ⟨b, bytes ++ encodeChars cs, by rw [hb, List.cons_append], hplain.2.2⟩

/-- What is written for a row is read as the row. -/
theorem readFields_writeRow {texts : List String} (h : texts ≠ []) (rest : List UInt8) :
    readFields .start [] [] (encodeChars (writeRow texts) ++ rest) = (rowBytes texts, rest) := by
  rw [writeRow, Text.encodeChars_append, List.append_assoc]
  split
  · -- A single empty field is written as a pair of quotes, since a blank line is passed over.
    next hbody =>
    rw [writeFields_eq_nil h hbody]
    rfl
  · exact readFields_writeFields h [] rest

theorem readRows_cons {b : UInt8} (h : endsRow b = false) (place : Place) (bytes : List UInt8) :
    ∃ next, readRows place (b :: bytes) =
      ⟨place, (readFields .start [] [] (b :: bytes)).1⟩ ::
        readRows next (readFields .start [] [] (b :: bytes)).2 := by
  have hdrop : (b :: bytes).dropWhile endsRow = b :: bytes := by simp [h]
  rw [readRows.eq_def]
  split
  · next heq =>
    rw [hdrop] at heq
    cases heq
  · next heq =>
    rw [hdrop, List.cons.injEq] at heq
    obtain ⟨rfl, rfl⟩ := heq
    exact ⟨_, rfl⟩

/-- What is written for some rows is read as these rows. -/
theorem readRows_writeRow (place : Place) (table : List (List String))
    (h : ∀ texts ∈ table, texts ≠ []) :
    (readRows place (encodeChars (table.flatMap writeRow))).map Row.fields =
      table.map rowBytes := by
  induction table generalizing place with
  | nil => simp [readRows]
  | cons texts table ih =>
    obtain ⟨hne, htail⟩ := List.forall_mem_cons.mp h
    have hread := readFields_writeRow hne (encodeChars (table.flatMap writeRow))
    obtain ⟨b, bytes, hb, hend⟩ := encodeChars_writeRow_cons hne
    rw [hb, List.cons_append] at hread
    obtain ⟨next, hnext⟩ := readRows_cons hend place
      (bytes ++ encodeChars (table.flatMap writeRow))
    rw [List.flatMap_cons, Text.encodeChars_append, hb, List.cons_append, hnext, hread,
      List.map_cons, List.map_cons, ih next htail]

/-! ## Texts -/

theorem decodeFields_rowBytes (place : Place) (number : Nat) (texts : List String) :
    decodeFields place number (rowBytes texts) = .ok texts := by
  induction texts generalizing number with
  | nil => rfl
  | cons text texts ih =>
    simp only [rowBytes, List.map_cons, decodeFields, Text.decodeUtf8_encodeChars,
      String.ofList_toList]
    rw [← rowBytes, ih]
    rfl

theorem Row.texts_eq_ok {row : Row} {texts : List String} (h : row.fields = rowBytes texts) :
    row.texts texts.length = .ok texts := by
  rw [Row.texts, h, if_pos (length_rowBytes texts), decodeFields_rowBytes]

theorem recordsOf_eq_ok (headers : List String) {table : List (List String)} {rows : List Row}
    (number : Nat) (hrows : rows.map Row.fields = table.map rowBytes)
    (hlength : ∀ texts ∈ table, texts.length = headers.length) :
    recordsOf headers number rows = .ok (table.map fun texts => .ofList (headers.zip texts)) := by
  induction table generalizing rows number with
  | nil =>
    rw [List.map_nil, List.map_eq_nil_iff] at hrows
    rw [hrows]
    rfl
  | cons texts table ih =>
    obtain ⟨row, rows, rfl, hrow, hrest⟩ := List.map_eq_cons_iff.mp hrows
    obtain ⟨htexts, htable⟩ := List.forall_mem_cons.mp hlength
    have hrow := Row.texts_eq_ok hrow
    rw [htexts] at hrow
    simp only [recordsOf, hrow, ih (number + 1) hrest htable]
    rfl

end Csv

/-! ## Records -/

theorem FieldList.write_of_notMem {fields : FieldList} {name : String} (h : name ∉ fields.names)
    (text : String) : fields.write name text = fields ++ [(name, text)] := by
  induction fields with
  | nil => rfl
  | cons field fields ih =>
    obtain ⟨hname, htail⟩ : ¬ name = field.1 ∧ name ∉ FieldList.names fields := by
      simpa [FieldList.names] using h
    rw [FieldList.write, if_neg (Ne.symm hname), ih htail, List.cons_append]

namespace Record

theorem fields_foldl_set {r : Record} {fields : FieldList} (h : (r.fields ++ fields).names.Nodup) :
    (fields.foldl (fun r (name, text) => r.set name text) r).fields = r.fields ++ fields := by
  induction fields generalizing r with
  | nil => exact (List.append_nil _).symm
  | cons field fields ih =>
    have hname : field.1 ∉ r.fields.names := by
      rw [FieldList.names, List.map_append, List.map_cons, List.nodup_append] at h
      exact fun hm => h.2.2 _ hm _ List.mem_cons_self rfl
    have hset : (r.set field.1 field.2).fields = r.fields ++ [field] :=
      FieldList.write_of_notMem hname field.2
    rw [List.foldl_cons, ih (by rw [hset, List.append_assoc]; exact h), hset, List.append_assoc]
    rfl

/-- A record made of fields with different names has these fields. -/
theorem fields_ofList {fields : FieldList} (h : fields.names.Nodup) :
    (ofList fields).fields = fields :=
  fields_foldl_set h

/-- The record with the given fields only, in the given order. -/
def select (r : Record) (names : List String) (h : names.Nodup) : Record where
  fields := names.map fun name => (name, r.get name)
  nodup := by
    rw [FieldList.names, List.map_map]
    exact (List.map_id names).symm ▸ h

theorem fields_select (r : Record) {names : List String} (h : names.Nodup) :
    (r.select names h).fields = names.map fun name => (name, r.get name) := rfl

/-- A record made of a header and the texts of a record under it is that record, cut to the
header. -/
theorem ofList_zip_map_get (r : Record) {names : List String} (h : names.Nodup) :
    ofList (names.zip (names.map r.get)) = r.select names h := by
  have hzip : names.zip (names.map r.get) = (r.select names h).fields := by
    rw [fields_select]
    simpa using List.zip_map' (f := id) (g := r.get) (l := names)
  rw [hzip]
  have hfields := fields_ofList (r.select names h).nodup
  cases hr : ofList (r.select names h).fields
  rw [hr] at hfields
  exact (mk.injEq ..).mpr hfields

end Record

namespace Csv

theorem rowsOf_write {fields : List String} (hne : fields ≠ [])
    (hmark : ∀ name ∈ fields.head?, name.toList.head? ≠ some '\uFEFF') (cs : List Char) :
    rowsOf (encodeChars (writeRow fields ++ cs)) =
      readRows {} (encodeChars (writeRow fields ++ cs)) := by
  refine if_neg fun hmarked => ?_
  have hhead := Text.head?_eq_some_of_isPrefix (c := '\uFEFF')
    (List.isPrefixOf_iff_prefix.mp hmarked)
  obtain ⟨name, names, rfl⟩ := List.exists_cons_of_ne_nil hne
  obtain ⟨c, ds, hds, hc⟩ := writeRow_cons name names
  rw [hds, List.cons_append, List.head?_cons, Option.some_inj] at hhead
  -- The mark needs no quotes, so it would be the first character of the first name.
  obtain rfl | rfl | ⟨-, hc⟩ := hc
  · exact absurd hhead (by decide)
  · exact absurd hhead (by decide)
  · exact hmark name rfl (hhead ▸ hc)

/-- Reading what was written for some records gives the header, and for every record its texts of
the written fields, whatever these texts hold. -/
theorem read_encodeUtf8_write {fields : List String} (hne : fields ≠ []) (hnodup : fields.Nodup)
    (hmark : ∀ name ∈ fields.head?, name.toList.head? ≠ some '\uFEFF') (records : List Record) :
    read (Text.encodeUtf8 (write fields records)) =
      .ok ⟨fields, records.map fun record => record.select fields hnodup⟩ := by
  have htable : writeRow fields ++
      records.flatMap (fun record => writeRow (fields.map record.get)) =
      (fields :: records.map fun record => fields.map record.get).flatMap writeRow := by
    rw [List.flatMap_cons, List.flatMap_map]
  have hrows := readRows_writeRow {} (fields :: records.map fun record => fields.map record.get)
    (by simp [hne])
  obtain ⟨header, rows, hread, hheader, hrest⟩ := List.map_eq_cons_iff.mp hrows
  have hrecords := recordsOf_eq_ok fields 1 hrest (by simp)
  rw [write, Text.encodeUtf8_ofList, read, rowsOf_write hne hmark, htable, hread]
  have hfields : header.texts header.fields.length = .ok fields := by
    rw [← Row.texts_eq_ok hheader, hheader, length_rowBytes]
  simp only [hfields, hrecords, List.map_map, Function.comp_def, Record.ofList_zip_map_get _ hnodup]
  rfl

namespace RoundTrip

/-- A header with a comma, a quote and the end of a line in its names, one of them empty. -/
def header : List String := ["a,b", "", "\"\r\n"]

/-- A record with texts of the same kind, one field that is not written and one that it lacks. -/
def full : Record := ⟨[("other", "x"), ("", "one\r\ntwo"), ("a,b", "say \"é\",")], by decide⟩

theorem read_encodeUtf8_write_header :
    read (Text.encodeUtf8 (write header [full, .empty])) =
      .ok ⟨header, [⟨[("a,b", "say \"é\","), ("", "one\r\ntwo"), ("\"\r\n", "")], by decide⟩,
        ⟨[("a,b", ""), ("", ""), ("\"\r\n", "")], by decide⟩]⟩ :=
  read_encodeUtf8_write (by decide) (by decide) (by decide) [full, .empty]

end RoundTrip

end Csv

end RecordScript

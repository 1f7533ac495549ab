import RecordScript.Record
import RecordScript.Text.Utf8

/-!
# Reading comma-separated values

Bytes are split into rows of fields, and only then read as text. Commas end fields, line feeds and
carriage returns end rows, and empty lines do not count. A field that starts with a quote may hold
any of these; inside it a quote is written twice. Every row has as many fields as the first one.
-/

namespace RecordScript

namespace Csv

/-- The byte that ends a field. -/
def comma : UInt8 := 0x2C

/-- The byte around a field that holds bytes with a meaning. -/
def quote : UInt8 := 0x22

/-- The byte that ends a row and a line. -/
def lineFeed : UInt8 := 0x0A

/-- The byte that ends a row but no line. -/
def carriageReturn : UInt8 := 0x0D

/-- Whether a byte ends a row. -/
def endsRow (b : UInt8) : Bool := b = lineFeed || b = carriageReturn

/-- A place in the input: the number of rows, lines and bytes before it. Lines end at line feeds and
are counted from one. -/
structure Place where
  row : Nat := 0
  line : Nat := 1
  byte : Nat := 0
deriving DecidableEq, Repr

namespace Place

/-- The place behind some bytes. -/
def past (p : Place) (bytes : List UInt8) : Place :=
  { p with line := p.line + bytes.count lineFeed, byte := p.byte + bytes.length }

end Place

/-- Where reading stands inside a row. -/
inductive FieldState where
  /-- At the start of a field. -/
  | start
  /-- In a field, outside quotes. -/
  | plain
  /-- Between quotes. -/
  | quoted
  /-- Behind a quote that ends the quoted part, unless another one follows. -/
  | afterQuote
deriving DecidableEq, Repr

/-- The fields of a row and the bytes behind it. The field being read is `field`, the fields before
it are `fields`, both in reverse order. -/
def readFields (state : FieldState) (field : List UInt8) (fields : List (List UInt8)) :
    List UInt8 → List (List UInt8) × List UInt8
  | [] => ((field.reverse :: fields).reverse, [])
  | b :: bytes =>
    match state with
    | .quoted =>
      if b = quote then readFields .afterQuote field fields bytes
      else readFields .quoted (b :: field) fields bytes
    | state =>
      if b = quote ∧ state = .start then readFields .quoted field fields bytes
      else if b = quote ∧ state = .afterQuote then readFields .quoted (b :: field) fields bytes
      else if b = comma then readFields .start [] (field.reverse :: fields) bytes
      else if endsRow b then ((field.reverse :: fields).reverse, bytes)
      else readFields .plain (b :: field) fields bytes

theorem length_snd_readFields_le (state : FieldState) (field : List UInt8)
    (fields : List (List UInt8)) (bytes : List UInt8) :
    (readFields state field fields bytes).2.length ≤ bytes.length := by
  fun_induction readFields state field fields bytes <;>
    simp only [List.length_cons, List.length_nil] <;> omega

theorem length_snd_readFields_cons_lt {state : FieldState} {field : List UInt8}
    {fields : List (List UInt8)} {b : UInt8} {bytes : List UInt8} :
    (readFields state field fields (b :: bytes)).2.length < (b :: bytes).length := by
  refine Nat.lt_succ_of_le ?_
  unfold readFields
  split <;> repeat' split
  all_goals simp only [length_snd_readFields_le, Nat.le_refl]

/-- A row of fields, with the place where reading it began. -/
structure Row where
  place : Place
  fields : List (List UInt8)
deriving DecidableEq, Repr

/-- The rows of some bytes that stand at the given place. -/
def readRows (place : Place) (bytes : List UInt8) : List Row :=
  match _h : bytes.dropWhile endsRow with
  | [] => []
  | b :: rest =>
    let row := readFields .start [] [] (b :: rest)
    let next := place.past (bytes.take (bytes.length - row.2.length))
    ⟨place, row.1⟩ :: readRows { next with row := place.row + 1 } row.2
termination_by bytes.length
decreasing_by
  have hle : (bytes.dropWhile endsRow).length ≤ bytes.length :=
    (List.dropWhile_sublist endsRow).length_le
  have hlt : (readFields .start [] [] (b :: rest)).2.length < (b :: rest).length :=
    length_snd_readFields_cons_lt
  simp_wf
  rw [_h] at hle
  simp only [List.length_cons] at hle hlt
  omega

/-- What is wrong with a row. -/
inductive RowProblem where
  /-- The row has another number of fields than the first one. -/
  | fieldCount (place : Place) (expected found : Nat)
  /-- A field is no text; `index` counts the bytes of it that are. -/
  | notText (place : Place) (field index : Nat)
deriving DecidableEq, Repr

namespace RowProblem

/-- The wording of a problem. -/
def message : RowProblem → String
  | fieldCount p expected found =>
    s!"CSV error: record {p.row} (line: {p.line}, byte: {p.byte}): " ++
      s!"found record with {found} fields, but the previous record has {expected} fields"
  | notText p field index =>
    s!"CSV parse error: record {p.row} (line {p.line}, field: {field}, byte: {p.byte}): " ++
      s!"invalid utf-8: invalid UTF-8 in field {field} near byte index {index}"

end RowProblem

/-- Why the input cannot be read. -/
inductive ReadError where
  | header (problem : RowProblem)
  /-- The row has the given number, counted from one behind the header. -/
  | row (number : Nat) (problem : RowProblem)
deriving DecidableEq, Repr

namespace ReadError

/-- What could not be read. -/
def context : ReadError → String
  | header _ => "failed to read CSV header"
  | row number _ => s!"failed to read row {number}"

/-- What is wrong there. -/
def problem : ReadError → RowProblem
  | header problem | row _ problem => problem

end ReadError

/-- The texts of the fields of a row, where the field at hand has the given number. -/
def decodeFields (place : Place) (number : Nat) :
    List (List UInt8) → Except RowProblem (List String)
  | [] => .ok []
  | field :: fields =>
    match Text.decodeUtf8 field with
    | .error index => .error (.notText place number index)
    | .ok text => (decodeFields place (number + 1) fields).map (text :: ·)

/-- The texts of a row that must have as many fields as expected. -/
def Row.texts (row : Row) (expected : Nat) : Except RowProblem (List String) :=
  if row.fields.length = expected then decodeFields row.place 0 row.fields
  else .error (.fieldCount row.place expected row.fields.length)

/-- A header with the records below it. -/
structure Sheet where
  headers : List String
  records : List Record
deriving DecidableEq

/-- The records of rows under a header, where the first row has the given number. -/
def recordsOf (headers : List String) (number : Nat) : List Row → Except ReadError (List Record)
  | [] => .ok []
  | row :: rows =>
    match row.texts headers.length with
    | .error problem => .error (.row number problem)
    | .ok texts =>
      (recordsOf headers (number + 1) rows).map (Record.ofList (headers.zip texts) :: ·)

/-- The mark that may stand in front of a text in the encoding UTF-8. -/
def byteOrderMark : List UInt8 := [0xEF, 0xBB, 0xBF]

/-- The rows of an input, which may start with a byte order mark. -/
def rowsOf (bytes : List UInt8) : List Row :=
  if byteOrderMark.isPrefixOf bytes then
    match readRows { byte := 3 } (bytes.drop 3) with
    | [] => []
    | row :: rows => { row with place := {} } :: rows
  else readRows {} bytes

/-- Reads a header and the records below it. -/
def read (bytes : List UInt8) : Except ReadError Sheet :=
  match rowsOf bytes with
  | [] => .ok ⟨[], []⟩
  | header :: rows =>
    match header.texts header.fields.length with
    | .error problem => .error (.header problem)
    | .ok headers => (recordsOf headers 1 rows).map (⟨headers, ·⟩)

end Csv

end RecordScript

import RecordScript.Record

/-!
# Writing comma-separated values

A header of field names, and a row for every record with the texts of these fields. A field is
quoted if it holds a byte that has a meaning, and a row that would leave no trace is written as two
quotes.
-/

namespace RecordScript

namespace Csv

/-- Whether a character would be read as something else outside quotes. -/
def needsQuotes (c : Char) : Bool := c = ',' || c = '"' || c = '\n' || c = '\r'

/-- The characters of a field between quotes. -/
def doubleQuotes (cs : List Char) : List Char :=
  cs.flatMap fun c => if c = '"' then ['"', '"'] else [c]

/-- The written form of a field. -/
def writeField (cs : List Char) : List Char :=
  if cs.any needsQuotes then '"' :: (doubleQuotes cs ++ ['"']) else cs

/-- The written form of the fields of a row, with commas between them. -/
def writeFields : List String → List Char
  | [] => []
  | [field] => writeField field.toList
  | field :: fields => writeField field.toList ++ ',' :: writeFields fields

/-- The written form of a row. -/
def writeRow (fields : List String) : List Char :=
  let body := writeFields fields
  (if body = [] then ['"', '"'] else body) ++ ['\n']

/-- The written form of the given fields of some records. -/
def write (fields : List String) (records : List Record) : String :=
  String.ofList (writeRow fields ++ records.flatMap fun record => writeRow (fields.map record.get))

end Csv

end RecordScript

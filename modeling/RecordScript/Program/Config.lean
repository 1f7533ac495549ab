/-!
# Configuration

What a program and its host fix before the first record: how patterns are compared, which fields are
written, in which order the records are taken, and the names of the encodings on both sides.
-/

namespace RecordScript

/-- How a text to the right of the match sign is compared with its subject. -/
inductive StringMatch where
  /-- The text occurs anywhere in the subject. -/
  | contains
  /-- The text is the whole subject. -/
  | exact
deriving DecidableEq, Repr

/-- The names of the encodings that the host reads and writes. -/
structure Protocols where
  input : String := "csv"
  output : String := "csv"
deriving DecidableEq, Repr

/-- The settings that a host supplies. -/
structure LoadOptions where
  protocols : Protocols := {}
  stringMatch : StringMatch := .contains
deriving DecidableEq, Repr

/-- The configuration of a program: what its header says and what its host supplies. -/
structure Config where
  caseInsensitive : Bool := false
  defaultField : Option String := none
  outputFields : Option (List String) := none
  reverse : Bool := false
  stringMatch : StringMatch := .contains
  protocols : Protocols := {}
deriving DecidableEq, Repr

namespace Config

/-- The configuration of a program without a header. -/
def ofOptions (options : LoadOptions) : Config :=
  { stringMatch := options.stringMatch, protocols := options.protocols }

end Config

end RecordScript

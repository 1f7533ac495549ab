import RecordScript.Builtin.Basic
import RecordScript.Source.Library
import RecordScript.Syntax.Problem

/-!
# Loading errors

Why a program cannot be loaded. All of it is found without a record.
-/

namespace RecordScript

/-- What is wrong with a directive. -/
inductive DirectiveFault where
  /-- A setting is given a second time. -/
  | repeated (name : String)
  /-- An argument is no text literal. -/
  | notLiteral (name : String)
  /-- A setting without arguments has some. -/
  | takesNone (name : String)
  /-- The default field is not given by one name. -/
  | notOneField
  /-- The list of output fields is empty. -/
  | noFields
  /-- The header has no such setting. -/
  | unknown (name : String)
  /-- A header directive stands among the statements. -/
  | misplaced (name : String)
  /-- No directive of this name can stand among the statements. -/
  | unknownInline (name : String)
  /-- An import does not name one path. -/
  | notOnePath
deriving DecidableEq, Repr

namespace DirectiveFault

/-- The wording of a fault. -/
def message : DirectiveFault → String
  | repeated name => s!"`@{name}` is given more than once"
  | notLiteral name => s!"`@{name}` takes string literal arguments"
  | takesNone name => s!"`@{name}` takes no arguments"
  | notOneField => "`@default_field` takes exactly one field name"
  | noFields => "`@output_fields` takes at least one field name"
  | unknown name => s!"unknown directive `@{name}`"
  | misplaced name => s!"header directive `@{name}` must come before the first statement"
  | unknownInline name => s!"unknown directive `@@{name}`"
  | notOnePath => "`@@import` takes exactly one path"

end DirectiveFault

/-- Why a program cannot be loaded. -/
inductive LoadError where
  /-- A text is no program. -/
  | badText (error : SyntaxError)
  | badDirective (position : Position) (fault : DirectiveFault)
  /-- A program imports itself, along the given chain of sources. -/
  | importCycle (chain : List SourcePath)
  /-- An import has no source. -/
  | badImport (path : String) (position : Position) (problem : LookupProblem)
  /-- The program itself has no source. -/
  | unreadable (path : String) (problem : LookupProblem)
  | unknownFunction (name : String) (position : Position)
  | wrongArity (function : Builtin) (found : Nat) (position : Position)
  /-- A bare pattern stands in a program without a default field. -/
  | missingDefaultField (position : Position)
deriving DecidableEq, Repr

namespace LoadError

/-- The wording of an error. -/
def message : LoadError → String
  | badText e => s!"syntax error at {e.position.render}: {e.problem.message}"
  | badDirective position fault => s!"directive error at {position.render}: {fault.message}"
  | importCycle chain => "import cycle: " ++ " -> ".intercalate (chain.map SourcePath.text)
  | badImport path position problem =>
    s!"cannot import {Text.quote path} at {position.render}: {problem.message}"
  | unreadable path problem => s!"cannot read program {Text.quote path}: {problem.message}"
  | unknownFunction name position => s!"unknown function `{name}` at {position.render}"
  | wrongArity function found position =>
    s!"function `{function.name}` takes {function.arity.render} argument(s) " ++
      s!"but {found} were given at {position.render}"
  | missingDefaultField position =>
    s!"implicit match at {position.render} needs a `@default_field` directive"

/-- The wording of the error with the phase that it ended. -/
def report (e : LoadError) : String := s!"error while loading program: {e.message}"

/-- The problem of a library that lies behind the error. -/
def cause? : LoadError → Option LookupProblem
  | badImport _ _ problem | unreadable _ problem => some problem
  | _ => none

end LoadError

end RecordScript

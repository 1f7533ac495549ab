import RecordScript.Loading.Error
import RecordScript.Program.Config
import RecordScript.Syntax.Statement

/-!
# Headers

The configuration that the directives before the first statement describe. Each setting can be given
once, in any order, and all arguments are text literals.
-/

namespace RecordScript

variable [RegexEngine]

/-- What a header can set. -/
inductive Setting where
  | caseInsensitive
  | reverse
  | defaultField
  | outputFields
deriving DecidableEq, Repr

namespace Setting

/-- The setting of the given name. -/
def ofName? : String → Option Setting
  | "case_insensitive" => some caseInsensitive
  | "reverse" => some reverse
  | "default_field" => some defaultField
  | "output_fields" => some outputFields
  | _ => none

end Setting

namespace Directive

/-- The text that an argument is, if it is a text literal. -/
def literalText? : Expr → Option String
  | .literal _ (.string s) => some s
  | _ => none

/-- The texts that the arguments are. -/
def texts (d : Directive) : Except DirectiveFault (List String) :=
  match d.args.mapM literalText? with
  | some texts => .ok texts
  | none => .error (.notLiteral d.name)

/-- A configuration with the setting that a header directive describes. -/
def configure (config : Config) (d : Directive) : Except DirectiveFault Config := do
  let args ← texts d
  match Setting.ofName? d.name, args with
  | some .caseInsensitive, [] => return { config with caseInsensitive := true }
  | some .reverse, [] => return { config with reverse := true }
  | some .caseInsensitive, _ :: _ | some .reverse, _ :: _ => throw (.takesNone d.name)
  | some .defaultField, [field] => return { config with defaultField := some field }
  | some .defaultField, _ => throw .notOneField
  | some .outputFields, [] => throw .noFields
  | some .outputFields, fields => return { config with outputFields := some fields }
  | none, _ => throw (.unknown d.name)

end Directive

namespace Config

/-- A configuration with what the directives of a header describe, where the directives before them
have the names `seen`. -/
def extend (config : Config) (seen : List String) : List Directive → Except LoadError Config
  | [] => .ok config
  | d :: ds =>
    if seen.contains d.name then .error (.badDirective d.position (.repeated d.name))
    else
      match Directive.configure config d with
      | .ok config => extend config (d.name :: seen) ds
      | .error fault => .error (.badDirective d.position fault)

/-- The configuration that a header describes. -/
def ofHeader (options : LoadOptions) (header : List Directive) : Except LoadError Config :=
  (ofOptions options).extend [] header

end Config

end RecordScript

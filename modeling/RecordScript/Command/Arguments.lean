import RecordScript.Run
import RecordScript.Text.Quoted

/-!
# Arguments

The arguments of the command: a program, an optional input, options with a value and flags. An
argument that starts with a dash is an option or a flag, unless it is a lone dash or stands behind
two dashes.
-/

namespace RecordScript

namespace Command

/-- An argument that takes a value. -/
inductive ValueOption where
  | output
  | onError
deriving DecidableEq, Repr

/-- An argument that is given or not. -/
inductive Flag where
  | exactMatch
  | parallel
  | help
  | version
deriving DecidableEq, Repr

namespace ValueOption

/-- The name behind two dashes. -/
def long : ValueOption → String
  | output => "output"
  | onError => "on-error"

/-- The option as messages show it. -/
def usage (o : ValueOption) : String := s!"--{o.long} <{o.long}>"

/-- The option with the given name. -/
def ofLong? (name : String) : Option ValueOption := [output, onError].find? (·.long = name)

/-- The option with the given letter. -/
def ofLetter? (c : Char) : Option ValueOption := if c = 'o' then some output else none

end ValueOption

namespace Flag

/-- The name behind two dashes. -/
def long : Flag → String
  | exactMatch => "exact-match"
  | parallel => "parallel"
  | help => "help"
  | version => "version"

/-- The flag as messages show it. -/
def usage (f : Flag) : String := s!"--{f.long}"

/-- The flag with the given name. -/
def ofLong? (name : String) : Option Flag :=
  [exactMatch, parallel, help, version].find? (·.long = name)

/-- The flag with the given letter. -/
def ofLetter? (c : Char) : Option Flag :=
  if c = 'h' then some help else if c = 'V' then some version else none

end Flag

/-- What is wrong with the arguments. -/
inductive UsageProblem where
  | missingProgram
  | unexpected (arg : String)
  | missingValue (option : ValueOption)
  | unknownPolicy (text : String)
  | repeatedOption (option : ValueOption)
  | repeatedFlag (flag : Flag)
deriving DecidableEq, Repr

namespace UsageProblem

/-- The sentence about an argument that is given too often. -/
def repeatedMessage (usage : String) : String :=
  s!"The argument '{usage}' was provided more than once, but cannot be used multiple times"

/-- The wording of a problem. -/
def message : UsageProblem → String
  | missingProgram => "error: The following required arguments were not provided:"
  | unexpected arg =>
    s!"error: Found argument '{arg}' which wasn't expected, or isn't valid in this context"
  | missingValue o =>
    s!"error: The argument '{o.usage}' requires a value but none was supplied"
  | unknownPolicy text =>
    s!"error: Invalid value for '{ValueOption.onError.usage}': " ++
      s!"unknown error policy {Text.quote text}"
  | repeatedOption o => s!"error: {repeatedMessage o.usage}"
  | repeatedFlag f => s!"error: {repeatedMessage f.usage}"

end UsageProblem

/-- What is given to a run of the command. -/
structure Options where
  program : String
  input : Option String
  output : Option String
  policy : ErrorPolicy
  exactMatch : Bool
  parallel : Bool
deriving DecidableEq, Repr

/-- What the arguments ask for. -/
inductive Request where
  | run (options : Options)
  | help
  | version
deriving DecidableEq, Repr

/-- Why reading the arguments ends early. -/
inductive Stop where
  | request (flag : Flag)
  | problem (problem : UsageProblem)
deriving DecidableEq, Repr

/-- The arguments that have been read: the paths in order, the options in order, their values in
order, the flags in order, the option that still waits for its value, and whether two dashes have
been read. -/
structure Given where
  paths : List String := []
  options : List ValueOption := []
  values : List (ValueOption × String) := []
  flags : List Flag := []
  waiting : Option ValueOption := none
  literal : Bool := false
deriving DecidableEq, Repr

namespace Given

/-- The most paths that the command takes. -/
def pathLimit : Nat := 2

/-- Takes an argument as a path. -/
def addPath (g : Given) (arg : String) : Except Stop Given :=
  if g.paths.length < pathLimit then .ok { g with paths := g.paths ++ [arg] }
  else .error (.problem (.unexpected arg))

/-- Takes the value of an option. -/
def addValue (g : Given) (o : ValueOption) (value : String) : Given :=
  { g with values := g.values ++ [(o, value)], waiting := none }

/-- Takes an option with the value that is written behind it, if there is one; equality signs in
front of it do not count. -/
def addOption (g : Given) (o : ValueOption) (value : Option (List Char)) : Given :=
  let g := { g with options := g.options ++ [o] }
  match value with
  | some cs => g.addValue o (String.ofList (cs.dropWhile (· = '=')))
  | none => { g with waiting := some o }

/-- Takes a flag. -/
def addFlag (g : Given) (f : Flag) : Except Stop Given :=
  match f with
  | .help | .version => .error (.request f)
  | f => .ok { g with flags := g.flags ++ [f], waiting := none }

/-- Takes an argument behind two dashes. -/
def addLong (g : Given) (cs : List Char) : Except Stop Given :=
  let name := String.ofList (cs.takeWhile (· ≠ '='))
  let value := match cs.dropWhile (· ≠ '=') with
    | _ :: value => some value
    | [] => none
  match ValueOption.ofLong? name, Flag.ofLong? name with
  | some o, _ => .ok (g.addOption o value)
  | none, some f => g.addFlag f
  | none, none => .error (.problem (.unexpected s!"--{name}"))

/-- Takes an argument behind one dash. -/
def addShort (g : Given) : List Char → Except Stop Given
  | [] => .ok g
  | c :: cs =>
    match ValueOption.ofLetter? c, Flag.ofLetter? c with
    | some o, _ => .ok (g.addOption o (if cs = [] then none else some cs))
    | none, some f => g.addFlag f
    | none, none => .error (.problem (.unexpected (String.ofList ['-', c])))

/-- Takes an argument that is no option and no flag. -/
def addPlain (g : Given) (arg : String) : Except Stop Given :=
  match g.waiting with
  | some o => .ok (g.addValue o arg)
  | none => g.addPath arg

/-- Takes the next argument. -/
def add (g : Given) (arg : String) : Except Stop Given :=
  if g.literal then g.addPath arg
  else
    match arg.toList with
    | ['-', '-'] => .ok { g with literal := true }
    | '-' :: '-' :: cs => g.addLong (cs.dropWhile (· = '-'))
    | '-' :: c :: cs => g.addShort (c :: cs)
    | _ => g.addPlain arg

/-- The value of an option. -/
def value? (g : Given) (o : ValueOption) : Option String := g.values.lookup o

/-- Fails where an option has been given without a value or more than once. -/
def checkOption (g : Given) (o : ValueOption) : Except UsageProblem Unit := do
  if 1 < g.options.count o then throw (.repeatedOption o)

/-- Fails where a flag has been given more than once. -/
def checkFlag (g : Given) (f : Flag) : Except UsageProblem Unit := do
  if 1 < g.flags.count f then throw (.repeatedFlag f)

/-- The policy of the given name. -/
def policyOf? : String → Option ErrorPolicy
  | "abort" => some .abort
  | "skip" => some .skip
  | "keep" => some .keep
  | _ => none

/-- The policy that the arguments choose; without a choice the run is aborted. -/
def policy (g : Given) : Except UsageProblem ErrorPolicy :=
  match g.value? .onError with
  | none => .ok .abort
  | some text =>
    match policyOf? text with
    | some policy => .ok policy
    | none => .error (.unknownPolicy text)

/-- Fails where the output has no value. -/
def checkOutput (g : Given) : Except UsageProblem Unit := do
  if g.options.contains .output && (g.value? .output).isNone then throw (.missingValue .output)

/-- What the arguments amount to. -/
def options? (g : Given) : Except UsageProblem Options := do
  if g.waiting = some .output then g.checkOutput
  match g.paths with
  | [] => throw .missingProgram
  | program :: others =>
    g.checkOutput
    g.checkOption .output
    let policy ← g.policy
    g.checkOption .onError
    g.checkFlag .exactMatch
    g.checkFlag .parallel
    return {
      program
      input := others.head?
      output := g.value? .output
      policy
      exactMatch := g.flags.contains .exactMatch
      parallel := g.flags.contains .parallel }

end Given

/-- What the arguments ask for. -/
def Request.ofArguments (args : List String) : Except UsageProblem Request :=
  match args.foldlM Given.add {} with
  | .ok given => given.options?.map .run
  | .error (.request .version) => .ok .version
  | .error (.request _) => .ok .help
  | .error (.problem problem) => .error problem

end Command

end RecordScript

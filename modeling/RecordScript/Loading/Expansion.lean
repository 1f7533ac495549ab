import RecordScript.Grammar.Builder
import RecordScript.Loading.Header
import RecordScript.Program.Basic
import RecordScript.Source.Library

/-!
# Expansion of imports

The steps of a program with the steps of every imported program in the place of its import. The
sources that are being expanded stand on a stack, so that a program that imports itself is found;
every import leaves the stack as it has found it, whether it succeeds or fails.
-/

namespace RecordScript

variable [RegexEngine]

/-- The sources that are being expanded: in order, outermost first, and as a set. -/
structure ImportStack where
  chain : List SourcePath
  active : List SourcePath
deriving DecidableEq, Repr

namespace ImportStack

/-- The stack of a program that has not imported anything yet. -/
def start (id : SourcePath) : ImportStack := ⟨[id], [id]⟩

/-- Whether a source is being expanded. -/
def isActive (s : ImportStack) (id : SourcePath) : Bool := s.active.any id.same

/-- The stack with one more source. -/
def push (s : ImportStack) (id : SourcePath) : ImportStack := ⟨s.chain ++ [id], id :: s.active⟩

/-- The stack without its last source, which is `id`. -/
def pop (s : ImportStack) (id : SourcePath) : ImportStack :=
  ⟨s.chain.dropLast, s.active.filter (!id.same ·)⟩

end ImportStack

/-- A computation that changes the stack of imports and may fail. -/
abbrev Expansion := ExceptT LoadError (StateM ImportStack)

namespace Expansion

/-- Runs a computation with one more source on the stack. -/
def within {α : Type} (id : SourcePath) (x : Expansion α) : Expansion α := fun stack =>
  let (result, stack) := x (stack.push id)
  (result, stack.pop id)

/-- The path that an import names. -/
def importPath (d : Directive) : Except DirectiveFault String := do
  if !d.inline then throw (.misplaced d.name)
  if d.name ≠ "import" then throw (.unknownInline d.name)
  match ← Directive.texts d with
  | [path] => return path
  | _ => throw .notOnePath

/-- The source that a directive among the statements imports into a program of the given directory.
-/
def importSource (resolve : Resolver) (dir : Option SourcePath) (d : Directive) :
    Except LoadError Source :=
  match importPath d with
  | .error fault => .error (.badDirective d.position fault)
  | .ok path =>
    match resolve path dir with
    | .error problem => .error (.badImport path d.position problem)
    | .ok source => .ok source

/-- The tree of a source. -/
def readSource (source : Source) : Except LoadError SourceFile :=
  (SourceFile.read source.id.text source.text).mapError .badText

mutual

/-- The steps that a statement stands for, where `import` gives those of a directive. -/
def expandStatement (splice : Directive → Expansion (List Step)) :
    Statement → Expansion (List Step)
  | .assign pos field value => return [.assign pos field value]
  | .call pos function args => return [.call pos function args]
  | .directive d => splice d
  | .rule branches otherwise => do
    let arms ← expandBranches splice branches
    match otherwise with
    | some body => return [.rule arms (some (← expandBlock splice body))]
    | none => return [.rule arms none]

/-- The arms that branches stand for. -/
def expandBranches (splice : Directive → Expansion (List Step)) :
    List Branch → Expansion (List Arm)
  | [] => return []
  | .mk condition body :: branches => do
    let body ← expandBlock splice body
    let arms ← expandBranches splice branches
    return .mk condition body :: arms

/-- The steps that statements stand for. -/
def expandBlock (splice : Directive → Expansion (List Step)) :
    List Statement → Expansion (List Step)
  | [] => return []
  | statement :: statements => do
    let steps ← expandStatement splice statement
    let others ← expandBlock splice statements
    return steps ++ others

end

/-- The steps that a directive imports, where at most `depth` imports can be nested. A cycle shows
before `depth` runs out, if `depth` exceeds the number of sources. -/
def splice (resolve : Resolver) : Nat → Option SourcePath → Directive → Expansion (List Step)
  | 0, _, _ => do throw (.importCycle (← get).chain)
  | depth + 1, dir, d => do
    let source ← importSource resolve dir d
    let stack ← get
    if stack.isActive source.id then throw (.importCycle (stack.chain ++ [source.id]))
    let file ← readSource source
    within source.id (expandBlock (splice resolve depth source.id.parent?) file.statements)

/-- The steps of a program with the given statements, where at most `depth` imports can be nested.
-/
def expandWithin (resolve : Resolver) (depth : Nat) (id : SourcePath)
    (statements : List Statement) : Except LoadError (List Step) :=
  (expandBlock (splice resolve depth id.parent?) statements (ImportStack.start id)).1

/-- The steps of a program with the given statements. -/
def expand (library : Library) (id : SourcePath) (statements : List Statement) :
    Except LoadError (List Step) :=
  expandWithin library (library.ids.length + 2) id statements

end Expansion

end RecordScript

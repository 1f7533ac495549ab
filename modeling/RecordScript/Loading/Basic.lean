import RecordScript.Loading.Expansion
import RecordScript.Loading.Preparation

/-!
# Loading programs

A program is loaded from a source and a library for its imports. The header of the source becomes
the configuration, the imports are expanded, and the steps are prepared; the headers of imported
programs do not count.
-/

namespace RecordScript

variable [RegexEngine]

namespace Program

/-- The program of a source, where `expand` gives the steps of its statements. -/
def ofSourceWith (expand : SourcePath → List Statement → Except LoadError (List Step))
    (options : LoadOptions) (source : Source) : Except LoadError Program := do
  let file ← Expansion.readSource source
  let config ← Config.ofHeader options file.header
  let steps ← expand source.id file.statements
  let steps ← prepareSteps config steps
  return { config, steps }

/-- The program of a source with imports that a resolver answers, where at most `depth` imports can
be nested. -/
def ofSourceWithin (resolve : Resolver) (depth : Nat) (options : LoadOptions) (source : Source) :
    Except LoadError Program :=
  ofSourceWith (Expansion.expandWithin resolve depth) options source

/-- The program of a source. -/
def ofSource (library : Library) (options : LoadOptions) (source : Source) :
    Except LoadError Program :=
  ofSourceWith (Expansion.expand library) options source

/-- The program at a path of the library. -/
def load (library : Library) (options : LoadOptions) (path : String) : Except LoadError Program :=
  match library.resolve path none with
  | .ok source => ofSource library options source
  | .error problem => .error (.unreadable path problem)

/-- The program of a text that has the given name in a directory; imports are read from that
directory. -/
def ofText (library : Library) (options : LoadOptions) (text : String) (name : SourcePath)
    (dir : Option SourcePath) : Except LoadError Program :=
  let id := match dir with
    | some dir => dir.join name
    | none => name
  ofSource library options ⟨id, text⟩

end Program

end RecordScript

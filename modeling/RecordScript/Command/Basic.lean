import RecordScript.Command.Arguments
import RecordScript.Command.Failure
import RecordScript.Csv.Writer
import RecordScript.Loading.Basic
import RecordScript.Source.FileSystem

/-!
# The command

The command takes a sheet of comma-separated values through a program. It is a function from a file
system and the bytes of its input to a report, which holds the file system that it leaves. The
program is loaded before the input is opened, and the output is made only when the whole run has
succeeded.
-/

namespace RecordScript

variable [RegexEngine]

namespace Command

/-- What a run of the command leaves behind. -/
structure Report where
  succeeded : Bool
  stdout : String
  stderr : String
  files : FileSystem

/-- The name and version of the command. -/
def title : String := "edict 0.1.0"

/-- The text that explains the command. -/
def helpText : String := title ++ "
Transform CSV records with an edict program

USAGE:
    edict [FLAGS] [OPTIONS] <program> [input]

FLAGS:
        --exact-match    Match string patterns against the whole value instead of a substring
    -h, --help           Prints help information
        --parallel       Process records on all cores
    -V, --version        Prints version information

OPTIONS:
        --on-error <on-error>    What to do with a record that fails: abort, skip or keep [default: abort]
    -o, --output <output>        Output CSV; standard output when omitted

ARGS:
    <program>    Program to run
    <input>      Input CSV; standard input when omitted
"

namespace Options

/-- The settings that the arguments give to the program. -/
def loadOptions (o : Options) : LoadOptions :=
  { stringMatch := if o.exactMatch then .exact else .contains }

end Options

/-- The bytes of the input: those of a file, or those that are given to the command. -/
def inputBytes (fs : FileSystem) (stdin : List UInt8) :
    Option String → Except Failure (List UInt8)
  | none => .ok stdin
  | some path =>
    match fs.locate ⟨path⟩ with
    | .error problem => .error (.input path problem)
    | .ok names => (fs.readNames names).mapError .noBytes

/-- Writes a text to a file, or leaves it to the standard output: the text there, and the file
system. -/
def writeOutput (fs : FileSystem) (text : String) :
    Option String → Except Failure (String × FileSystem)
  | none => .ok (text, fs)
  | some path =>
    match fs.locateOutput ⟨path⟩ with
    | .error problem => .error (.output path problem)
    | .ok names => .ok ("", fs.write names (Text.encodeUtf8 text))

/-- Takes the input through the program, up to the text that is to be written. Where records may be
processed in any order, they are taken one after another as well, which is one such order. -/
def transform (fs : FileSystem) (stdin : List UInt8) (o : Options) : Outcome Failure String := do
  let program ← Outcome.ofExcept
    ((Program.load fs.toLibrary o.loadOptions o.program).mapError .program)
  let bytes ← Outcome.ofExcept (inputBytes fs stdin o.input)
  let sheet ← Outcome.ofExcept ((Csv.read bytes).mapError .sheet)
  let out ← (program.run o.policy sheet.records).mapError .record
  return Csv.write (program.fields sheet.headers) out.records

/-- Messages as lines. -/
def lines (log : List String) : String := String.join (log.map (· ++ "\n"))

/-- Runs the command. -/
def run (fs : FileSystem) (stdin : List UInt8) (o : Options) : Report :=
  let x := transform fs stdin o
  match x.result.bind (writeOutput fs · o.output) with
  | .ok (stdout, files) => ⟨true, stdout, lines x.log, files⟩
  | .error failure => ⟨false, "", lines x.log ++ failure.report, fs⟩

/-- Does what the arguments ask for. -/
def execute (fs : FileSystem) (stdin : List UInt8) (args : List String) : Report :=
  match Request.ofArguments args with
  | .ok (.run o) => run fs stdin o
  | .ok .help => ⟨true, helpText, "", fs⟩
  | .ok .version => ⟨true, title ++ "\n", "", fs⟩
  | .error problem => ⟨false, "", problem.message ++ "\n", fs⟩

end Command

end RecordScript

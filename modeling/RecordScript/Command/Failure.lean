import RecordScript.Csv.Reader
import RecordScript.Loading.Error
import RecordScript.Run

/-!
# Failures of the command

Why a run of the command fails, and how it is reported: what happened, and below it what caused it,
each cause behind its number if there are several.
-/

namespace RecordScript

variable [RegexEngine]

namespace Command

/-- Why a run of the command fails. -/
inductive Failure where
  | program (error : LoadError)
  /-- The input cannot be opened. -/
  | input (path : String) (problem : LookupProblem)
  /-- The input can be opened and gives no bytes. -/
  | noBytes (problem : LookupProblem)
  | sheet (error : Csv.ReadError)
  | record (error : RecordError)
  /-- The output cannot be made. -/
  | output (path : String) (problem : LookupProblem)
deriving DecidableEq

namespace Failure

/-- What happened. -/
def headline : Failure → String
  | program e => e.report
  | input path _ => s!"cannot open {path}"
  | noBytes _ => "failed to read CSV header"
  | sheet e => e.context
  | record e => e.report
  | output path _ => s!"cannot create {path}"

/-- What caused it, the nearest cause first. -/
def causes : Failure → List String
  | program e => e.message :: (e.cause?.map LookupProblem.message).toList
  | input _ problem | noBytes problem | output _ problem => [problem.message]
  | sheet e => [e.problem.message]
  | record e => [e.message, e.error.message]

/-- A text with the mark in front of its first line and as many blanks in front of the others. -/
def hanging (mark : String) (text : String) : String :=
  let blanks := String.ofList (List.replicate mark.length ' ')
  mark ++ ("\n" ++ blanks).intercalate (text.splitOn "\n")

/-- The mark in front of the cause with the given number. -/
def mark (number : Nat) : String :=
  let digits := s!"{number}"
  String.ofList (List.replicate (5 - digits.length) ' ') ++ digits ++ ": "

/-- The lines about the causes. -/
def causeLines : List String → List String
  | [] => []
  | [cause] => [hanging "    " cause]
  | causes => (List.range causes.length).zipWith (fun number => hanging (mark number)) causes

/-- The report of a failure. -/
def report (f : Failure) : String :=
  let causes := causeLines f.causes
  s!"Error: {f.headline}\n\nCaused by:\n" ++ String.join (causes.map (· ++ "\n"))

end Failure

end Command

end RecordScript

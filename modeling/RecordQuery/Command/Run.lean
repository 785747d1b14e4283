import RecordQuery.Command.Arguments
import RecordQuery.Command.Check
import RecordQuery.Command.Reference

/-!
# Running the command

What the command writes and how it ends, given its arguments and the text it reads.  The status
is 0 for an answer, 1 for a failure of the command itself and 2 for wrong arguments.

* `Report` — the status, the output and the complaint;
* `report` — the report of some arguments.
-/

namespace RecordQuery.Command

open Arguments

/-- How the command ends. -/
structure Report where
  status : Nat
  output : String
  complaint : String
  deriving DecidableEq

namespace Report

/-- An answer. -/
def answer (output : String) : Report := ⟨0, output, ""⟩

/-- A failure of the command itself. -/
def failure (complaint : String) : Report := ⟨1, "", complaint ++ "\n"⟩

/-- Wrong arguments. -/
def misuse : Report := ⟨2, "", "error: wrong arguments\n"⟩

end Report

/-- The name and the version of the command. -/
def versionText : String := "sift 0.1.0\n"

/-- How the command is used. -/
def usageText : String := "Usage: sift [OPTIONS] <COMMAND>\n"

/-- The report of a check. -/
def reportCheck (options : CheckOptions) : Report :=
  match check options with
  | .error (.parse e) => .failure (e.render options.query.toList)
  | .error e => .failure e.message
  | .ok result =>
    let complaint := match result with
      | .printed index _ => "print reached at record " ++ integerText index ++ "\n"
      | _ => ""
    match result.text? options.pretty with
    | some text => ⟨0, text ++ "\n", complaint⟩
    | none => .answer "Syntax is valid\n"

/-- The report of an invocation, given what reading its input came to. -/
def reportInvocation (input : Except String (Option String)) : Invocation → Report
  | .check query _ pretty readOnly showResults skipErrors =>
    match input with
    | .error complaint => .failure complaint
    | .ok text => reportCheck ⟨query, text, pretty, readOnly, showResults, skipErrors⟩
  | .docs => .answer Reference.overview
  | .doc category =>
    match Reference.textOf? category with
    | some text => .answer text
    | none => .failure (Reference.unknownMessage category)

/-- The source that an invocation reads, if it reads one. -/
def sourceOf? : Invocation → Option Source
  | .check _ source _ _ _ _ => some source
  | .docs | .doc _ => none

/-- The report of some arguments; `read` says what reading a file or the standard input comes
to, and there may be nothing to read. -/
def report (read : Source → Except String (Option String)) (arguments : List String) : Report :=
  match readArguments arguments with
  | .help => .answer usageText
  | .version => .answer versionText
  | .misuse => .misuse
  | .run invocation =>
    let input := match sourceOf? invocation with
      | some (.inline text) => .ok (some text)
      | some source => read source
      | none => .ok none
    reportInvocation input invocation

end RecordQuery.Command

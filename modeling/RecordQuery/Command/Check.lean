import RecordQuery.Json.Reader
import RecordQuery.Json.Record
import RecordQuery.Json.Writer
import RecordQuery.Query

/-!
# Checking records

A query is run over records in JSON: an array is a collection of records, and anything else is
a single record.

* `CheckOptions` — what to run, and how;
* `check` — the records that are kept or, if asked for, the result of every record;
* `CheckError` — why there is no answer.
-/

namespace RecordQuery

/-- What to run, and how. -/
structure CheckOptions where
  query : String
  /-- The records, as JSON. -/
  input : Option String
  /-- The answer is written on several lines. -/
  pretty : Bool
  /-- The query is read and not run. -/
  readOnly : Bool
  /-- The results of all records are asked for, and not the records that are kept. -/
  showResults : Bool
  /-- Records that fail are left out. -/
  skipErrors : Bool

namespace CheckOptions

/-- What happens to a record that fails. -/
def policy (options : CheckOptions) : ErrorPolicy :=
  if options.skipErrors then .skipRecord else .failFast

end CheckOptions

/-- The answer of a check. -/
inductive CheckResult where
  /-- The query can be read. -/
  | valid
  /-- The records that are kept. -/
  | kept (records : Json)
  /-- The result of every record; a record that failed and is left out has `null`. -/
  | results (results : Json)
  /-- A record printed a value. -/
  | printed (index : Nat) (value : Json)

/-- Why there is no answer. -/
inductive CheckError where
  | parse (e : ParseError)
  | filter (e : FilterError)
  | json
  | noInput

namespace CheckError

/-- The wording of an error. -/
def message : CheckError → String
  | parse e => "Parse error: " ++ e.message
  | filter e => "Evaluation error: " ++ e.message
  | json => "Invalid JSON"
  | noInput => "No input provided. Use --input, --file or pipe JSON to stdin."

end CheckError

/-- The records of a JSON text. -/
def readRecords (input : String) : Except CheckError (List Value) :=
  match Json.read? input with
  | none => .error .json
  | some (.array items) => .ok (items.map Json.toValue)
  | some single => .ok [single.toValue]

/-- The results of records from a number on, before they are written as JSON: nothing for a
record that failed and is left out. -/
def resultsFrom (query : Query) (policy : ErrorPolicy) (index : Nat) :
    List Value → Except FilterError (List (Option Value))
  | [] => .ok []
  | record :: records => do
    let result ← match query.evaluate record with
      | .value x => .ok x.toValue
      | .print v => .error (.print index v)
      | .failure e => .ok (.error e)
    let shown ← match result with
      | .ok v => .ok (some v)
      | .error e => if policy = .skipRecord then .ok none else .error (.eval index e)
    let rest ← resultsFrom query policy (index + 1) records
    .ok (shown :: rest)

/-- A result in JSON. -/
def resultJson : Option Value → Json
  | some v => v.toJson
  | none => .null

/-- The answer to a failed run: a printed value is an answer of its own. -/
def answerFailure : FilterError → Except CheckError CheckResult
  | .print index v => .ok (.printed index v.toJson)
  | e => .error (.filter e)

/-- Runs a query over records. -/
def runQuery (options : CheckOptions) (query : Query) (records : List Value) :
    Except CheckError CheckResult :=
  if options.showResults then
    match resultsFrom query options.policy 0 records with
    | .ok results => .ok (.results (.array (results.map resultJson)))
    | .error e => answerFailure e
  else
    match query.filter options.policy records with
    | .ok kept => .ok (.kept (.array (kept.map fun entry => entry.2.toJson)))
    | .error e => answerFailure e

/-- Reads a query and runs it over the records of the input. -/
def check (options : CheckOptions) : Except CheckError CheckResult :=
  match Query.compile options.query with
  | .error e => .error (.parse e)
  | .ok query =>
    if options.readOnly then .ok .valid
    else match options.input with
      | none => .error .noInput
      | some input => do
        let records ← readRecords input
        runQuery options query records

namespace CheckResult

/-- The JSON value that is written, if there is one. -/
def json? : CheckResult → Option Json
  | valid => none
  | kept v => some v
  | results v => some v
  | printed _ v => some v

/-- The JSON text that is written, if there is one. -/
def text? (result : CheckResult) (pretty : Bool) : Option String :=
  result.json?.map fun v => if pretty then v.pretty else v.compact

end CheckResult

end RecordQuery

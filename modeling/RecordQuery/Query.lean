import RecordQuery.Eval.Compute
import RecordQuery.Expr.Builder
import RecordQuery.Token.Lexer

/-!
# Queries

A **query** is compiled once and then asked about any number of records.

* `Query.compile` — reads a query; a text without tokens accepts every record;
* `Query.evaluate` — what a query comes to on a record;
* `Query.isMatch` — whether it keeps the record;
* `Query.filter` — the records that are kept, under a policy for records that fail.
-/

namespace RecordQuery

/-- A compiled query; without a tree it accepts every record. -/
structure Query where
  source : String
  root : Option Node

/-- What happens to a record that fails. -/
inductive ErrorPolicy where
  /-- The failure is that of the whole filter. -/
  | failFast
  /-- The record is left out. -/
  | skipRecord
  deriving DecidableEq

/-- Why a record has no answer: it failed or it printed. -/
inductive FilterError where
  | eval (index : Nat) (e : EvalError)
  | print (index : Nat) (v : Value)

namespace FilterError

/-- The wording of an error. -/
def message : FilterError → String
  | eval index e => "record " ++ integerText index ++ ": " ++ e.message
  | print index _ => "record " ++ integerText index ++ ": print reached"

end FilterError

namespace Query

/-- Reads a query. -/
def compile (source : String) : Except ParseError Query :=
  match tokenize source.toList with
  | .error e => .error (.lex e)
  | .ok tokens =>
    if (tokens.head?.map Token.kind) = some .finish then .ok ⟨source, none⟩
    else (build tokens).map fun root => ⟨source, some root⟩

/-- What a query comes to on a record. -/
def evaluate (query : Query) (record : Value) : Outcome :=
  match query.root with
  | some root => root.compute record
  | none => .value (.ofBool true)

/-- Whether a query keeps the record with a number. -/
def check (query : Query) (index : Nat) (record : Value) : Except FilterError Bool :=
  match query.evaluate record with
  | .value x =>
    match x.isMatch with
    | .ok b => .ok b
    | .error e => .error (.eval index e)
  | .print v => .error (.print index v)
  | .failure e => .error (.eval index e)

/-- Whether a query keeps a record. -/
def isMatch (query : Query) (record : Value) : Except FilterError Bool := query.check 0 record

/-- The records that are kept of those from a number on, each with its number. -/
def filterFrom (query : Query) (policy : ErrorPolicy) (index : Nat) :
    List Value → Except FilterError (List (Nat × Value))
  | [] => .ok []
  | record :: records =>
    match query.check index record with
    | .ok true => do
      let kept ← filterFrom query policy (index + 1) records
      .ok ((index, record) :: kept)
    | .ok false => filterFrom query policy (index + 1) records
    | .error (.eval i e) =>
      match policy with
      | .skipRecord => filterFrom query policy (index + 1) records
      | .failFast => .error (.eval i e)
    | .error (.print i v) => .error (.print i v)

/-- The records that a query keeps, in order, each with its number. -/
def filter (query : Query) (policy : ErrorPolicy) (records : List Value) :
    Except FilterError (List (Nat × Value)) :=
  query.filterFrom policy 0 records

end Query

end RecordQuery

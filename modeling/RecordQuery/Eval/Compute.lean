import RecordQuery.Eval.Broadcast
import RecordQuery.Eval.Methods

/-!
# Computing trees

A tree is computed on a record from its leaves up, the left operand before the right one.  Two
things end the computation early: an error, and `print` with the value of its operand.

* `Node.eval` — the result of a tree, or what interrupted it;
* `Node.compute` — the same as an `Outcome`.
-/

namespace RecordQuery

/-- What ends a computation early. -/
inductive Interrupt where
  | print (v : Value)
  | failure (e : EvalError)

/-- What a computation came to. -/
inductive Outcome where
  | value (x : Evaluated)
  | print (v : Value)
  | failure (e : EvalError)

/-- An error ends the computation. -/
def orInterrupt {α : Type} : Except EvalError α → Except Interrupt α
  | .ok a => .ok a
  | .error e => .error (.failure e)

/-- The value of an operand; what a path does not lead to is nothing. -/
def Operand.eval (operand : Operand) (record : Value) : Evaluated :=
  match operand with
  | .number v => .value v
  | .path route => .value ((route.resolve record).getD .null)

/-- Applies a method to a result. -/
def applyMethod (token : Token) (method : Method) (x : Evaluated) : Except Interrupt Evaluated :=
  match method with
  | .len => orInterrupt ((size x).map fun n => .value (.integer n))
  | .split => orInterrupt (applyToTexts token .split splitWords x)
  | .lower => orInterrupt (applyToTexts token .lower lowerText x)
  | .upper => orInterrupt (applyToTexts token .upper upperText x)
  | .any => orInterrupt ((anyOf token x).map .ofBool)
  | .all => orInterrupt ((allOf token x).map .ofBool)
  | .reduce => orInterrupt (flatten token x)
  | .print =>
    match x.toValue with
    | .ok v => .error (.print v)
    | .error e => .error (.failure e)

namespace Node

/-- The result of a tree on a record. -/
def eval (record : Value) : Node → Except Interrupt Evaluated
  | operand leaf _ => .ok (leaf.eval record)
  | method m argument token => do
    let x ← eval record argument
    applyMethod token m x
  | unary .not inner _ => do
    let x ← eval record inner
    .ok (negate x)
  | binary op left right token => do
    let x ← eval record left
    let y ← eval record right
    orInterrupt (broadcast token op x y)
  | keyword .foundIn pattern field token =>
    orInterrupt ((searchIn token pattern (field.eval record)).map .ofBool)

/-- The outcome of a tree on a record. -/
def compute (tree : Node) (record : Value) : Outcome :=
  match tree.eval record with
  | .ok x => .value x
  | .error (.print v) => .print v
  | .error (.failure e) => .failure e

end Node

end RecordQuery

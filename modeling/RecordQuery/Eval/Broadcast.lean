import RecordQuery.Eval.Compare
import RecordQuery.Eval.Evaluated

/-!
# Operators on results

An operator on scalars works item by item on sequences.

* `negate` — `not` of a result;
* `applyBinary` — a binary operator on two values;
* `broadcast` — a binary operator on two results: a scalar meets every item of a sequence, and
  two sequences meet item by item, each item of the left one with all of the right one.
-/

namespace RecordQuery

/-! ## Negation -/

/-- Negates an item. -/
def negateItem (item : ResultItem) : ResultItem := do
  let x ← item
  let truthy ← x.isTruthy
  .ok (.ofBool !truthy)

/-- Negates a result. -/
def negate (x : Evaluated) : Evaluated :=
  match x.view with
  | .items items => .sequence (items.map negateItem)
  | .scalar v => .ofBool !v.isTruthy

/-! ## Binary operators -/

/-- Whether an order satisfies a comparison operator. -/
def BinaryOp.holds (op : BinaryOp) (order : Ordering) : Bool :=
  match op with
  | less => order == .lt
  | greater => order == .gt
  | lessEqual => order != .gt
  | _ => order != .lt

/-- Applies an operator to two values; the token is the place of its errors. -/
def applyBinary (token : Token) (op : BinaryOp) (a b : Value) : Except EvalError Bool :=
  match op with
  | .and => .ok (a.isTruthy && b.isTruthy)
  | .or => .ok (a.isTruthy || b.isTruthy)
  | .equal => .ok (a.looselyEquals b)
  | .notEqual => .ok !(a.looselyEquals b)
  | .less | .greater | .lessEqual | .greaterEqual =>
    match a.compare? b with
    | some order => .ok (op.holds order)
    | none => .error (.ofToken token (.incomparable a.typeName op b.typeName))

/-- The result of `and` and `or` that a scalar settles by itself. -/
def BinaryOp.settled? (op : BinaryOp) (scalar : Value) : Option Bool :=
  match op with
  | or => if scalar.isTruthy then some true else none
  | and => if scalar.isTruthy then none else some false
  | _ => none

/-- Applies an operator to an item and a scalar, which `apply` brings into their order.  An item
is not looked into where the scalar settles the result. -/
def applyToItem (settled : Option Bool) (apply : Value → Except EvalError Bool)
    (item : ResultItem) : ResultItem := do
  let x ← item
  match settled with
  | some result => .ok (.ofBool result)
  | none =>
    let v ← x.toValue
    let result ← apply v
    .ok (.ofBool result)

/-- What holds, as an item. -/
@[noinline] def trueItem : ResultItem := .ok (.ofBool true)

/-- What does not hold, as an item. -/
@[noinline] def falseItem : ResultItem := .ok (.ofBool false)

/-- An answer as an item.  There is one item for each truth value, which keeps long sequences
small. -/
def itemOfAnswer : Except EvalError Bool → ResultItem
  | .ok b => if b then trueItem else falseItem
  | .error e => .error e

/-- An answer is carried into the item, an error too. -/
theorem itemOfAnswer_eq (answer : Except EvalError Bool) :
    itemOfAnswer answer = answer.map .ofBool := by
  cases answer with
  | ok b => cases b <;> rfl
  | error e => rfl

/-- All pairs of two lists of values, the left value changing slowest.  The items are put
together from the last one on, without a list for each left value. -/
def applyToPairs (apply : Value → Value → Except EvalError Bool) (as bs : List Value) :
    List ResultItem :=
  as.foldr (fun a items => bs.foldr (fun b items => itemOfAnswer (apply a b) :: items) items) []

/-- The pairs come row by row. -/
theorem applyToPairs_eq (apply : Value → Value → Except EvalError Bool) (as bs : List Value) :
    applyToPairs apply as bs = as.flatMap fun a => bs.map fun b => (apply a b).map .ofBool := by
  have row (a : Value) (items : List ResultItem) :
      bs.foldr (fun b items => itemOfAnswer (apply a b) :: items) items
        = (bs.map fun b => (apply a b).map .ofBool) ++ items := by
    simp [itemOfAnswer_eq]
  unfold applyToPairs
  induction as with
  | nil => rfl
  | cons a as ih => rw [List.foldr_cons, ih, row, List.flatMap_cons]

/-- Applies an operator to two results. -/
def broadcast (token : Token) (op : BinaryOp) (left right : Evaluated) :
    Except EvalError Evaluated :=
  let apply := applyBinary token op
  match left.view, right.view with
  | .scalar a, .scalar b => (apply a b).map .ofBool
  | .items items, .scalar b =>
    .ok (.sequence (items.map (applyToItem (op.settled? b) fun a => apply a b)))
  | .scalar a, .items items =>
    .ok (.sequence (items.map (applyToItem (op.settled? a) fun b => apply a b)))
  | .items lefts, .items rights => do
    let as ← Evaluated.valuesOf lefts
    let bs ← Evaluated.valuesOf rights
    .ok (.sequence (applyToPairs apply as bs))

end RecordQuery

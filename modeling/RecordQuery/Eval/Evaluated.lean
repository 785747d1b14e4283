import RecordQuery.Expr.Operator
import RecordQuery.Path.Resolve
import RecordQuery.Token.Basic

/-!
# Results

The result of a tree is a value, or a **sequence** of results some of which may have failed.  An
item that failed fails in its own place: the sequence holds it as an error among the other
items, and whoever uses the item finds the error.

* `EvalError` — a fault at an operator, a keyword or a method;
* `Evaluated` — a value or a sequence;
* `Evaluated.view` — the items of what is sequence-like, or the scalar;
* `toValue`, `isTruthy`, `isMatch` — three ways to use a result: as one value, as a truth value
  by its first item, and as a truth value by any of its items.
-/

namespace RecordQuery

/-- Why an operand does not fit, with the kinds of what was found. -/
inductive TypeFault where
  | incomparable (left : String) (op : BinaryOp) (right : String)
  | notSearchable (found : String)
  | itemNotSearchable (found : String)
  | notText (method : Method) (found : String)
  | itemNotText (method : Method) (found : String)
  | notSequence (method : Method) (found : String)
  | itemNotSequence (method : Method) (found : String)
  /-- A fault in the words of whoever made the sequence. -/
  | stated (message : String)
  deriving DecidableEq

/-- The wording of a fault. -/
def TypeFault.message : TypeFault → String
  | incomparable left op right => "cannot compare " ++ left ++ " " ++ op.symbol ++ " " ++ right
  | notSearchable found => "'in' requires a string or a sequence of strings, got " ++ found
  | itemNotSearchable found => "'in' requires every item to be a string, got " ++ found
  | notText method found =>
    method.name ++ "() requires a string or a sequence of strings, got " ++ found
  | itemNotText method found => method.name ++ "() requires strings, got " ++ found
  | notSequence method found => method.name ++ "() requires a sequence, got " ++ found
  | itemNotSequence method found =>
    method.name ++ "() requires every item to be a sequence, got " ++ found
  | stated message => message

/-- A fault and the token it is reported at. -/
structure EvalError where
  fault : TypeFault
  token : String
  span : Span
  deriving DecidableEq

namespace EvalError

/-- A fault at a token. -/
def ofToken (token : Token) (fault : TypeFault) : EvalError := ⟨fault, token.value, token.span⟩

/-- The wording of an error. -/
def message (e : EvalError) : String :=
  "argument type error in '" ++ e.token ++ "' at " ++ e.span.display ++ ": " ++ e.fault.message

end EvalError

/-- The result of a tree. -/
inductive Evaluated where
  | value (v : Value)
  | sequence (items : List (Except EvalError Evaluated))

/-- An item of a sequence. -/
abbrev ResultItem := Except EvalError Evaluated

/-- What a result looks like to an operator. -/
inductive View where
  | scalar (v : Value)
  | items (items : List ResultItem)

namespace Evaluated

instance : Inhabited Evaluated := ⟨.value .null⟩

/-- The truth values as results. -/
def ofBool (b : Bool) : Evaluated := .value (.boolean b)

/-- Values as items. -/
def ofValues (vs : List Value) : List ResultItem := vs.map fun v => .ok (.value v)

/-- Sequences, arrays and mappings have items, those of a mapping being its keys; all else is
scalar. -/
def view : Evaluated → View
  | sequence items => .items items
  | value (.array vs) => .items (ofValues vs)
  | value (.mapping fields) => .items (ofValues (fields.keys.map Key.toValue))
  | value v => .scalar v

/-- Whether a result has items. -/
def isSequence (x : Evaluated) : Bool :=
  match x.view with
  | .items _ => true
  | .scalar _ => false

/-- The kind of a result, as it is named in messages. -/
def typeName : Evaluated → String
  | value v => v.typeName
  | sequence _ => "sequence"

/-! ## Uses -/

mutual

/-- The result as one value: a sequence becomes an array, unless an item of it failed. -/
def toValue : Evaluated → Except EvalError Value
  | value v => .ok v
  | sequence items => (valuesOf items).map .array

/-- The values of items, or the error of the first item that failed. -/
def valuesOf : List (Except EvalError Evaluated) → Except EvalError (List Value)
  | [] => .ok []
  | .error e :: _ => .error e
  | .ok x :: rest => do
    let v ← toValue x
    let vs ← valuesOf rest
    .ok (v :: vs)

end

/-- Whether a result counts as true: a sequence does if it has an item, whatever the item is,
and fails if its first item failed. -/
def isTruthy : Evaluated → Except EvalError Bool
  | value v => .ok v.isTruthy
  | sequence [] => .ok false
  | sequence (.error e :: _) => .error e
  | sequence (.ok _ :: _) => .ok true

end Evaluated

mutual

/-- Whether some scalar inside of a value counts as true; the keys of a mapping stand for it. -/
def Value.isMatch : Value → Bool
  | .array items => Value.anyMatch items
  | .mapping fields => fields.keys.any fun k => k.toValue.isTruthy
  | v => v.isTruthy

/-- Whether some of the values match. -/
def Value.anyMatch : List Value → Bool
  | [] => false
  | v :: vs => v.isMatch || Value.anyMatch vs

end

namespace Evaluated

mutual

/-- Whether some scalar inside of a result counts as true.  Items are tried in order, up to the
first that matches or failed. -/
def isMatch : Evaluated → Except EvalError Bool
  | value v => .ok v.isMatch
  | sequence items => someMatch items

/-- Whether some item matches. -/
def someMatch : List (Except EvalError Evaluated) → Except EvalError Bool
  | [] => .ok false
  | .error e :: _ => .error e
  | .ok x :: rest => do
    if ← isMatch x then .ok true else someMatch rest

end

end Evaluated

end RecordQuery

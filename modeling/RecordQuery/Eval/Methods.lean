import RecordQuery.Eval.Evaluated
import RecordQuery.Expr.Node
import RecordQuery.Text.Case

/-!
# Methods and searches

What the built-in methods and the search for a pattern make of a result.  The token is the place
of their errors.
-/

namespace RecordQuery

/-! ## Texts -/

/-- The words of a text. -/
def splitWords (s : String) : Value :=
  .array ((Text.words s.toList).map fun w => .text (String.ofList w))

/-- A text in lower case. -/
def lowerText (s : String) : Value := .text (String.ofList (Text.lower s.toList))

/-- A text in upper case. -/
def upperText (s : String) : Value := .text (String.ofList (Text.upper s.toList))

/-- Applies a function of texts to an item. -/
def applyToTextItem (token : Token) (method : Method) (apply : String → Value)
    (item : ResultItem) : ResultItem := do
  let x ← item
  match ← x.toValue with
  | .text s => .ok (.value (apply s))
  | other => .error (.ofToken token (.itemNotText method other.typeName))

/-- Applies a function of texts to a text or to every text of a sequence. -/
def applyToTexts (token : Token) (method : Method) (apply : String → Value) (x : Evaluated) :
    Except EvalError Evaluated :=
  match x.view with
  | .scalar (.text s) => .ok (.value (apply s))
  | .scalar other => .error (.ofToken token (.notText method other.typeName))
  | .items items => .ok (.sequence (items.map (applyToTextItem token method apply)))

/-! ## Sequences -/

/-- The number of items, none of which may have failed. -/
def countItems : List ResultItem → Except EvalError Nat
  | [] => .ok 0
  | item :: rest => do
    let _ ← item
    let n ← countItems rest
    .ok (n + 1)

/-- The size of a text in characters, of a sequence or of a mapping; all else has no size. -/
def size : Evaluated → Except EvalError Nat
  | .value (.text s) => .ok s.length
  | .value (.array items) => .ok items.length
  | .value (.mapping fields) => .ok fields.size
  | .value _ => .ok 0
  | .sequence items => countItems items

/-- Whether some item is true, up to the first that is. -/
def anyTruthy : List ResultItem → Except EvalError Bool
  | [] => .ok false
  | item :: rest => do
    let x ← item
    if ← x.isTruthy then .ok true else anyTruthy rest

/-- Whether every item is true, up to the first that is not. -/
def allTruthy : List ResultItem → Except EvalError Bool
  | [] => .ok true
  | item :: rest => do
    let x ← item
    if ← x.isTruthy then allTruthy rest else .ok false

/-- Whether something in a result is true; a text counts as the sequence of its characters. -/
def anyOf (token : Token) (x : Evaluated) : Except EvalError Bool :=
  match x.view with
  | .items items => anyTruthy items
  | .scalar (.text s) => .ok !s.isEmpty
  | .scalar other => .error (.ofToken token (.notSequence .any other.typeName))

/-- Whether everything in a result is true; a text counts as the sequence of its characters. -/
def allOf (token : Token) (x : Evaluated) : Except EvalError Bool :=
  match x.view with
  | .items items => allTruthy items
  | .scalar (.text _) => .ok true
  | .scalar other => .error (.ofToken token (.notSequence .all other.typeName))

/-- The items of an item. -/
def flattenItem (token : Token) : ResultItem → List ResultItem
  | .error e => [.error e]
  | .ok x =>
    match x.view with
    | .items inner => inner
    | .scalar other => [.error (.ofToken token (.itemNotSequence .reduce other.typeName))]

/-- The items of all items. -/
def flatten (token : Token) (x : Evaluated) : Except EvalError Evaluated :=
  match x.view with
  | .items items => .ok (.sequence (items.flatMap (flattenItem token)))
  | .scalar other => .error (.ofToken token (.notSequence .reduce other.typeName))

/-! ## Searches -/

/-- The texts of items, all of which must be texts. -/
def textsOf (token : Token) : List ResultItem → Except EvalError (List String)
  | [] => .ok []
  | item :: rest => do
    let x ← item
    match ← x.toValue with
    | .text s => do
      let texts ← textsOf token rest
      .ok (s :: texts)
    | other => .error (.ofToken token (.itemNotSearchable other.typeName))

/-- Whether a pattern is found in a text or in some text of a sequence.  Nothing is found where
there is nothing. -/
def searchIn (token : Token) (pattern : Pattern) (x : Evaluated) : Except EvalError Bool :=
  match x.view with
  | .scalar (.text s) => .ok (pattern.isFoundIn s)
  | .scalar .null => .ok false
  | .scalar other => .error (.ofToken token (.notSearchable other.typeName))
  | .items items => do
    let texts ← textsOf token items
    .ok (texts.any pattern.isFoundIn)

end RecordQuery

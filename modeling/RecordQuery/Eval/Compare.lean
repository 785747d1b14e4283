import RecordQuery.Record.Value

/-!
# Comparing values

The comparison operators are looser than strict equality: numbers compare by value, whatever
their kind, and a boolean counts as a number.

* `Value.looselyEquals` — equality, which looks through arrays but not through mappings;
* `Value.compare?` — the order of numbers, of texts and of arrays, the latter by the first
  difference and then by length.
-/

namespace RecordQuery.Value

mutual

/-- Equality with numbers compared by value. -/
def looselyEquals : Value → Value → Bool
  | integer a, integer b => a == b
  | array as, array bs => looselyEqualsList as bs
  | a, b =>
    match a.number?, b.number? with
    | some x, some y => x == y
    | _, _ => a == b

/-- Item by item, and of one length. -/
def looselyEqualsList : List Value → List Value → Bool
  | [], [] => true
  | a :: as, b :: bs => looselyEquals a b && looselyEqualsList as bs
  | _, _ => false

end

mutual

/-- The order of two values, if they can be compared. -/
def compare? : Value → Value → Option Ordering
  | integer a, integer b => some (compare a b)
  | text s, text t => some (compare s t)
  | array as, array bs => compareList? as bs
  | a, b => do
    let x ← a.number?
    let y ← b.number?
    x.compare? y

/-- The order of the first items that differ, or else of the lengths. -/
def compareList? : List Value → List Value → Option Ordering
  | [], [] => some .eq
  | [], _ :: _ => some .lt
  | _ :: _, [] => some .gt
  | a :: as, b :: bs =>
    match compare? a b with
    | some .eq => compareList? as bs
    | other => other

end

end RecordQuery.Value

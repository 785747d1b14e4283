import RecordQuery.Record.Mapping

/-!
# Record values

A **value** is what a record is made of: scalars, sequences and mappings.

* `Value.isTruthy` — which values count as true;
* `Value.number?` — the numeric view, in which the booleans are zero and one;
* `==` — strict equality: values of different kinds differ, sequences are equal item by item,
  and mappings are equal when they hold the same keys with equal values, in whatever order.
-/

namespace RecordQuery

/-- A value of a record. -/
inductive Value where
  | null
  | boolean (b : Bool)
  | integer (n : Int)
  | float (x : Double)
  | text (s : String)
  | array (items : List Value)
  | mapping (fields : Mapping Value)

instance : Inhabited Value := ⟨.null⟩

/-- The key as a value, as it stands in a key set. -/
def Key.toValue : Key → Value
  | text s => .text s
  | integer n => .integer n
  | float x => .float x

namespace Value

/-- A mapping from pairs, inserted one by one. -/
def ofPairs (pairs : List (Key × Value)) : Value := .mapping (Mapping.ofList pairs)

/-- The kind of a value, as it is named in messages. -/
def typeName : Value → String
  | null => "null"
  | boolean _ => "boolean"
  | integer _ => "integer"
  | float _ => "float"
  | text _ => "string"
  | array _ => "sequence"
  | mapping _ => "mapping"

/-- Zero, nothing and what is empty count as false. -/
def isTruthy : Value → Bool
  | null => false
  | boolean b => b
  | integer n => n != 0
  | float x => !(x == Double.zero)
  | text s => !s.isEmpty
  | array items => !items.isEmpty
  | mapping fields => !fields.isEmpty

/-- The number that a value stands for; the booleans stand for zero and one. -/
def number? : Value → Option Double
  | integer n => some (Double.ofInt n)
  | float x => some x
  | boolean b => some (if b then Double.one else Double.zero)
  | _ => none

/-- The text of a text value. -/
def text? : Value → Option String
  | text s => some s
  | _ => none

/-! ## Strict equality

Each entry of one mapping is looked up in the other, and the value found is compared with the
value it was looked up for, the found one standing on the left.  So the sides change places at
every level, and equality is defined together with itself with the sides exchanged: `equals a b`
says `a == b`, and `equalsFlipped a b` says `b == a`, both by recursion on `a`. -/

mutual

/-- Strict equality, by recursion on the left side. -/
def equals : Value → Value → Bool
  | null, null => true
  | boolean a, boolean b => a == b
  | integer a, integer b => a == b
  | float a, float b => a == b
  | text a, text b => a == b
  | array as, array bs => equalsList as bs
  | mapping ⟨as⟩, mapping bs => as.length == bs.size && equalsEntries as bs
  | _, _ => false

/-- Item by item, and of one length. -/
def equalsList : List Value → List Value → Bool
  | [], [] => true
  | a :: as, b :: bs => equals a b && equalsList as bs
  | _, _ => false

/-- Every entry is found in the mapping with an equal value. -/
def equalsEntries : List (Key × Value) → Mapping Value → Bool
  | [], _ => true
  | (k, a) :: as, bs =>
    (match bs.get? k with
      | some b => equalsFlipped a b
      | none => false) && equalsEntries as bs

/-- Strict equality with the sides exchanged. -/
def equalsFlipped : Value → Value → Bool
  | null, null => true
  | boolean a, boolean b => b == a
  | integer a, integer b => b == a
  | float a, float b => b == a
  | text a, text b => b == a
  | array as, array bs => equalsListFlipped as bs
  | mapping ⟨as⟩, mapping bs =>
    bs.size == as.length && bs.entries.all fun e => equalsFound as e.1 e.2
  | _, _ => false

/-- Item by item, and of one length, with the sides exchanged. -/
def equalsListFlipped : List Value → List Value → Bool
  | [], [] => true
  | a :: as, b :: bs => equalsFlipped a b && equalsListFlipped as bs
  | _, _ => false

/-- The first entry with this key has this value. -/
def equalsFound : List (Key × Value) → Key → Value → Bool
  | [], _, _ => false
  | (k, a) :: as, sought, b => if k == sought then equals a b else equalsFound as sought b

end

instance : BEq Value where
  beq := equals

end Value

end RecordQuery

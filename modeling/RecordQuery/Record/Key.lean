import RecordQuery.Number.Plain

/-!
# Keys

A record mostly has text keys, but numbered tables are keyed by numbers.  Numeric keys are
equal when they denote one number, whether it is written as an integer or as a double; two
integers are compared exactly, an integer and a double after rounding the integer.
-/

namespace RecordQuery

/-- A key of a mapping. -/
inductive Key where
  | text (s : String)
  | integer (n : Int)
  | float (x : Double)
  deriving DecidableEq

namespace Key

/-- Whether two keys denote the same entry. -/
def agrees : Key → Key → Bool
  | text s, text t => s == t
  | integer m, integer n => m == n
  | float x, float y => x == y
  | integer n, float x => Double.ofInt n == x
  | float x, integer n => Double.ofInt n == x
  | _, _ => false

instance : BEq Key where
  beq := agrees

/-- Keys denote the same entry in either order. -/
theorem beq_comm (k k' : Key) : (k == k') = (k' == k) := by
  cases k <;> cases k'
  case text.text s t => exact BEq.comm (a := s) (b := t)
  case integer.integer m n => exact BEq.comm (a := m) (b := n)
  case float.float x y => exact Double.beq_comm x y
  all_goals rfl

/-- The text of a key. -/
def display : Key → String
  | text s => s
  | integer n => integerText n
  | float x => x.plainText

end Key

end RecordQuery

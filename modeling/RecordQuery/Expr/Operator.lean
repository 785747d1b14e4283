/-!
# Operators and methods

The words and signs of the query language that combine expressions.

* `UnaryOp`, `BinaryOp` — operators, with their signs;
* `Tier` — how tightly a binary operator binds;
* `Keyword` — words between a pattern and a field;
* `Method` — built-in methods, with their names.
-/

namespace RecordQuery

/-- Operators in front of their operand. -/
inductive UnaryOp where
  | not
  deriving DecidableEq

namespace UnaryOp

/-- The operator with a sign. -/
def ofSymbol? : String → Option UnaryOp
  | "not" => some not
  | _ => none

end UnaryOp

/-- How tightly a binary operator binds. -/
inductive Tier where
  | comparison
  | and
  | or
  deriving DecidableEq

namespace Tier

/-- All tiers, the tightest first. -/
def all : List Tier := [comparison, and, or]

end Tier

/-- Operators between their operands. -/
inductive BinaryOp where
  | equal
  | notEqual
  | less
  | greater
  | lessEqual
  | greaterEqual
  | and
  | or
  deriving DecidableEq

namespace BinaryOp

/-- The operator with a sign. -/
def ofSymbol? : String → Option BinaryOp
  | "==" => some equal
  | "!=" => some notEqual
  | "<" => some less
  | ">" => some greater
  | "<=" => some lessEqual
  | ">=" => some greaterEqual
  | "and" => some and
  | "or" => some or
  | _ => none

/-- The sign of an operator. -/
def symbol : BinaryOp → String
  | equal => "=="
  | notEqual => "!="
  | less => "<"
  | greater => ">"
  | lessEqual => "<="
  | greaterEqual => ">="
  | and => "and"
  | or => "or"

/-- How tightly an operator binds. -/
def tier : BinaryOp → Tier
  | and => .and
  | or => .or
  | _ => .comparison

end BinaryOp

/-- Words between a pattern and a field. -/
inductive Keyword where
  /-- The pattern is found in the field. -/
  | foundIn
  deriving DecidableEq

namespace Keyword

/-- The keyword with a name. -/
def ofName? : String → Option Keyword
  | "in" => some foundIn
  | _ => none

end Keyword

/-- Built-in methods. -/
inductive Method where
  /-- The size of a text, a sequence or a mapping. -/
  | len
  /-- The words of texts. -/
  | split
  /-- Whether some item is true. -/
  | any
  /-- Whether every item is true. -/
  | all
  /-- Texts in lower case. -/
  | lower
  /-- Texts in upper case. -/
  | upper
  /-- The items of items. -/
  | reduce
  /-- Ends the computation and shows a value. -/
  | print
  deriving DecidableEq

namespace Method

/-- The method with a name. -/
def ofName? : String → Option Method
  | "len" => some len
  | "split" => some split
  | "any" => some any
  | "all" => some all
  | "lower" => some lower
  | "upper" => some upper
  | "reduce" => some reduce
  | "print" => some print
  | _ => none

/-- The name of a method. -/
def name : Method → String
  | len => "len"
  | split => "split"
  | any => "any"
  | all => "all"
  | lower => "lower"
  | upper => "upper"
  | reduce => "reduce"
  | print => "print"

end Method

end RecordQuery

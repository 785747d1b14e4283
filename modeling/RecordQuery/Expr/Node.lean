import RecordQuery.Expr.Operator
import RecordQuery.Path.Basic
import RecordQuery.Pattern.Basic
import RecordQuery.Token.Basic

/-!
# Expression trees

A query is computed from its tree.  Every node keeps the token it was built from, for messages.
-/

namespace RecordQuery

/-- A leaf: a constant or a field of the record. -/
inductive Operand where
  | number (value : Value)
  | path (path : FieldPath)

/-- An expression tree. -/
inductive Node where
  | operand (operand : Operand) (token : Token)
  | method (method : Method) (argument : Node) (token : Token)
  | unary (op : UnaryOp) (operand : Node) (token : Token)
  | binary (op : BinaryOp) (left right : Node) (token : Token)
  | keyword (keyword : Keyword) (pattern : Pattern) (field : Operand) (token : Token)

namespace Node

/-- The token that a node was built from. -/
def token : Node → Token
  | operand _ token => token
  | method _ _ token => token
  | unary _ _ token => token
  | binary _ _ _ token => token
  | keyword _ _ _ token => token

/-- The height of a tree: the number of nodes on its longest branch. -/
def height : Node → Nat
  | operand _ _ => 1
  | method _ argument _ => argument.height + 1
  | unary _ inner _ => inner.height + 1
  | binary _ left right _ => max left.height right.height + 1
  | keyword _ _ _ _ => 1

end Node

end RecordQuery

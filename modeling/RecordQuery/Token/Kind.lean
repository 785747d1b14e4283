/-!
# Token kinds

The **kind** of a token is not a property of its text alone: `in` behind a parenthesis names a
field, and behind a field it is a keyword.

* `TokenKind.successors` — the transition table: which kinds may follow a kind;
* `TokenKind.candidates` — which kinds a text may have, the preferred one first;
* `TokenKind.of?` — the first candidate that may follow the kind before it.
-/

namespace RecordQuery

/-- The kind of a token. -/
inductive TokenKind where
  /-- The place before the first token. -/
  | start
  /-- A word between a pattern and a field. -/
  | keyword
  /-- A field path, a number, the name of a method or quoted text. -/
  | text
  /-- An operator in front of its operand. -/
  | unary
  /-- An operator between its operands. -/
  | binary
  | leftParen
  | rightParen
  | comma
  /-- The place behind the last token. -/
  | finish
  deriving DecidableEq

namespace TokenKind

/-- The name of a kind in messages. -/
def display : TokenKind → String
  | start => "start of query"
  | keyword => "keyword"
  | text => "string"
  | unary => "unary operator"
  | binary => "binary operator"
  | leftParen => "'('"
  | rightParen => "')'"
  | comma => "','"
  | finish => "end of query"

/-- The kinds that may follow a kind. -/
def successors : TokenKind → List TokenKind
  | start => [text, unary, leftParen, finish]
  | text => [keyword, binary, leftParen, rightParen, comma, finish]
  | keyword => [text]
  | unary => [text, unary, leftParen]
  | binary => [text, unary, leftParen]
  | leftParen => [text, unary, leftParen]
  | comma => [text, unary, leftParen]
  | rightParen => [binary, rightParen, comma, finish]
  | finish => []

/-- Whether a kind may stand behind this one. -/
def allows (kind next : TokenKind) : Bool := kind.successors.contains next

/-- The kinds that a text may have, the preferred one first.  Quoted text is always text. -/
def candidates (value : String) (quoted : Bool) : List TokenKind :=
  if quoted then [text]
  else match value with
    | "(" => [leftParen]
    | ")" => [rightParen]
    | "," => [comma]
    | "not" => [unary, text]
    | "in" => [keyword, text]
    | "and" | "or" | "<" | "<=" | ">" | ">=" | "==" | "!=" => [binary, text]
    | _ => [text]

/-- The kind of a text behind a token of the given kind. -/
def of? (value : String) (quoted : Bool) (previous : TokenKind) : Option TokenKind :=
  (candidates value quoted).find? previous.allows

end TokenKind

end RecordQuery

import RecordQuery.Expr.Operator
import RecordQuery.Path.Parse
import RecordQuery.Text.Width
import RecordQuery.Token.Basic

/-!
# Why a text is no query

* `ParseError` — the causes, each with its place in the query;
* `ParseError.message` — their wording;
* `ParseError.underline` — the query with the place marked below it, in columns of a terminal.
-/

namespace RecordQuery

/-- Why a piece of a query cannot be read. -/
inductive TextFault where
  | path (fault : PathFault)
  | pattern
  | number
  | neverClosed
  | strayClose
  deriving DecidableEq

/-- The wording of a fault.  A pattern is only called invalid: the reason, which a reader of patterns
has its own words for and which would follow behind a colon, is left out. -/
def TextFault.message : TextFault → String
  | path fault => fault.message
  | pattern => "invalid pattern"
  | number => "invalid number: invalid float literal"
  | neverClosed => "unbalanced parentheses: '(' is never closed"
  | strayClose => "unbalanced parentheses: unexpected ')'"

/-- Why tokens do not make up one expression. -/
inductive ShapeFault where
  | tooDeep
  | unfinished
  | severalArguments
  | unexpected (token : String)
  | missingField (keyword : String)
  | missingOperand
  | missingOperands (op : BinaryOp)
  | empty
  | severalParts (count : Nat)
  | onlyOperator
  deriving DecidableEq

/-- The wording of a fault. -/
def ShapeFault.message : ShapeFault → String
  | tooDeep => "expression nested too deeply"
  | unfinished => "unexpected end of tokens inside parentheses"
  | severalArguments => "methods take a single argument"
  | unexpected token => "unexpected '" ++ token ++ "'"
  | missingField keyword => "'" ++ keyword ++ "' needs a field on its right"
  | missingOperand => "'not' needs an operand"
  | missingOperands op => "'" ++ op.symbol ++ "' needs an operand on both sides"
  | empty => "empty expression"
  | severalParts count =>
    "expected a single expression, found " ++ integerText count ++ " parts"
  | onlyOperator => "operator without operands"

/-- Why a text is no query. -/
inductive ParseError where
  /-- It is no sequence of tokens. -/
  | lex (e : LexError)
  /-- A piece of it cannot be read. -/
  | malformed (fault : TextFault) (token : String) (span : Span)
  | unknownMethod (token : String) (span : Span)
  | unknownKeyword (token : String) (span : Span)
  | unknownOperator (token : String) (span : Span)
  /-- Its tokens do not make up one expression. -/
  | misshapen (fault : ShapeFault) (span : Span)
  deriving DecidableEq

namespace ParseError

/-- The place of an error. -/
def span : ParseError → Span
  | lex e => e.span
  | malformed _ _ span => span
  | unknownMethod _ span => span
  | unknownKeyword _ span => span
  | unknownOperator _ span => span
  | misshapen _ span => span

/-- The text that an error is about, if it is about one token. -/
def token : ParseError → String
  | lex e => e.token
  | malformed _ token _ => token
  | unknownMethod token _ => token
  | unknownKeyword token _ => token
  | unknownOperator token _ => token
  | misshapen _ _ => ""

/-- The wording of an error. -/
def message : ParseError → String
  | lex e => e.message
  | malformed fault _ span => "syntax error at " ++ span.display ++ ": " ++ fault.message
  | unknownMethod token span => "unknown method '" ++ token ++ "' at " ++ span.display
  | unknownKeyword token span => "unknown keyword '" ++ token ++ "' at " ++ span.display
  | unknownOperator token span => "unknown logic operator '" ++ token ++ "' at " ++ span.display
  | misshapen fault span => "cannot build expression at " ++ span.display ++ ": " ++ fault.message

/-- A query on one line: every blank becomes a space. -/
def oneLine (query : List Char) : List Char :=
  query.map fun c => if Text.isBlank c then ' ' else c

/-- The query, and below it a mark of at least one column under the place of the error.  A place
outside of the query is cut off at its end. -/
def underline (e : ParseError) (query : List Char) : String :=
  let line := oneLine query
  let start := min e.span.start line.length
  let stop := min e.span.stop line.length
  let marked := (line.drop start).take (stop - start)
  String.ofList ("  ".toList ++ line ++ "\n  ".toList
    ++ List.replicate (Text.columns (line.take start)) ' '
    ++ List.replicate (max (Text.columns marked) 1) '^')

/-- The wording of an error with the query underlined below it. -/
def render (e : ParseError) (query : List Char) : String :=
  e.message ++ "\n" ++ e.underline query

end ParseError

end RecordQuery

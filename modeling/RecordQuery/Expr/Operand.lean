import RecordQuery.Expr.Node
import RecordQuery.Expr.ParseError

/-!
# Reading operands

A text in a query is a number if it is a decimal literal and a field path otherwise.  A mark in
front of a text makes it a path in any case.
-/

namespace RecordQuery

namespace Operand

/-- The mark in front of a text that is a field path. -/
def fieldMark : String := "f_$"

/-- Reads a decimal literal: an integer if it has no point and fits, and a double otherwise. -/
def numberOf? (text : List Char) : Option Value :=
  let integer := if text.contains '.' then none else Numeral.integer? text
  match integer with
  | some n => some (.integer n)
  | none => (Numeral.double? text).map .float

/-- Reads the path of a token, which starts some characters behind the start of the value. -/
def pathOfToken (token : Token) (offset : Nat) (text : List Char) : Except ParseError Operand :=
  match FieldPath.parse text with
  | .ok read => .ok (.path read)
  | .error e =>
    let start := token.span.start + (if token.quoted then 1 else 0) + offset + e.offset
    .error (.malformed (.path e.fault) token.value ⟨start, e.length⟩)

/-- Reads the operand of a text token. -/
def ofToken (token : Token) : Except ParseError Operand :=
  let text := token.value.toList
  match stripMark? fieldMark text with
  | some rest => pathOfToken token fieldMark.length rest
  | none =>
    if Numeral.isDecimal text then
      match numberOf? text with
      | some value => .ok (.number value)
      | none => .error (.malformed .number token.value token.span)
    else pathOfToken token 0 text

end Operand

end RecordQuery

import RecordQuery.Number.Plain
import RecordQuery.Token.Kind

/-!
# Tokens

A **token** is a piece of a query with its place, its kind and the kind of the token before it.

* `Span` — a run of characters of the query;
* `Token.of` — a token whose kind follows from its text and from the kind before it;
* `Token.finish` — the token behind the last one;
* `LexError` — why a text is no sequence of tokens.
-/

namespace RecordQuery

/-- A run of characters of a query. -/
structure Span where
  start : Nat
  length : Nat
  deriving DecidableEq

namespace Span

/-- The place just behind a span. -/
def stop (span : Span) : Nat := span.start + span.length

/-- The place of a span in messages. -/
def display (span : Span) : String := "position " ++ integerText span.start

end Span

/-- A piece of a query; quoted text is kept without its quotes, and its span includes them. -/
structure Token where
  value : String
  span : Span
  kind : TokenKind
  previous : TokenKind
  quoted : Bool
  deriving DecidableEq

/-- Why quotes or parentheses do not match. -/
inductive LexFault where
  | unterminated
  | neverClosed
  | strayClose
  deriving DecidableEq

/-- The wording of a fault. -/
def LexFault.message : LexFault → String
  | unterminated => "unterminated string: missing closing quote"
  | neverClosed => "unbalanced parentheses: '(' is never closed"
  | strayClose => "unbalanced parentheses: unexpected ')'"

/-- Why a text is no sequence of tokens. -/
inductive LexError where
  /-- Quotes or parentheses do not match; the token is the text under the span. -/
  | malformed (fault : LexFault) (token : String) (span : Span)
  /-- The token may not follow the one before it; the empty text is the end of the query. -/
  | misplaced (token : String) (previous : TokenKind) (span : Span)
  deriving DecidableEq

namespace LexError

/-- The place of an error. -/
def span : LexError → Span
  | malformed _ _ span => span
  | misplaced _ _ span => span

/-- The text that an error is about. -/
def token : LexError → String
  | malformed _ token _ => token
  | misplaced token _ _ => token

/-- How a message calls a token. -/
def describe (token : String) : String :=
  if token.isEmpty then "end of query" else "'" ++ token ++ "'"

/-- The wording of an error. -/
def message : LexError → String
  | malformed fault _ span => "syntax error at " ++ span.display ++ ": " ++ fault.message
  | misplaced token previous span =>
    "unexpected " ++ describe token ++ " after " ++ previous.display ++ " at " ++ span.display

end LexError

namespace Token

/-- A token with the first kind that its text may have behind the kind before it. -/
def of (value : String) (span : Span) (previous : TokenKind) (quoted : Bool) :
    Except LexError Token :=
  match TokenKind.of? value quoted previous with
  | some kind => .ok ⟨value, span, kind, previous, quoted⟩
  | none => .error (.misplaced value previous span)

/-- The token behind the last one. -/
def finish (start : Nat) (previous : TokenKind) : Except LexError Token :=
  if previous.allows .finish then .ok ⟨"", ⟨start, 0⟩, .finish, previous, false⟩
  else .error (.misplaced "" previous ⟨start, 0⟩)

end Token

end RecordQuery

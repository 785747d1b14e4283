import RecordQuery.Proofs.Grammar.Operands
import RecordQuery.Proofs.Lexing.Nesting

/-!
# Defects of a row of tokens

The transition table looks at two neighbours only, and not at what their texts say.  What it lets
pass and a query must not have is one of a few defects, and each of them has an error of its own.

* `Defect` — a row of tokens with a defect, and the error for it;
* `ParseError.leftToBuilder` — the errors that some defect has;
* `Defect.leftToBuilder` — **operators have their operands, keywords their fields, and parentheses
  match**: nothing else is left to be reported.
-/

namespace RecordQuery

/-- The row has a defect that is reported as this error.  A text behind a keyword is a field. -/
inductive Defect (tokens : List Token) : ParseError → Prop
  | noMethod {name next : Token} :
      [name, next] <:+: tokens → name.kind = .text → name.previous ≠ .keyword →
      next.kind = .leftParen → Method.ofName? name.value = none →
      Defect tokens (.unknownMethod name.value name.span)
  | comma {token : Token} :
      token ∈ tokens → token.kind = .comma →
      Defect tokens (.misshapen .severalArguments token.span)
  | fieldBeforeGroup {field next : Token} {count : ℕ} {span : Span} :
      [field, next] <:+: tokens → field.kind = .text → field.previous = .keyword →
      next.kind = .leftParen → 2 ≤ count →
      Defect tokens (.misshapen (.severalParts count) span)
  | fieldBeforeKeyword {field next : Token} :
      [field, next] <:+: tokens → field.kind = .text → field.previous = .keyword →
      next.kind = .keyword → Defect tokens (.misshapen (.unexpected next.value) next.span)
  | tooDeep {before behind : List Token} {opener : Token} :
      tokens = before ++ opener :: behind → opener.kind = .leftParen →
      maxOpen + countKind .rightParen before ≤ countKind .leftParen before →
      Defect tokens (.misshapen .tooDeep opener.span)
  | pattern {pattern word : Token} :
      [pattern, word] <:+: tokens → pattern.kind = .text → pattern.previous ≠ .keyword →
      word.kind = .keyword → Pattern.compile? pattern.value = none →
      Defect tokens (.malformed .pattern pattern.value pattern.span)
  | path {token next : Token} {text : List Char} {fault : PathError} {span : Span} :
      [token, next] <:+: tokens → token.kind = .text →
      (token.previous = .keyword ∨ (next.kind ≠ .leftParen ∧ next.kind ≠ .keyword)) →
      Operand.pathText? token.value.toList = some text → FieldPath.parse text = .error fault →
      Defect tokens (.malformed (.path fault.fault) token.value span)

/-- Whether some defect is reported as this error. -/
def ParseError.leftToBuilder : ParseError → Bool
  | unknownMethod _ _ => true
  | malformed .pattern _ _ => true
  | malformed (.path _) _ _ => true
  | misshapen .tooDeep _ => true
  | misshapen .severalArguments _ => true
  | misshapen (.unexpected _) _ => true
  | misshapen (.severalParts count) _ => 2 ≤ count
  | _ => false

variable {tokens : List Token} {e : ParseError}

/-- Every defect has an error that is left to the builder. -/
theorem Defect.leftToBuilder (h : Defect tokens e) : e.leftToBuilder := by
  cases h with
  | fieldBeforeGroup _ _ _ _ hcount => exact decide_eq_true hcount
  | _ => rfl

end RecordQuery

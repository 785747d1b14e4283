import RecordQuery.Expr.Operator
import RecordQuery.Proofs.Grammar.Grouping
import RecordQuery.Proofs.Lexing.Soundness
import RecordQuery.Proofs.Lexing.Spacing

/-!
# Legal rows of tokens

The tokens of a query are a row that could have been written, so each of them has the kind that the
transition table gives it.  A token of a kind for operators or keywords is therefore a word that is
one.

* `behind_operand`, `not_behind_operand`, … — what the transition table says of the kind before;
* `Spells.lawful` — **the tokens of a query are lawful**;
* `Token.Writable.negates`, `Token.Writable.joins`, `Token.Writable.searches` — what a token of a
  kind says.
-/

namespace RecordQuery

variable {position depth : ℕ} {previous kind : TokenKind} {text : List Char} {token : Token}
  {tokens : List Token}

/-! ## The transition table -/

/-- An operand and its signs do not stand behind an operand. -/
theorem not_behind_operand (h : previous.allows kind) (hk : kind = .text ∨ kind = .unary) :
    ¬ (previous = .text ∨ previous = .rightParen) := by
  rcases hk with rfl | rfl <;> revert h <;> cases previous <;> decide

/-- An operator and the end of a group stand behind an operand, and so does the end of a query with
a token. -/
theorem behind_operand (h : previous.allows kind)
    (hk : kind = .binary ∨ kind = .rightParen ∨ kind = .finish)
    (hstart : previous = .start → kind ≠ .finish) : previous = .text ∨ previous = .rightParen := by
  rcases hk with rfl | rfl | rfl <;> revert h hstart <;> cases previous <;> decide

theorem ne_rightParen_of_allows (h : previous.allows .leftParen) : previous ≠ .rightParen := by
  revert h
  cases previous <;> decide

theorem eq_text_of_allows (h : previous.allows .keyword) : previous = .text := by
  revert h
  cases previous <;> decide

theorem eq_text_of_keyword_allows (h : TokenKind.keyword.allows kind) : kind = .text := by
  revert h
  cases kind <;> decide

/-! ## The tokens of a query -/

theorem Spelling.writable {word value : List Char} {span : Span} {quoted : Bool}
    (h : Spelling word value quoted text)
    (hof : TokenKind.of? (String.ofList value) quoted previous = some kind) :
    (⟨String.ofList value, span, kind, previous, quoted⟩ : Token).Writable := by
  refine ⟨hof, ?_, ?_⟩
  · rintro rfl hparen
    simp only [String.toList_ofList]
    cases h with
    | paren hp =>
      obtain rfl := hp.kind_eq hof
      cases hp
      · exact absurd (.inl rfl) hparen
      · exact absurd (.inr rfl) hparen
    | bare hq hb _ =>
      exact ⟨List.cons_ne_nil _ _, by simpa using hq, fun d hd => isBare_iff.1 (hb d hd)⟩
  · rintro rfl
    obtain ⟨_, _, hquotes⟩ := h.of_quoted
    simpa using evenRuns_of_quotes hquotes

/-- **The tokens of a query are lawful.** -/
theorem Spells.lawful (h : Spells position previous depth text tokens) :
    Lawful previous depth tokens := by
  refine ⟨?_, h.first, h.linked, h.nested⟩
  induction h with
  | finish _ hallows => exact ⟨[], _, rfl, ⟨rfl, rfl, rfl, hallows⟩, by simp⟩
  | token _ hspelling hof _ _ ih =>
    obtain ⟨front, last, rfl, hlast, hfront⟩ := ih
    exact ⟨_ :: front, last, rfl, hlast, List.forall_mem_cons.2 ⟨hspelling.writable hof, hfront⟩⟩

/-! ## What the kinds say -/

namespace Token.Writable

/-- A token that is no text and no parenthesis has one of a few words. -/
theorem word (h : token.Writable) :
    (token.kind = .unary → token.value = "not") ∧ (token.kind = .keyword → token.value = "in") ∧
      (token.kind = .binary →
        token.value ∈ ["and", "or", "<", "<=", ">", ">=", "==", "!="]) := by
  have hmem := mem_candidates_of_of? h.kind
  refine ⟨fun hk => ?_, fun hk => ?_, fun hk => ?_⟩
  all_goals
    rw [hk] at hmem
    unfold TokenKind.candidates at hmem
    split at hmem
    · simp at hmem
    · split at hmem <;> simp_all

/-- A token in front of its operand is `not`. -/
theorem negates (h : token.Writable) (hk : token.kind = .unary) : token.Negates .not := by
  refine ⟨hk, ?_⟩
  rw [h.word.1 hk]
  rfl

/-- A token between its operands is an operator of some tier. -/
theorem joins (h : token.Writable) (hk : token.kind = .binary) :
    ∃ op : BinaryOp, token.Joins op.tier op := by
  have hword := h.word.2.2 hk
  simp only [List.mem_cons, List.not_mem_nil, or_false] at hword
  unfold Token.Joins
  rcases hword with hv | hv | hv | hv | hv | hv | hv | hv <;> rw [hv] <;> exact ⟨_, hk, rfl, rfl⟩

/-- A token between a pattern and a field is a keyword. -/
theorem searches (h : token.Writable) (hk : token.kind = .keyword) :
    Keyword.ofName? token.value = some .foundIn := by
  rw [h.word.2.1 hk]
  rfl

end Token.Writable

end RecordQuery

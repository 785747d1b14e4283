import RecordQuery.Proofs.Grammar.Building
import RecordQuery.Proofs.Lexing.Spelling
import RecordQuery.Query

/-!
# The tree of a query

A query has a tree just if it spells tokens that make up one expression.

* `untilFinish_of_spells` — the tokens of a query are those in front of the finishing one;
* `compile_eq_ok_iff` — **a query is compiled to the tree of its tokens**.
-/

namespace RecordQuery

variable {position depth opened : ℕ} {previous : TokenKind} {text : List Char}
  {tokens : List Token} {level : Level} {n : Node} {source : String}

/-- Only the last token of a query finishes it, and no parenthesis is open there. -/
theorem untilFinish_of_spells (h : Spells position previous depth text tokens) :
    untilFinish depth tokens = tokens.dropLast := by
  induction h with
  | finish _ _ => rfl
  | @token _ depth depth' _ kind _ _ _ _ _ tokens _ _ hof hn hmore ih =>
    have hfinish := ne_finish_of_of? hof
    rw [List.dropLast_cons_of_ne_nil hmore.ne_nil, ← ih]
    cases kind with
    | leftParen =>
      cases hn
      rfl
    | rightParen =>
      cases depth with
      | zero => cases hn
      | succ depth =>
        cases hn
        rfl
    | finish => exact absurd rfl hfinish
    | _ =>
      cases hn
      rfl

/-- A query that starts with the finishing token has no other. -/
theorem dropLast_of_finish (h : Spells position previous depth text tokens)
    (hk : tokens.head?.map Token.kind = some .finish) : tokens.dropLast = [] := by
  cases h with
  | finish _ _ => rfl
  | token _ _ hof _ _ => exact absurd (Option.some.inj hk) (ne_finish_of_of? hof)

theorem Derives.ne_nil (h : Derives level opened tokens n) : tokens ≠ [] := by
  induction h with
  | atom _ ih => exact ih
  | part _ ih => exact ih
  | join _ _ _ _ _ => simp
  | _ => exact List.cons_ne_nil _ _

/-- **A query is compiled to the tree of its tokens.** -/
theorem compile_eq_ok_iff :
    Query.compile source = .ok ⟨source, some n⟩ ↔
      ∃ tokens, tokenize source.toList = .ok tokens ∧
        Derives (.tier .or) 0 tokens.dropLast n := by
  unfold Query.compile
  cases ht : tokenize source.toList with
  | error e => simp
  | ok tokens =>
    have hs := tokenize_eq_ok_iff.1 ht
    have hbuild : build tokens = .ok n ↔ Derives (.tier .or) 0 tokens.dropLast n := by
      rw [← untilFinish_of_spells hs]
      exact next_eq_ok_iff_derives
    simp only [Except.ok.injEq, exists_eq_left', ← hbuild]
    split_ifs with hfinish
    · -- a query without a token has no tree
      constructor
      · intro h
        cases h
      · intro h
        exact absurd (dropLast_of_finish hs hfinish) (hbuild.1 h).ne_nil
    · simp [Except.map_eq_ok_iff]

end RecordQuery

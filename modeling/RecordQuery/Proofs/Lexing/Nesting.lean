import Mathlib.Data.Nat.Notation
import RecordQuery.Token.Basic

/-!
# Nested parentheses

Whether the parentheses of a row of tokens match can be said in two ways: by counting them in
every beginning of the row, or by following the number of open ones from token to token.

* `TokenKind.nesting?` — how many parentheses are open behind a token;
* `Nested` — no beginning of the row closes too many parentheses, and the whole row closes all;
* `nested_cons_iff` — **the two ways agree, token by token**.
-/

namespace RecordQuery

/-- How many parentheses are open behind a token of a kind, unless it closes one too many. -/
def TokenKind.nesting? : TokenKind → ℕ → Option ℕ
  | leftParen, depth => some (depth + 1)
  | rightParen, 0 => none
  | rightParen, depth + 1 => some depth
  | _, depth => some depth

/-- The number of tokens of a kind. -/
def countKind (kind : TokenKind) (tokens : List Token) : ℕ :=
  tokens.countP fun token => token.kind = kind

/-- The tokens close the parentheses that they open and so many others, never one too many. -/
structure Nested (depth : ℕ) (tokens : List Token) : Prop where
  before : ∀ before behind, tokens = before ++ behind →
    countKind .rightParen before ≤ depth + countKind .leftParen before
  all : countKind .rightParen tokens = depth + countKind .leftParen tokens

variable {kind : TokenKind} {depth depth' : ℕ} {token : Token} {tokens : List Token}

theorem nesting?_of_not_paren (hl : kind ≠ .leftParen) (hr : kind ≠ .rightParen) (depth : ℕ) :
    kind.nesting? depth = some depth := by
  cases kind <;> first | rfl | contradiction

theorem nesting?_eq_some_iff :
    kind.nesting? depth = some depth' ↔
      depth' + (if kind = .rightParen then 1 else 0) =
        depth + (if kind = .leftParen then 1 else 0) := by
  by_cases hl : kind = .leftParen
  · subst hl
    simp [TokenKind.nesting?, eq_comm]
  · by_cases hr : kind = .rightParen
    · subst hr
      cases depth <;> simp [TokenKind.nesting?, eq_comm]
    · simp [nesting?_of_not_paren hl hr, hl, hr, eq_comm]

@[simp] theorem countKind_nil : countKind kind [] = 0 := rfl

theorem countKind_cons :
    countKind kind (token :: tokens) =
      countKind kind tokens + if token.kind = kind then 1 else 0 := by
  simp [countKind, List.countP_cons]

theorem nested_nil_iff : Nested depth [] ↔ depth = 0 := by
  constructor
  · intro h
    simpa using h.all.symm
  · rintro rfl
    refine ⟨?_, rfl⟩
    intro before behind h
    obtain ⟨rfl, rfl⟩ := List.append_eq_nil_iff.1 h.symm
    exact Nat.le_refl _

/-- **The parentheses of a row match if they match behind its first token.** -/
theorem nested_cons_iff :
    Nested depth (token :: tokens) ↔
      ∃ depth', token.kind.nesting? depth = some depth' ∧ Nested depth' tokens := by
  constructor
  · intro h
    have hfirst := h.before [token] tokens rfl
    simp only [countKind_cons, countKind_nil, Nat.zero_add] at hfirst
    refine ⟨depth + (if token.kind = .leftParen then 1 else 0) -
      (if token.kind = .rightParen then 1 else 0), nesting?_eq_some_iff.2 (by omega), ?_, ?_⟩
    · intro before behind hts
      have hbefore := h.before (token :: before) behind (by rw [hts]; rfl)
      simp only [countKind_cons] at hbefore
      omega
    · have hall := h.all
      simp only [countKind_cons] at hall
      omega
  · rintro ⟨depth', hn, h⟩
    have hdepth := nesting?_eq_some_iff.1 hn
    refine ⟨?_, ?_⟩
    · intro before behind hts
      cases before with
      | nil => exact Nat.zero_le _
      | cons t before =>
        obtain ⟨rfl, hts'⟩ := List.cons.inj hts
        have hbefore := h.before before behind hts'
        simp only [countKind_cons]
        omega
    · have hall := h.all
      simp only [countKind_cons]
      omega

end RecordQuery

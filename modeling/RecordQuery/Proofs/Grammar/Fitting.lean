import RecordQuery.Proofs.Grammar.Derivation

/-!
# What an expression tells of its texts

In an expression whose tokens know the kinds before them, every text that is no method and no
pattern is an operand, and a field stands neither in front of a group nor in front of a keyword.

* `Token.Fits` — what the token behind a text tells of it;
* `Derives.fits` — **the tokens of an expression fit**, whatever stands behind it;
* `Derives.ne_comma` — no comma stands in an expression.
-/

namespace RecordQuery

/-- The token may stand in front of the next one: a text is an operand if it is a field or if
nothing else may become of it, and a field is nothing else. -/
structure Token.Fits (token next : Token) : Prop where
  operand : token.kind = .text →
    (token.previous = .keyword ∨ (next.kind ≠ .leftParen ∧ next.kind ≠ .keyword)) →
    ∃ leaf, Operand.ofToken token = .ok leaf
  field : token.kind = .text → token.previous = .keyword →
    next.kind ≠ .leftParen ∧ next.kind ≠ .keyword

variable {opened : ℕ} {token next closer : Token} {tokens xs ys : List Token} {level : Level}
  {n : Node}

theorem Token.fits_of_kind (h : token.kind ≠ .text) : token.Fits next :=
  ⟨fun hk => absurd hk h, fun hk => absurd hk h⟩

/-- A text that is no field is in front of a group or of a keyword. -/
theorem Token.fits_of_next (hp : token.previous ≠ .keyword)
    (hn : next.kind = .leftParen ∨ next.kind = .keyword) : token.Fits next := by
  refine ⟨fun _ h => ?_, fun _ h => absurd h hp⟩
  rcases h with h | ⟨hl, hk⟩
  · exact absurd h hp
  · rcases hn with hn | hn
    · exact absurd hn hl
    · exact absurd hn hk

theorem Token.fits_of_operand {leaf : Operand} (ho : Operand.ofToken token = .ok leaf)
    (hl : next.kind ≠ .leftParen) (hk : next.kind ≠ .keyword) : token.Fits next :=
  ⟨fun _ _ => ⟨leaf, ho⟩, fun _ _ => ⟨hl, hk⟩⟩

/-- Every token knows the kind of the one before it, and the first one is no field. -/
structure Placed (tokens : List Token) : Prop where
  linked : tokens.IsChain fun a b => b.previous = a.kind
  first : ∀ token ∈ tokens.head?, token.previous ≠ .keyword

theorem Placed.of_append (h : Placed (xs ++ ys)) : Placed xs := by
  refine ⟨(List.isChain_append.1 h.linked).1, ?_⟩
  intro t ht
  refine h.first t ?_
  cases xs with
  | nil => cases ht
  | cons x xs => exact ht

/-- Behind a token that is no keyword, no field comes first. -/
theorem Placed.of_append_cons (h : Placed (xs ++ token :: ys)) (hk : token.kind ≠ .keyword) :
    Placed ys := by
  have hlinked := List.isChain_cons.1 (List.isChain_append.1 h.linked).2.1
  refine ⟨hlinked.2, ?_⟩
  intro t ht
  rw [hlinked.1 t ht]
  exact hk

/-- Parentheses fit around what fits in front of the closing one. -/
theorem isChain_fits_enclosed {opener : Token} (h : (xs ++ [closer]).IsChain Token.Fits)
    (ho : opener.kind = .leftParen) (hc : closer.kind = .rightParen) :
    (opener :: (xs ++ [closer]) ++ [next]).IsChain Token.Fits := by
  have hbehind : (xs ++ [closer] ++ [next]).IsChain Token.Fits := by
    refine h.append (.singleton _) ?_
    intro t ht b _
    rw [List.getLast?_concat] at ht
    cases ht
    exact Token.fits_of_kind (by rw [hc]; decide)
  exact hbehind.cons fun _ _ => Token.fits_of_kind (by rw [ho]; decide)

/-- **The tokens of an expression fit**, in front of anything but a group and a keyword. -/
theorem Derives.fits (h : Derives level opened tokens n) (hp : Placed tokens)
    (hl : next.kind ≠ .leftParen) (hk : next.kind ≠ .keyword) :
    (tokens ++ [next]).IsChain Token.Fits := by
  -- What stands behind a part of the expression is a token of the expression itself.
  induction h generalizing next with
  | operand _ ho => exact .cons_cons (Token.fits_of_operand ho hl hk) (.singleton _)
  | @search _ pattern word field _ _ _ _ _ hw _ _ ho =>
    have hfirst : pattern.previous ≠ .keyword := hp.first _ rfl
    refine .cons_cons (Token.fits_of_next hfirst (.inr hw)) ?_
    refine .cons_cons (Token.fits_of_kind (by rw [hw]; decide)) ?_
    exact .cons_cons (Token.fits_of_operand ho hl hk) (.singleton _)
  | @call _ name opener closer _ inner _ _ _ ho _ _ hc ih =>
    have hfirst : name.previous ≠ .keyword := hp.first _ rfl
    have hbehind : Placed (inner ++ [closer]) :=
      @Placed.of_append_cons opener [name] _ hp (by rw [ho]; decide)
    have hinner := @ih closer hbehind.of_append (by rw [hc]; decide) (by rw [hc]; decide)
    exact .cons_cons (Token.fits_of_next hfirst (.inl ho)) (isChain_fits_enclosed hinner ho hc)
  | @group _ opener closer inner _ ho _ _ hc ih =>
    have hbehind : Placed (inner ++ [closer]) :=
      @Placed.of_append_cons opener [] _ hp (by rw [ho]; decide)
    have hinner := @ih closer hbehind.of_append (by rw [hc]; decide) (by rw [hc]; decide)
    exact isChain_fits_enclosed hinner ho hc
  | atom _ ih => exact ih hp hl hk
  | @not _ token _ tokens _ hs _ ih =>
    have hbehind : Placed tokens := @Placed.of_append_cons token [] _ hp (by rw [hs.1]; decide)
    exact (ih hbehind hl hk).cons fun _ _ => Token.fits_of_kind (by rw [hs.1]; decide)
  | part _ ih => exact ih hp hl hk
  | @join _ _ token _ ls rs _ _ _ hj _ ihl ihr =>
    have hbehind : Placed rs := hp.of_append_cons (by rw [hj.1]; decide)
    have hleft := @ihl token hp.of_append (by rw [hj.1]; decide) (by rw [hj.1]; decide)
    have hright : (token :: (rs ++ [next])).IsChain Token.Fits :=
      (ihr hbehind hl hk).cons fun _ _ => Token.fits_of_kind (by rw [hj.1]; decide)
    rw [List.append_assoc, List.cons_append, List.isChain_split]
    exact ⟨hleft, hright⟩

/-- No comma stands in an expression. -/
theorem Derives.ne_comma (h : Derives level opened tokens n) :
    ∀ token ∈ tokens, token.kind ≠ .comma := by
  induction h with
  | operand hk _ => simp [hk]
  | search hp _ hw _ hf _ => simp [hp, hw, hf]
  | call hk _ ho _ _ hc ih => simpa [hk, ho, hc, or_imp, forall_and] using ih
  | group ho _ _ hc ih => simpa [ho, hc, or_imp, forall_and] using ih
  | atom _ ih => exact ih
  | not hs _ ih => simpa [hs.1] using ih
  | part _ ih => exact ih
  | join _ hj _ ihl ihr => simpa [hj.1, or_imp, forall_and] using ⟨ihl, ihr⟩

end RecordQuery

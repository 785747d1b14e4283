import Mathlib.Data.Nat.Notation
import RecordQuery.Proofs.Grammar.Grouping

/-!
# The grammar of queries

The tokens of an expression, told apart by their kinds, follow the grammar

    or          :=  and ('or' and)*
    and         :=  comparison ('and' comparison)*
    comparison  :=  unary (operator unary)*
    unary       :=  'not' unary  |  atom
    atom        :=  TEXT  |  TEXT 'in' TEXT  |  METHOD '(' or ')'  |  '(' or ')'

* `Derives` — the grammar with the tree of each derivation; chains are grouped to the left, and
  parentheses leave no trace in the tree;
* `derives_or_eq` — the same grammar as sentences over atoms, as groups are reduced;
* `Derives.neighbours` — **a text in front of a parenthesis is a method, and a text in front of a
  keyword is a pattern**, although the grammar demands neither of an operand;
* `untilFinish` — the tokens in front of the first finishing one outside parentheses.

Parentheses may be nested up to a limit, so a derivation knows how many are open around it.
-/

namespace RecordQuery

/-- What a row of tokens may be read as. -/
inductive Level where
  | atom
  | unary
  | tier (tier : Tier)

/-- What the operators of a tier join. -/
def Tier.below : Tier → Level
  | .comparison => .unary
  | .and => .tier .comparison
  | .or => .tier .and

/-- The tokens can be read at this level, inside of so many open parentheses, as this tree. -/
inductive Derives : Level → ℕ → List Token → Node → Prop
  | operand {opened : ℕ} {token : Token} {leaf : Operand} :
      token.kind = .text → Operand.ofToken token = .ok leaf →
      Derives .atom opened [token] (.operand leaf token)
  | search {opened : ℕ} {pattern word field : Token} {keyword : Keyword} {compiled : Pattern}
      {leaf : Operand} :
      pattern.kind = .text → Pattern.compile? pattern.value = some compiled →
      word.kind = .keyword → Keyword.ofName? word.value = some keyword →
      field.kind = .text → Operand.ofToken field = .ok leaf →
      Derives .atom opened [pattern, word, field] (.keyword keyword compiled leaf word)
  | call {opened : ℕ} {name opener closer : Token} {method : Method} {inner : List Token}
      {n : Node} :
      name.kind = .text → Method.ofName? name.value = some method →
      opener.kind = .leftParen → opened < maxOpen →
      Derives (.tier .or) (opened + 1) inner n → closer.kind = .rightParen →
      Derives .atom opened (name :: opener :: (inner ++ [closer])) (.method method n name)
  | group {opened : ℕ} {opener closer : Token} {inner : List Token} {n : Node} :
      opener.kind = .leftParen → opened < maxOpen →
      Derives (.tier .or) (opened + 1) inner n → closer.kind = .rightParen →
      Derives .atom opened (opener :: (inner ++ [closer])) n
  | atom {opened : ℕ} {tokens : List Token} {n : Node} :
      Derives .atom opened tokens n → Derives .unary opened tokens n
  | not {opened : ℕ} {token : Token} {op : UnaryOp} {tokens : List Token} {n : Node} :
      token.Negates op → Derives .unary opened tokens n →
      Derives .unary opened (token :: tokens) (.unary op n token)
  | part {opened : ℕ} {tier : Tier} {tokens : List Token} {n : Node} :
      Derives tier.below opened tokens n → Derives (.tier tier) opened tokens n
  | join {opened : ℕ} {tier : Tier} {token : Token} {op : BinaryOp} {ls rs : List Token}
      {l r : Node} :
      Derives (.tier tier) opened ls l → token.Joins tier op → Derives tier.below opened rs r →
      Derives (.tier tier) opened (ls ++ token :: rs) (.binary op l r token)

/-- The tokens in front of the first finishing token outside parentheses, or all of them. -/
def untilFinish (opened : ℕ) : List Token → List Token
  | [] => []
  | token :: rest =>
    match token.kind with
    | .leftParen => token :: untilFinish (opened + 1) rest
    | .rightParen => token :: untilFinish (opened - 1) rest
    | .finish => if opened = 0 then [] else token :: untilFinish opened rest
    | _ => token :: untilFinish opened rest

theorem untilFinish_text {opened : ℕ} {token : Token} {rest : List Token}
    (hk : token.kind = .text) :
    untilFinish opened (token :: rest) = token :: untilFinish opened rest := by
  simp only [untilFinish, hk]

/-- Nothing is dropped in front of the finishing token. -/
theorem head?_of_untilFinish {opened : ℕ} {tokens : List Token} {first : Token}
    (h : first ∈ (untilFinish opened tokens).head?) : first ∈ tokens.head? := by
  cases tokens with
  | nil => exact h
  | cons token rest =>
    rw [untilFinish] at h
    split at h
    · exact h
    · exact h
    · split at h
      · cases h
      · exact h
    · exact h

/-! ## Derivations as sentences -/

variable {opened : ℕ} {tokens : List Token} {n : Node}

theorem derives_unary_eq : Derives .unary opened = Negation id (Derives .atom opened) := by
  funext tokens n
  apply propext
  constructor
  · intro h
    generalize hl : Level.unary = level at h
    induction h with
    | atom ha => exact .part ha
    | not hs _ ih => exact .not hs (ih rfl)
    | _ => cases hl
  · intro h
    induction h with
    | part ha => exact .atom ha
    | not hs _ ih => exact .not hs ih

theorem derives_tier_eq (tier : Tier) :
    Derives (.tier tier) opened = Chain id tier (Derives tier.below opened) := by
  funext tokens n
  apply propext
  constructor
  · intro h
    generalize hl : Level.tier tier = level at h
    induction h with
    | part hp =>
      cases hl
      exact .part hp
    | join _ hj hr ih =>
      cases hl
      exact .join (ih rfl) hj hr
    | _ => cases hl
  · intro h
    induction h with
    | part hp => exact .part hp
    | join _ hj hr ih => exact .join ih hj hr

/-- **An expression is a sentence over atoms.** -/
theorem derives_or_eq : Derives (.tier .or) opened = Sentence id (Derives .atom opened) := by
  unfold Sentence
  rw [← derives_unary_eq]
  change _ = Chain id .or (Chain id .and (Chain id .comparison (Derives Tier.comparison.below opened)))
  rw [← derives_tier_eq]
  change _ = Chain id .or (Chain id .and (Derives Tier.and.below opened))
  rw [← derives_tier_eq]
  exact derives_tier_eq .or

/-! ## The ends of an atom -/

/-- An atom starts with a text or with a parenthesis. -/
theorem Derives.head_of_atom (h : Derives .atom opened tokens n) :
    ∃ token rest, tokens = token :: rest ∧ (token.kind = .text ∨ token.kind = .leftParen) := by
  cases h with
  | operand hk _ => exact ⟨_, _, rfl, .inl hk⟩
  | search hk _ _ _ _ _ => exact ⟨_, _, rfl, .inl hk⟩
  | call hk _ _ _ _ _ => exact ⟨_, _, rfl, .inl hk⟩
  | group hk _ _ _ => exact ⟨_, _, rfl, .inr hk⟩

/-! ## Neighbours -/

/-- What a text may be in front of a parenthesis and in front of a keyword. -/
def Token.Before (token next : Token) : Prop :=
  token.kind = .text →
    (next.kind = .leftParen → ∃ method, Method.ofName? token.value = some method) ∧
    (next.kind = .keyword → ∃ compiled, Pattern.compile? token.value = some compiled)

theorem Token.before_of_kind {token next : Token} (h : token.kind ≠ .text) : token.Before next :=
  fun hk => absurd hk h

theorem Token.before_of_next {token next : Token} (hp : next.kind ≠ .leftParen)
    (hk : next.kind ≠ .keyword) : token.Before next :=
  fun _ => ⟨fun h => absurd h hp, fun h => absurd h hk⟩

theorem isChain_enclosed {opener closer : Token} {inner : List Token}
    (h : inner.IsChain Token.Before) (ho : opener.kind = .leftParen)
    (hc : closer.kind = .rightParen) :
    (opener :: (inner ++ [closer])).IsChain Token.Before := by
  refine .cons (h.append (.singleton _) ?_) ?_
  · intro token _ next hn
    cases hn
    exact Token.before_of_next (by rw [hc]; decide) (by rw [hc]; decide)
  · intro next _
    exact Token.before_of_kind (by rw [ho]; decide)

/-- **A text in front of a parenthesis is a method, and in front of a keyword it is a pattern.** -/
theorem Derives.neighbours {level : Level} (h : Derives level opened tokens n) :
    tokens.IsChain Token.Before := by
  induction h with
  | operand _ _ => exact .singleton _
  | search hp hc hw _ _ _ =>
    refine .cons_cons ?_ (.cons_cons ?_ (.singleton _))
    · exact fun _ => ⟨fun h => absurd (hw.symm.trans h) (by decide), fun _ => ⟨_, hc⟩⟩
    · exact Token.before_of_kind (by rw [hw]; decide)
  | call _ hm ho _ _ hc ih =>
    refine .cons_cons ?_ (isChain_enclosed ih ho hc)
    exact fun _ => ⟨fun _ => ⟨_, hm⟩, fun h => absurd (ho.symm.trans h) (by decide)⟩
  | group ho _ _ hc ih => exact isChain_enclosed ih ho hc
  | atom _ ih => exact ih
  | not hs _ ih => exact ih.cons fun _ _ => Token.before_of_kind (by rw [hs.1]; decide)
  | part _ ih => exact ih
  | join _ hj _ ihl ihr =>
    refine ihl.append (ihr.cons fun _ _ => Token.before_of_kind (by rw [hj.1]; decide)) ?_
    intro token _ next hn
    cases hn
    exact Token.before_of_next (by rw [hj.1]; decide) (by rw [hj.1]; decide)

end RecordQuery

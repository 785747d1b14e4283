import Mathlib.Data.List.Chain
import RecordQuery.Expr.Builder
import RecordQuery.Proofs.Result

/-!
# Groups and their grammar

A group is reduced by four passes over its items: one for `not`, and one for each tier of binary
operators.  This file says what the passes compute together, without the passes:

* `Negation`, `Chain`, `Sentence` — the grammar of a group over any alphabet: signs of `not` in
  front of a part, parts joined by the operators of one tier and grouped to the left, and the
  three tiers above each other;
* `Fills` — a row of items that stands for a longer row: some parts were replaced by their nodes,
  and everything between them was kept;
* `joinUnary_eq_ok_iff`, `joinBinary_eq_ok_iff` — each pass computes exactly such a row;
* `reduce_eq_ok_iff` — **a group reduces to a node exactly if its items are a sentence with this
  node**, whatever the items are.

The alphabet is a parameter, since the same grammar is read over items here and over tokens
elsewhere; `sign` writes an operator in it.
-/

namespace RecordQuery

/-- The token is a sign in front of its operand. -/
def Token.Negates (token : Token) (op : UnaryOp) : Prop :=
  token.kind = .unary ∧ UnaryOp.ofSymbol? token.value = some op

/-- The token is a sign between its operands, from the given tier. -/
def Token.Joins (token : Token) (tier : Tier) (op : BinaryOp) : Prop :=
  token.kind = .binary ∧ BinaryOp.ofSymbol? token.value = some op ∧ op.tier = tier

/-! ## The grammar of a group -/

section Grammar

variable {α : Type} (sign : Token → α)

/-- A part with any number of signs in front. -/
inductive Negation (part : List α → Node → Prop) : List α → Node → Prop
  | part {xs : List α} {n : Node} : part xs n → Negation part xs n
  | not {token : Token} {op : UnaryOp} {xs : List α} {n : Node} :
      token.Negates op → Negation part xs n →
      Negation part (sign token :: xs) (.unary op n token)

/-- Parts joined by the operators of one tier, grouped to the left. -/
inductive Chain (tier : Tier) (part : List α → Node → Prop) : List α → Node → Prop
  | part {xs : List α} {n : Node} : part xs n → Chain tier part xs n
  | join {token : Token} {op : BinaryOp} {xs ys : List α} {l r : Node} :
      Chain tier part xs l → token.Joins tier op → part ys r →
      Chain tier part (xs ++ sign token :: ys) (.binary op l r token)

/-- Chains of `or` over chains of `and` over chains of comparisons over signed parts. -/
def Sentence (part : List α → Node → Prop) : List α → Node → Prop :=
  Chain sign .or (Chain sign .and (Chain sign .comparison (Negation sign part)))

/-- A row that stands for a longer one: parts become nodes, and kept operators stay. -/
inductive Fills (keep : Token → Prop) (part : List α → Node → Prop) : List α → List Item → Prop
  | nil : Fills keep part [] []
  | operator {token : Token} {xs : List α} {items : List Item} :
      keep token → Fills keep part xs items →
      Fills keep part (sign token :: xs) (.operator token :: items)
  | node {n : Node} {xs ys : List α} {items : List Item} :
      part xs n → Fills keep part ys items → Fills keep part (xs ++ ys) (.node n :: items)

/-- What a row means once its parts were replaced. -/
def After (keep : Token → Prop) (part : List α → Node → Prop) (whole : List Item → Node → Prop)
    (xs : List α) (n : Node) : Prop :=
  ∃ items, Fills sign keep part xs items ∧ whole items n

end Grammar

/-- A row of one node means this node. -/
def Single (items : List Item) (n : Node) : Prop := items = [.node n]

/-! ## Neighbours in a sentence -/

section Neighbours

variable {α : Type} {sign : Token → α} {part : List α → Node → Prop} {R : α → α → Prop}

theorem Negation.isChain (hpart : ∀ xs n, part xs n → xs.IsChain R)
    (hsign : ∀ token op, token.Negates op → ∀ b, R (sign token) b) {xs : List α} {n : Node}
    (h : Negation sign part xs n) : xs.IsChain R := by
  induction h with
  | part hp => exact hpart _ _ hp
  | not hs _ ih => exact ih.cons fun b _ => hsign _ _ hs b

theorem Chain.isChain {tier : Tier} (hpart : ∀ xs n, part xs n → xs.IsChain R)
    (hsign : ∀ token op, token.Joins tier op → ∀ b, R (sign token) b ∧ R b (sign token))
    {xs : List α} {n : Node} (h : Chain sign tier part xs n) : xs.IsChain R := by
  induction h with
  | part hp => exact hpart _ _ hp
  | @join token op xs ys l r _ hj hp ih =>
    have hy : (sign token :: ys).IsChain R :=
      (hpart _ _ hp).cons fun b _ => (hsign _ _ hj b).1
    refine ih.append hy ?_
    intro b _ c hc
    cases hc
    exact (hsign _ _ hj b).2

/-- If operators are related to all their neighbours, and the parts are rows of related members,
then so are sentences. -/
theorem Sentence.isChain (hpart : ∀ xs n, part xs n → xs.IsChain R)
    (hunary : ∀ token op, token.Negates op → ∀ b, R (sign token) b)
    (hbinary : ∀ token tier op, token.Joins tier op → ∀ b, R (sign token) b ∧ R b (sign token))
    {xs : List α} {n : Node} (h : Sentence sign part xs n) : xs.IsChain R :=
  Chain.isChain (fun _ _ => Chain.isChain (fun _ _ => Chain.isChain
    (fun _ _ => Negation.isChain hpart hunary) fun _ _ => hbinary _ _ _)
      fun _ _ => hbinary _ _ _) (fun _ _ => hbinary _ _ _) h

/-- At least one of two items is an operator. -/
def Item.Apart : Item → Item → Prop
  | .node _, .node _ => False
  | _, _ => True

theorem Sentence.isChain_apart {items : List Item} {n : Node}
    (h : Sentence Item.operator Single items n) : items.IsChain Item.Apart := by
  refine h.isChain ?_ ?_ ?_
  · intro xs m hs
    rw [hs]
    exact .singleton _
  · intro token op _ b
    trivial
  · intro token tier op _ b
    exact ⟨trivial, by cases b <;> trivial⟩

/-- Two nodes never stand side by side in a sentence. -/
theorem not_sentence_adjacent {before behind : List Item} {l r n : Node} :
    ¬ Sentence Item.operator Single (before ++ .node l :: .node r :: behind) n :=
  fun h => (List.isChain_append_cons_cons.1 h.isChain_apart).2.1

end Neighbours

/-! ## Replacing parts by their nodes -/

section Replacement

variable {α : Type} {sign : Token → α} {keep : Token → Prop} {part : List α → Node → Prop}

theorem Fills.append {xs ys : List α} {items items' : List Item}
    (h : Fills sign keep part xs items) (h' : Fills sign keep part ys items') :
    Fills sign keep part (xs ++ ys) (items ++ items') := by
  induction h with
  | nil => exact h'
  | operator hk _ ih => exact .operator hk ih
  | node hp _ ih =>
    rw [List.append_assoc]
    exact .node hp ih

theorem Fills.split {items items' : List Item} :
    ∀ {xs : List α}, Fills sign keep part xs (items ++ items') →
      ∃ ys zs, xs = ys ++ zs ∧ Fills sign keep part ys items ∧ Fills sign keep part zs items' := by
  induction items with
  | nil =>
    intro xs h
    exact ⟨[], xs, rfl, .nil, h⟩
  | cons item items ih =>
    intro xs h
    cases h with
    | operator hk h =>
      obtain ⟨ys, zs, rfl, hy, hz⟩ := ih h
      exact ⟨_ :: ys, zs, rfl, .operator hk hy, hz⟩
    | node hp h =>
      obtain ⟨ys, zs, rfl, hy, hz⟩ := ih h
      exact ⟨_ ++ ys, zs, by rw [List.append_assoc], .node hp hy, hz⟩

theorem Fills.concat_node {xs ys : List α} {items : List Item} {n : Node}
    (h : Fills sign keep part xs items) (hp : part ys n) :
    Fills sign keep part (xs ++ ys) (items ++ [.node n]) := by
  have hn : Fills sign keep part (ys ++ []) [.node n] := .node hp .nil
  rw [List.append_nil] at hn
  exact h.append hn

theorem Fills.concat_operator {xs : List α} {items : List Item} {token : Token}
    (h : Fills sign keep part xs items) (hk : keep token) :
    Fills sign keep part (xs ++ [sign token]) (items ++ [.operator token]) :=
  h.append (.operator hk .nil)

theorem fills_single_iff {xs : List α} {n : Node} :
    Fills sign keep part xs [.node n] ↔ part xs n := by
  constructor
  · intro h
    cases h with
    | node hp h =>
      cases h
      rwa [List.append_nil]
  · intro h
    exact Fills.nil.concat_node h

/-- A row of one node stands for the part of this node. -/
theorem after_single : After sign keep part Single = part := by
  funext xs n
  apply propext
  constructor
  · rintro ⟨items, h, rfl⟩
    exact fills_single_iff.1 h
  · intro h
    exact ⟨[.node n], fills_single_iff.2 h, rfl⟩

variable {whole : List Item → Node → Prop}

theorem chain_of_after {tier : Tier} {items : List Item} {n : Node}
    (h : Chain Item.operator tier whole items n) :
    ∀ {xs : List α}, Fills sign keep part xs items →
      Chain sign tier (After sign keep part whole) xs n := by
  induction h with
  | part hw => exact fun hf => .part ⟨_, hf, hw⟩
  | join _ hj hw ih =>
    intro xs hf
    obtain ⟨ys, zs, rfl, hy, hz⟩ := hf.split
    cases hz with
    | operator _ hz => exact .join (ih hy) hj ⟨_, hz, hw⟩

theorem after_of_chain {tier : Tier} (hkeep : ∀ token op, token.Joins tier op → keep token)
    {xs : List α} {n : Node} (h : Chain sign tier (After sign keep part whole) xs n) :
    After sign keep part (Chain Item.operator tier whole) xs n := by
  induction h with
  | part hw =>
    obtain ⟨items, hf, hw⟩ := hw
    exact ⟨items, hf, .part hw⟩
  | join _ hj hr ih =>
    obtain ⟨items, hf, hc⟩ := ih
    obtain ⟨items', hf', hw⟩ := hr
    exact ⟨_, hf.append (.operator (hkeep _ _ hj) hf'), .join hc hj hw⟩

/-- **Replacing parts commutes with chains**, if the operators of the chain are kept. -/
theorem after_chain {tier : Tier} (hkeep : ∀ token op, token.Joins tier op → keep token) :
    After sign keep part (Chain Item.operator tier whole)
      = Chain sign tier (After sign keep part whole) := by
  funext xs n
  apply propext
  constructor
  · rintro ⟨items, hf, hc⟩
    exact chain_of_after hc hf
  · exact after_of_chain hkeep

/-- **Replacing parts commutes with signs in front**, if these signs are kept. -/
theorem after_negation (hkeep : ∀ token op, token.Negates op → keep token) :
    After sign keep part (Negation Item.operator whole)
      = Negation sign (After sign keep part whole) := by
  funext xs n
  apply propext
  constructor
  · rintro ⟨items, hf, hn⟩
    induction hn generalizing xs with
    | part hw => exact .part ⟨_, hf, hw⟩
    | not hs _ ih =>
      cases hf with
      | operator _ hf => exact .not hs (ih _ hf)
  · intro hn
    induction hn with
    | part hw =>
      obtain ⟨items, hf, hw⟩ := hw
      exact ⟨items, hf, .part hw⟩
    | not hs _ ih =>
      obtain ⟨items, hf, hn⟩ := ih
      exact ⟨_, .operator (hkeep _ _ hs) hf, .not hs hn⟩

/-- Replacing parts commutes with sentences, if all operators are kept. -/
theorem after_sentence (hunary : ∀ token op, token.Negates op → keep token)
    (hbinary : ∀ token tier op, token.Joins tier op → keep token) :
    After sign keep part (Sentence Item.operator whole)
      = Sentence sign (After sign keep part whole) := by
  unfold Sentence
  rw [after_chain fun _ _ => hbinary _ _ _, after_chain fun _ _ => hbinary _ _ _,
    after_chain fun _ _ => hbinary _ _ _, after_negation hunary]

end Replacement

/-! ## The pass for `not` -/

theorem joinUnary_of_negation {items : List Item} {n : Node}
    (h : Negation Item.operator Single items n) (rest : List Item) :
    joinUnary (items ++ rest) = (joinUnary rest).map (Item.node n :: ·) := by
  induction h with
  | part hs =>
    rw [hs, List.singleton_append, joinUnary]
    cases joinUnary rest <;> rfl
  | not hs _ ih =>
    rw [List.cons_append, joinUnary, ih]
    cases joinUnary rest with
    | error e => rfl
    | ok rest => simp [Except.map, bind, Except.bind, hs.1, hs.2]

theorem joinUnary_of_fills {items out : List Item}
    (h : Fills Item.operator (·.kind ≠ .unary) (Negation Item.operator Single) items out) :
    joinUnary items = .ok out := by
  induction h with
  | nil => rfl
  | operator hk _ ih =>
    rw [joinUnary, ih]
    simp [bind, Except.bind, hk]
  | node hn _ ih =>
    rw [joinUnary_of_negation hn, ih]
    rfl

theorem fills_of_joinUnary {items : List Item} :
    ∀ {out : List Item}, joinUnary items = .ok out →
      Fills Item.operator (·.kind ≠ .unary) (Negation Item.operator Single) items out := by
  induction items with
  | nil =>
    intro out h
    cases h
    exact .nil
  | cons item items ih =>
    intro out h
    rw [joinUnary] at h
    obtain ⟨joined, hj, h⟩ := Except.bind_eq_ok_iff.1 h
    have hf := ih hj
    cases item with
    | node n =>
      cases h
      exact .node (.part rfl) hf
    | operator token =>
      by_cases hk : token.kind = .unary
      · simp only [hk, if_true] at h
        cases hop : UnaryOp.ofSymbol? token.value with
        | none => simp [hop] at h
        | some op =>
          simp only [hop] at h
          split at h
          · cases h
            cases hf with
            | node hn hf => exact .node (.not ⟨hk, hop⟩ hn) hf
          · cases h
      · simp only [hk, if_false] at h
        cases h
        exact .operator hk hf

/-- **The pass for `not`** replaces every signed node, and keeps all other operators. -/
theorem joinUnary_eq_ok_iff {items out : List Item} :
    joinUnary items = .ok out ↔
      Fills Item.operator (·.kind ≠ .unary) (Negation Item.operator Single) items out :=
  ⟨fills_of_joinUnary, joinUnary_of_fills⟩

/-! ## The pass for a tier -/

/-- The token is no operator of this tier, and no unknown one. -/
def Token.Passes (token : Token) (tier : Tier) : Prop :=
  token.kind = .binary → ∃ op, BinaryOp.ofSymbol? token.value = some op ∧ op.tier ≠ tier

theorem joinBinary_of_chain {tier : Tier} {items : List Item} {n : Node}
    (h : Chain Item.operator tier Single items n) :
    ∀ left rest, joinBinary tier left (items ++ rest) = joinBinary tier (.node n :: left) rest := by
  induction h with
  | part hs =>
    intro left rest
    rw [hs, List.singleton_append, joinBinary]
  | join _ hj hs ih =>
    intro left rest
    obtain ⟨hk, hop, ht⟩ := hj
    rw [hs, List.append_assoc, ih, List.cons_append, List.singleton_append, joinBinary]
    simp only [hk, hop, ht, if_true]

theorem joinBinary_of_passes {tier : Tier} {token : Token} (h : token.Passes tier)
    (left rest : List Item) :
    joinBinary tier left (.operator token :: rest)
      = joinBinary tier (.operator token :: left) rest := by
  by_cases hk : token.kind = .binary
  · obtain ⟨op, hop, ht⟩ := h hk
    rw [joinBinary.eq_3]
    simp only [hk, hop, ht, if_true, if_false]
  · rw [joinBinary.eq_3]
    simp only [hk, if_false]

theorem joinBinary_of_fills {tier : Tier} {items out : List Item}
    (h : Fills Item.operator (·.Passes tier) (Chain Item.operator tier Single) items out) :
    ∀ left, joinBinary tier left items = .ok (left.reverse ++ out) := by
  induction h with
  | nil =>
    intro left
    rw [joinBinary, List.append_nil]
  | operator hk _ ih =>
    intro left
    rw [joinBinary_of_passes hk, ih, List.reverse_cons, List.append_assoc, List.singleton_append]
  | node hc _ ih =>
    intro left
    rw [joinBinary_of_chain hc, ih, List.reverse_cons, List.append_assoc, List.singleton_append]

/-- The row on the left stands for the items read so far, whatever comes next. -/
theorem fills_of_joinBinary {tier : Tier} {left items out done : List Item}
    (h : joinBinary tier left items = .ok out)
    (hd : Fills Item.operator (·.Passes tier) (Chain Item.operator tier Single) done left.reverse) :
    Fills Item.operator (·.Passes tier) (Chain Item.operator tier Single) (done ++ items) out := by
  fun_induction joinBinary tier left items generalizing done with
  | case1 left =>
    cases h
    rwa [List.append_nil]
  | case2 left n items ih =>
    have hn := hd.concat_node (.part (rfl : Single [.node n] n))
    rw [← List.reverse_cons] at hn
    simpa using ih h hn
  | case3 => cases h
  | case4 token hk op hop ht l left r items ih =>
    rw [List.reverse_cons] at hd
    obtain ⟨ys, zs, rfl, hy, hz⟩ := hd.split
    have hc := Chain.join (fills_single_iff.1 hz) ⟨hk, hop, ht⟩ (rfl : Single [.node r] r)
    have hn := hy.concat_node hc
    rw [← List.reverse_cons] at hn
    simpa using ih h hn
  | case5 => cases h
  | case6 left token items hk op hop ht ih =>
    have hp : token.Passes tier := fun _ => ⟨op, hop, ht⟩
    have hn := hd.concat_operator hp
    rw [← List.reverse_cons] at hn
    simpa using ih h hn
  | case7 left token items hk ih =>
    have hp : token.Passes tier := fun hb => absurd hb hk
    have hn := hd.concat_operator hp
    rw [← List.reverse_cons] at hn
    simpa using ih h hn

/-- **The pass for a tier** replaces every chain of the tier, and keeps all other operators. -/
theorem joinBinary_eq_ok_iff {tier : Tier} {items out : List Item} :
    joinBinary tier [] items = .ok out ↔
      Fills Item.operator (·.Passes tier) (Chain Item.operator tier Single) items out :=
  ⟨fun h => fills_of_joinBinary h .nil, fun h => joinBinary_of_fills h []⟩

/-! ## All passes -/

theorem single_eq_ok_iff {span : Span} {items : List Item} {n : Node} :
    single span items = .ok n ↔ Single items n := by
  unfold Single
  constructor
  · intro h
    unfold single at h
    split at h
    · cases h
    · cases h
      rfl
    · cases h
    · cases h
  · rintro rfl
    rfl

/-- An operator of another tier passes. -/
theorem Token.Joins.passes {token : Token} {tier other : Tier} {op : BinaryOp}
    (h : token.Joins tier op) (hne : tier ≠ other) : token.Passes other :=
  fun _ => ⟨op, h.2.1, fun ht => hne (h.2.2.symm.trans ht)⟩

/-- **A group reduces to a node exactly if its items are a sentence with this node.** -/
theorem reduce_eq_ok_iff (span : Span) {items : List Item} {n : Node} :
    reduce span items = .ok n ↔ Sentence Item.operator Single items n := by
  have hpasses : reduce span items = .ok n ↔
      After Item.operator (·.kind ≠ .unary) (Negation Item.operator Single)
        (After Item.operator (·.Passes .comparison) (Chain Item.operator .comparison Single)
          (After Item.operator (·.Passes .and) (Chain Item.operator .and Single)
            (After Item.operator (·.Passes .or) (Chain Item.operator .or Single) Single)))
        items n := by
    simp only [reduce, Tier.all, joinTiers, After, Except.bind_eq_ok_iff, joinUnary_eq_ok_iff,
      joinBinary_eq_ok_iff, single_eq_ok_iff]
    constructor
    · rintro ⟨i₁, h₁, i₄, ⟨i₂, h₂, i₃, h₃, _, h₄, he⟩, hs⟩
      cases he
      exact ⟨i₁, h₁, i₂, h₂, i₃, h₃, i₄, h₄, hs⟩
    · rintro ⟨i₁, h₁, i₂, h₂, i₃, h₃, i₄, h₄, hs⟩
      exact ⟨i₁, h₁, i₄, ⟨i₂, h₂, i₃, h₃, i₄, h₄, rfl⟩, hs⟩
  rw [hpasses, after_single]
  -- Each pass is moved below the passes after it, the last one first.
  rw [after_chain fun _ _ hj => hj.passes (by decide), after_single]
  rw [after_chain fun _ _ hj => hj.passes (by decide),
    after_chain fun _ _ hj => hj.passes (by decide), after_single]
  have hkeep : ∀ tier token op, Token.Joins token tier op → token.kind ≠ .unary :=
    fun _ _ _ hj => by rw [hj.1]; decide
  rw [after_chain (hkeep _), after_chain (hkeep _), after_chain (hkeep _), after_single]
  rfl

end RecordQuery

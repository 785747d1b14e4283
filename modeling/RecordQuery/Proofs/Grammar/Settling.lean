import Mathlib.Data.Nat.Notation
import RecordQuery.Proofs.Grammar.Grouping

/-!
# Groups that are still read

A group that is read token by token is complete behind each operand, and behind each operator it
waits for one.  What stands in front of it is then either one sentence or, if something has torn the
group apart, several of them.

* `Sentences`, `Settles` — sentences one behind the other, and when there may be several;
* `Awaits` — any operand settles the items;
* `Settles.operator`, `Awaits.operator`, `Awaits.node` — **an operator makes a settled group wait,
  and an operand settles it**;
* `reduce_eq_error` — **a settled group is rejected only if it is torn**.
-/

namespace RecordQuery

/-- The items are so many sentences one behind the other. -/
inductive Sentences : ℕ → List Item → Prop
  | one {items : List Item} {n : Node} :
      Sentence Item.operator Single items n → Sentences 1 items
  | more {count : ℕ} {items row : List Item} {n : Node} :
      Sentences count items → Sentence Item.operator Single row n →
      Sentences (count + 1) (items ++ row)

/-- The items are a sentence, or several of them if they are torn apart. -/
def Settles (torn : Prop) (items : List Item) : Prop :=
  ∃ count, Sentences count items ∧ (2 ≤ count → torn)

/-- Any operand, with signs in front or without, settles the items. -/
def Awaits (torn : Prop) (items : List Item) : Prop :=
  ∀ operand n, Negation Item.operator Single operand n → Settles torn (items ++ operand)

/-- The items after all passes. -/
def Joined (items out : List Item) : Prop :=
  ∃ middle, joinUnary items = .ok middle ∧ joinTiers Tier.all middle = .ok out

variable {torn : Prop} {count : ℕ} {items items' out out' operand row : List Item} {n l r : Node}
  {token : Token} {tier : Tier} {span : Span}

/-! ## Longer sentences -/

theorem sentence_of_negation (h : Negation Item.operator Single operand n) :
    Sentence Item.operator Single operand n := .part (.part (.part h))

/-- A chain goes on where its last part does. -/
theorem Chain.exists_append {part : List Item → Node → Prop}
    (hpart : ∀ xs l, part xs l → ∃ n, part (xs ++ row) n)
    (h : Chain Item.operator tier part items l) :
    ∃ n, Chain Item.operator tier part (items ++ row) n := by
  cases h with
  | part hp =>
    obtain ⟨n, hn⟩ := hpart _ _ hp
    exact ⟨n, .part hn⟩
  | join hc hj hp =>
    obtain ⟨n, hn⟩ := hpart _ _ hp
    rw [List.append_assoc, List.cons_append]
    exact ⟨_, .join hc hj hn⟩

/-- A sentence goes on with an operator of any tier and an operand. -/
theorem Sentence.exists_append {op : BinaryOp} (h : Sentence Item.operator Single items l)
    (hj : token.Joins tier op) (ho : Negation Item.operator Single operand r) :
    ∃ n, Sentence Item.operator Single (items ++ .operator token :: operand) n := by
  cases tier with
  | comparison =>
    refine Chain.exists_append (fun _ _ hand => Chain.exists_append (fun _ _ hc => ?_) hand) h
    exact ⟨_, .join hc hj ho⟩
  | and =>
    refine Chain.exists_append (fun _ _ hand => ?_) h
    exact ⟨_, .join hand hj (.part ho)⟩
  | or => exact ⟨_, .join h hj (.part (.part ho))⟩

theorem Sentences.exists_append {op : BinaryOp} (h : Sentences count items)
    (hj : token.Joins tier op) (ho : Negation Item.operator Single operand r) :
    Sentences count (items ++ .operator token :: operand) := by
  cases h with
  | one hs =>
    obtain ⟨_, hn⟩ := hs.exists_append hj ho
    exact .one hn
  | more hrows hs =>
    obtain ⟨_, hn⟩ := hs.exists_append hj ho
    rw [List.append_assoc]
    exact .more hrows hn

/-! ## Operators and operands -/

theorem awaits_nil : Awaits torn [] :=
  fun _ _ ho => ⟨1, .one (sentence_of_negation ho), fun h => absurd h (by decide)⟩

theorem Awaits.node (h : Awaits torn items) (n : Node) : Settles torn (items ++ [.node n]) :=
  h _ n (.part rfl)

/-- A sign in front of an operand makes an operand again. -/
theorem Awaits.operator {op : UnaryOp} (h : Awaits torn items) (hs : token.Negates op) :
    Awaits torn (items ++ [.operator token]) := by
  intro operand n ho
  rw [List.append_assoc]
  exact h _ _ (.not hs ho)

theorem Settles.operator {op : BinaryOp} (h : Settles torn items) (hj : token.Joins tier op) :
    Awaits torn (items ++ [.operator token]) := by
  obtain ⟨count, hrows, htorn⟩ := h
  intro operand n ho
  rw [List.append_assoc]
  exact ⟨count, hrows.exists_append hj ho, htorn⟩

/-- An operand beside a settled group tears it apart. -/
theorem Settles.node (h : Settles torn items) (htorn : torn) (n : Node) :
    Settles torn (items ++ [.node n]) := by
  obtain ⟨count, hrows, _⟩ := h
  exact ⟨count + 1, .more hrows (sentence_of_negation (.part rfl)), fun _ => htorn⟩

/-! ## Reducing several sentences -/

theorem joinTiers_append (tiers : List Tier) (h : joinTiers tiers items = .ok out)
    (h' : joinTiers tiers items' = .ok out') :
    joinTiers tiers (items ++ items') = .ok (out ++ out') := by
  induction tiers generalizing items items' with
  | nil =>
    cases h
    cases h'
    rfl
  | cons tier tiers ih =>
    rw [joinTiers, Except.bind_eq_ok_iff] at h h' ⊢
    obtain ⟨middle, hm, h⟩ := h
    obtain ⟨middle', hm', h'⟩ := h'
    rw [joinBinary_eq_ok_iff] at hm hm'
    exact ⟨_, joinBinary_eq_ok_iff.2 (hm.append hm'), ih h h'⟩

theorem Joined.append (h : Joined items out) (h' : Joined items' out') :
    Joined (items ++ items') (out ++ out') := by
  obtain ⟨middle, hm, ht⟩ := h
  obtain ⟨middle', hm', ht'⟩ := h'
  rw [joinUnary_eq_ok_iff] at hm hm'
  exact ⟨_, joinUnary_eq_ok_iff.2 (hm.append hm'), joinTiers_append _ ht ht'⟩

theorem reduce_of_joined (h : Joined items out) : reduce span items = single span out := by
  obtain ⟨middle, hm, ht⟩ := h
  unfold reduce
  rw [hm]
  show (joinTiers Tier.all middle >>= single span) = single span out
  rw [ht]
  rfl

theorem joined_of_sentence (h : Sentence Item.operator Single items n) :
    Joined items [.node n] := by
  have hr := (reduce_eq_ok_iff ⟨0, 0⟩).2 h
  unfold reduce at hr
  obtain ⟨middle, hm, hr⟩ := Except.bind_eq_ok_iff.1 hr
  obtain ⟨out, ht, hs⟩ := Except.bind_eq_ok_iff.1 hr
  rw [single_eq_ok_iff.1 hs] at ht
  exact ⟨middle, hm, ht⟩

/-- Every sentence is reduced to a node of its own. -/
theorem joined_of_sentences (h : Sentences count items) :
    ∃ nodes : List Node, nodes.length = count ∧ Joined items (nodes.map Item.node) := by
  induction h with
  | one hs => exact ⟨[_], rfl, joined_of_sentence hs⟩
  | @more _ _ _ n _ hs ih =>
    obtain ⟨nodes, rfl, hj⟩ := ih
    refine ⟨nodes ++ [n], List.length_append, ?_⟩
    rw [List.map_append]
    exact hj.append (joined_of_sentence hs)

/-- **A settled group is rejected only if it is torn**, and then for its several parts. -/
theorem reduce_eq_error {e : ParseError} (h : Settles torn items)
    (he : reduce span items = .error e) :
    ∃ count, 2 ≤ count ∧ torn ∧ e = .misshapen (.severalParts count) span := by
  obtain ⟨count, hrows, htorn⟩ := h
  obtain ⟨nodes, hlength, hj⟩ := joined_of_sentences hrows
  rw [reduce_of_joined hj] at he
  -- The passes leave one node for each sentence, so only their number can be wrong.
  match nodes with
  | [] => cases hrows <;> cases hlength
  | [n] => cases he
  | m :: n :: nodes =>
    have hcount : 2 ≤ count := by
      rw [← hlength]
      simp
    refine ⟨count, hcount, htorn hcount, ?_⟩
    rw [← hlength]
    simpa [single, eq_comm] using he

end RecordQuery

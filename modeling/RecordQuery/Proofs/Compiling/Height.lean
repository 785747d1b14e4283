import RecordQuery.Proofs.Compiling.Tree
import RecordQuery.Proofs.Grammar.Depth
import RecordQuery.Proofs.Grammar.Placing

/-!
# The height of trees

A tree is computed by recursion, so its height is what a computation may need of the stack.  The
limit on open parentheses bounds how groups and calls are nested, and nothing else: neither a row of
`not` nor a chain of operators opens a parenthesis, and each of their operators makes the tree
higher by one.

* `Node.levels` — the height of a tree in which a row of `not` counts once, and so does a chain of
  operators of one tier that are grouped to the left;
* `Derives.levels_le` — **the limit bounds the levels**, five for each parenthesis;
* `Derives.height_le` — beyond the limit, a tree is as high as there are operators;
* `height_not_bounded` — **no constant bounds the height**.
-/

namespace RecordQuery

namespace Node

/-- Whether a tree is a negation. -/
def isNegation : Node → Bool
  | unary _ _ _ => true
  | _ => false

/-- The tier of the operator at the root of a tree. -/
def tier? : Node → Option Tier
  | binary op _ _ _ => some op.tier
  | _ => none

/-- The height of a tree in which a row of `not`, and a chain of operators of one tier that are
grouped to the left, are one level each. -/
def levels : Node → ℕ
  | operand _ _ => 1
  | method _ argument _ => argument.levels + 1
  | unary _ inner _ => if inner.isNegation then inner.levels else inner.levels + 1
  | binary op left right _ =>
    max (if left.tier? = some op.tier then left.levels else left.levels + 1) (right.levels + 1)
  | keyword _ _ _ _ => 1

/-- An operator of this level that is put on top of the tree goes on with a row or a chain. -/
def Continues (n : Node) : Level → Prop
  | .atom => True
  | .unary => n.isNegation
  | .tier tier => n.tier? = some tier

end Node

/-- How many levels a tree may have that is read at this level, inside of so many open parentheses. -/
def Level.bound (opened : ℕ) : Level → ℕ
  | atom => 5 * (maxOpen - opened) + 1
  | unary => 5 * (maxOpen - opened) + 2
  | tier .comparison => 5 * (maxOpen - opened) + 3
  | tier .and => 5 * (maxOpen - opened) + 4
  | tier .or => 5 * (maxOpen - opened) + 5

variable {opened : ℕ} {level : Level} {tokens : List Token} {n root : Node} {source : String}
  {previous : TokenKind}

/-! ## Levels -/

theorem Level.bound_pos (opened : ℕ) (level : Level) : 1 ≤ level.bound opened := by
  unfold bound
  split <;> omega

/-- Each tier is one level above what its operators join. -/
theorem Tier.bound_below (opened : ℕ) (tier : Tier) :
    tier.below.bound opened + 1 = (Level.tier tier).bound opened := by
  cases tier <;> rfl

/-- A parenthesis makes room for a group and for a call around it. -/
theorem bound_group (h : opened < maxOpen) :
    (Level.tier .or).bound (opened + 1) + 1 ≤ Level.atom.bound opened := by
  simp only [Level.bound]
  omega

/-- **The limit bounds the levels of a tree**, and one level more where the next operator starts a
new one. -/
theorem Derives.levels_le (h : Derives level opened tokens n) :
    n.levels ≤ level.bound opened ∧
      (¬ n.Continues level → n.levels + 1 ≤ level.bound opened) := by
  induction h with
  | operand _ _ => exact ⟨Level.bound_pos _ _, fun hc => absurd trivial hc⟩
  | search _ _ _ _ _ _ => exact ⟨Level.bound_pos _ _, fun hc => absurd trivial hc⟩
  | call _ _ _ hopen _ _ ih =>
    refine ⟨?_, fun hc => absurd trivial hc⟩
    have hgroup := bound_group hopen
    have hinner := ih.1
    simp only [Node.levels]
    omega
  | group _ hopen _ _ ih =>
    refine ⟨?_, fun hc => absurd trivial hc⟩
    have hgroup := bound_group hopen
    have hinner := ih.1
    omega
  | @atom opened _ _ _ ih =>
    have hatom : Level.atom.bound opened + 1 = Level.unary.bound opened := rfl
    have hinner := ih.1
    exact ⟨by omega, fun _ => by omega⟩
  | not _ _ ih =>
    refine ⟨?_, fun hc => absurd rfl hc⟩
    simp only [Node.levels]
    split_ifs with hn
    · exact ih.1
    · exact ih.2 hn
  | @part opened tier _ _ _ ih =>
    have hbelow := Tier.bound_below opened tier
    have hinner := ih.1
    exact ⟨by omega, fun _ => by omega⟩
  | @join opened tier _ op _ _ l r _ hj _ ihl ihr =>
    obtain ⟨_, _, rfl⟩ := hj
    refine ⟨?_, fun hc => absurd rfl hc⟩
    have hbelow := Tier.bound_below opened op.tier
    have hright := ihr.1
    simp only [Node.levels]
    split_ifs with hl
    · have hleft := ihl.1
      omega
    · have hleft := ihl.2 hl
      omega

/-! ## Height -/

/-- **Beyond the limit, a tree is as high as there are operators.** -/
theorem Derives.height_le (h : Derives level opened tokens n) :
    n.height ≤ maxOpen - opened + 1 + (countKind .unary tokens + countKind .binary tokens) := by
  induction h with
  | operand _ _ => simp only [Node.height]; omega
  | search _ _ _ _ _ _ => simp only [Node.height]; omega
  | call hk _ ho hopen _ hc ih =>
    simp only [Node.height, countKind_cons, countKind_append, countKind_nil, hk, ho, hc,
      reduceCtorEq, if_false]
    omega
  | group ho hopen _ hc ih =>
    simp only [countKind_cons, countKind_append, countKind_nil, ho, hc, reduceCtorEq, if_false]
    omega
  | atom _ ih => exact ih
  | not hs _ ih =>
    simp only [Node.height, countKind_cons, hs.1, reduceCtorEq, if_true, if_false]
    omega
  | part _ ih => exact ih
  | join _ hj _ ihl ihr =>
    simp only [Node.height, countKind_cons, countKind_append, hj.1, reduceCtorEq, if_true,
      if_false]
    omega

/-- **The limit on parentheses bounds the levels of every compiled query**, and its height but for
the operators. -/
theorem compile_levels (h : Query.compile source = .ok ⟨source, some root⟩) :
    root.levels ≤ 5 * (maxOpen + 1) ∧
      ∃ tokens, tokenize source.toList = .ok tokens ∧
        root.height ≤ maxOpen + 1 + (countKind .unary tokens + countKind .binary tokens) := by
  obtain ⟨tokens, ht, hd⟩ := compile_eq_ok_iff.1 h
  refine ⟨hd.levels_le.1, tokens, ht, ?_⟩
  have hheight := hd.height_le
  have hdrop : ∀ kind, countKind kind tokens.dropLast ≤ countKind kind tokens := fun kind =>
    List.Sublist.countP_le (List.dropLast_sublist tokens)
  have hunary := hdrop .unary
  have hbinary := hdrop .binary
  omega

/-- A row of `not` at the bottom of a chain of `or` makes three levels, and each operator of the two
makes the tree higher. -/
theorem compile_levels_chain :
    let negated : Node := .unary .not (.unary .not (.operand (.path ⟨[.key "a"]⟩)
      ⟨"a", ⟨8, 1⟩, .text, .unary, false⟩) ⟨"not", ⟨4, 3⟩, .unary, .unary, false⟩)
      ⟨"not", ⟨0, 3⟩, .unary, .start, false⟩
    let root : Node := .binary .or (.binary .or negated
      (.operand (.path ⟨[.key "b"]⟩) ⟨"b", ⟨13, 1⟩, .text, .binary, false⟩)
      ⟨"or", ⟨10, 2⟩, .binary, .text, false⟩)
      (.operand (.path ⟨[.key "c"]⟩) ⟨"c", ⟨18, 1⟩, .text, .binary, false⟩)
      ⟨"or", ⟨15, 2⟩, .binary, .text, false⟩
    Query.compile "not not a or b or c" = .ok ⟨"not not a or b or c", some root⟩ ∧
      root.levels = 3 ∧ root.height = 5 ∧ root.levels ≤ 5 * (maxOpen + 1) := by
  intro negated root
  have htokens : tokenize "not not a or b or c".toList =
      .ok [⟨"not", ⟨0, 3⟩, .unary, .start, false⟩, ⟨"not", ⟨4, 3⟩, .unary, .unary, false⟩,
        ⟨"a", ⟨8, 1⟩, .text, .unary, false⟩, ⟨"or", ⟨10, 2⟩, .binary, .text, false⟩,
        ⟨"b", ⟨13, 1⟩, .text, .binary, false⟩, ⟨"or", ⟨15, 2⟩, .binary, .text, false⟩,
        ⟨"c", ⟨18, 1⟩, .text, .binary, false⟩, ⟨"", ⟨19, 0⟩, .finish, .text, false⟩] := by cbv
  have hnegated : Derives .unary 0 _ negated :=
    .not ⟨rfl, rfl⟩ (.not ⟨rfl, rfl⟩ (.atom (.operand rfl rfl)))
  have hroot : Derives (.tier .or) 0 _ root :=
    .join (.join (.part (.part (.part hnegated))) ⟨rfl, rfl, rfl⟩
      (.part (.part (.atom (.operand rfl rfl))))) ⟨rfl, rfl, rfl⟩
      (.part (.part (.atom (.operand rfl rfl))))
  have hcompile : Query.compile "not not a or b or c" = .ok ⟨"not not a or b or c", some root⟩ :=
    compile_eq_ok_iff.2 ⟨_, htokens, hroot⟩
  exact ⟨hcompile, rfl, rfl, (compile_levels hcompile).1⟩

/-! ## Rows of `not` -/

/-- The text `not not … a` with so many `not`. -/
def negations : ℕ → List Char
  | 0 => ['a']
  | count + 1 => 'n' :: 'o' :: 't' :: ' ' :: negations count

/-- Each `not` makes a tree higher by one and opens no parenthesis. -/
theorem exists_derives_negations (count : ℕ) :
    ∀ {position : ℕ} {gap : List Char}, (∀ c ∈ gap, Text.isBlank c) →
      previous = .start ∨ previous = .unary →
      ∃ tokens n, Spells position previous 0 (gap ++ negations count) tokens ∧
        Derives .unary 0 tokens.dropLast n ∧ n.height = count + 1 := by
  induction count generalizing previous with
  | zero =>
    intro position gap hgap hprevious
    have hof : TokenKind.of? (String.ofList ['a']) false previous = some .text := by
      rcases hprevious with rfl | rfl <;> rfl
    have hword : Spelling ['a'] ['a'] false [] :=
      .bare (by decide) (by simp [Lexer.isBare, Text.isBlank]) (by simp)
    -- an operand is read from its text alone, here that of a token at a known place
    have hleaf : ∀ span, Operand.ofToken ⟨String.ofList ['a'], span, .text, previous, false⟩ =
        .ok (.path ⟨[.key "a"]⟩) := fun span =>
      ofToken_of_detached (rfl : Token.detached ⟨"a", ⟨0, 1⟩, .text, .start, false⟩ = _) rfl
    exact ⟨_, _, .token hgap hword hof rfl (.finish (by simp) rfl),
      .atom (.operand rfl (hleaf _)), rfl⟩
  | succ count ih =>
    intro position gap hgap hprevious
    have hof : TokenKind.of? (String.ofList ['n', 'o', 't']) false previous = some .unary := by
      rcases hprevious with rfl | rfl <;> rfl
    have hword : Spelling ['n', 'o', 't'] ['n', 'o', 't'] false (' ' :: negations count) :=
      .bare (by decide) (by simp [Lexer.isBare, Text.isBlank]) (by simp [Lexer.isBare, Text.isBlank])
    obtain ⟨tokens, n, hs, hd, hn⟩ := @ih .unary (position + gap.length + 3) [' ']
      (by simp [Text.isBlank]) (.inr rfl)
    have hnot : Token.Negates ⟨String.ofList ['n', 'o', 't'], ⟨position + gap.length, 3⟩, .unary,
        previous, false⟩ .not := ⟨rfl, rfl⟩
    have hroot := Derives.not hnot hd
    rw [← List.dropLast_cons_of_ne_nil hs.ne_nil] at hroot
    exact ⟨_, _, .token hgap hword hof rfl hs, hroot, by rw [Node.height, hn]⟩

/-- **No constant bounds the height of compiled queries.** -/
theorem height_not_bounded :
    ¬ ∃ bound, ∀ source root, Query.compile source = .ok ⟨source, some root⟩ →
      root.height ≤ bound := by
  rintro ⟨bound, hbound⟩
  obtain ⟨tokens, n, hs, hd, hn⟩ :=
    @exists_derives_negations .start bound 0 [] (by simp) (.inl rfl)
  have htokens : tokenize (String.ofList (negations bound)).toList = .ok tokens := by
    rw [String.toList_ofList]
    exact tokenize_eq_ok_iff.2 hs
  have hle := hbound _ n (compile_eq_ok_iff.2 ⟨tokens, htokens, .part (.part (.part hd))⟩)
  omega

end RecordQuery

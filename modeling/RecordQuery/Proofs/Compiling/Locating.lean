import RecordQuery.Proofs.Compiling.Reaching
import RecordQuery.Proofs.Paths.Failing

/-!
# Where the builder fails

Each failure of the builder has a place of its own: that of a token, of a group, of all the tokens,
or of a part of the text of a token.  All of them lie in the query since the tokens do, and a token
takes as many characters as its text at least.

* `Token.Sits` — what is to be known of a token and its place;
* `rejected_of_ofToken` — **an operand that cannot be read is at fault inside its own token**;
* `Rooted` — the builder has nothing but tokens of one row;
* `Rooted.located_of_collect` — **wherever the builder fails, it fails inside of the row**.
-/

namespace RecordQuery

/-- The span lies inside of another one. -/
def Span.Within (inner outer : Span) : Prop :=
  outer.start ≤ inner.start ∧ inner.stop ≤ outer.stop

/-- The token stands in front of a position and takes as many characters as its text, and two more
if it is quoted. -/
structure Token.Sits (stop : ℕ) (token : Token) : Prop where
  stop : token.span.stop ≤ stop
  nonempty : token.kind = .rightParen → 0 < token.span.length
  text : token.value.toList.length + (if token.quoted then 2 else 0) ≤ token.span.length

/-- The text of a token is no path or no pattern, and this is the error for it. -/
inductive Token.Rejected (token : Token) : ParseError → Prop
  | path {fault : PathFault} {span : Span} :
      Operand.ofToken token = .error (.malformed (.path fault) token.value span) →
      span.Within token.span → token.Rejected (.malformed (.path fault) token.value span)
  | pattern : Pattern.compile? token.value = none →
      token.Rejected (.malformed .pattern token.value token.span)

/-- Whether an error is about a path or a pattern. -/
def ParseError.isAboutText : ParseError → Bool
  | malformed (.path _) _ _ => true
  | malformed .pattern _ _ => true
  | _ => false

/-- The error is about a place in front of a position, and about the text of one of the tokens if
it is about a path or a pattern. -/
structure ParseError.Located (tokens : List Token) (stop : ℕ) (e : ParseError) : Prop where
  stop : e.span.stop ≤ stop
  text : e.isAboutText → ∃ token ∈ tokens, token.Rejected e

variable {tokens rest : List Token} {token closer : Token} {items left : List Item}
  {group : Group} {groups : List Group} {e : ParseError} {stop : ℕ}
  {P : Token → Prop} {span : Span}

theorem Span.Within.refl (span : Span) : span.Within span := ⟨Nat.le_refl _, Nat.le_refl _⟩

theorem Token.Rejected.within (h : token.Rejected e) : e.span.Within token.span := by
  cases h with
  | path _ hin => exact hin
  | pattern _ => exact .refl _

/-! ## Operands -/

/-- **An operand that cannot be read is at fault inside its own token.** -/
theorem rejected_of_ofToken
    (hroom : token.value.toList.length + (if token.quoted then 2 else 0) ≤ token.span.length)
    (h : Operand.ofToken token = .error e) : token.Rejected e := by
  obtain ⟨mark, text, fault, hvalue, _, hp, rfl⟩ := ofToken_eq_error h
  have hfits : fault.offset + fault.length ≤ text.length := FieldPath.fits_of_parse hp
  have hlength := congrArg List.length hvalue
  rw [List.length_append] at hlength
  refine .path h ⟨?_, ?_⟩
  · simp only [Token.pathSpan]
    omega
  · simp only [Token.pathSpan, Span.stop]
    split_ifs at hroom ⊢ <;> omega

/-! ## Groups -/

/-- What is true of every operator among some items. -/
def Operators (P : Token → Prop) (items : List Item) : Prop :=
  ∀ token, Item.operator token ∈ items → P token

theorem operators_nil : Operators P [] := fun _ h => absurd h List.not_mem_nil

theorem operators_node_iff {n : Node} : Operators P (.node n :: items) ↔ Operators P items := by
  simp [Operators]

theorem operators_operator_iff :
    Operators P (.operator token :: items) ↔ P token ∧ Operators P items := by
  simp [Operators]

theorem operators_reverse_iff : Operators P items.reverse ↔ Operators P items := by
  simp [Operators]

/-- A pass leaves operators of a sort only, or fails at one of them, and not for its text. -/
def Passed (P : Token → Prop) : Except ParseError (List Item) → Prop
  | .ok items => Operators P items
  | .error e => e.isAboutText = false ∧ ∃ token, P token ∧ e.span = token.span

theorem passed_bind {passed : Except ParseError (List Item)}
    {next : List Item → Except ParseError (List Item)} (h : Passed P passed)
    (hnext : ∀ items, Operators P items → Passed P (next items)) : Passed P (passed >>= next) := by
  cases passed with
  | ok items => exact hnext items h
  | error e => exact h

theorem passed_joinUnary (h : Operators P items) : Passed P (joinUnary items) := by
  induction items with
  | nil => exact h
  | cons item items ih =>
    have hrest : Operators P items := fun token ht => h token (List.mem_cons_of_mem _ ht)
    rw [joinUnary]
    refine passed_bind (ih hrest) fun items' hitems' => ?_
    cases item with
    | node n => exact operators_node_iff.2 hitems'
    | operator token =>
      have htoken : P token := h token List.mem_cons_self
      dsimp only
      split_ifs with hk
      · split
        · exact ⟨rfl, token, htoken, rfl⟩
        · split
          · exact operators_node_iff.2 (operators_node_iff.1 hitems')
          · exact ⟨rfl, token, htoken, rfl⟩
      · exact operators_operator_iff.2 ⟨htoken, hitems'⟩

theorem passed_joinBinary {tier : Tier} (hleft : Operators P left) (h : Operators P items) :
    Passed P (joinBinary tier left items) := by
  fun_induction joinBinary tier left items with
  | case1 left => exact operators_reverse_iff.2 hleft
  | case2 left n items ih =>
    exact ih (operators_node_iff.2 hleft) (operators_node_iff.1 h)
  | case3 left token items hk hop => exact ⟨rfl, token, (operators_operator_iff.1 h).1, rfl⟩
  | case4 token hk op hop htier left l items r ih =>
    have hbehind := (operators_operator_iff.1 h).2
    exact ih (operators_node_iff.2 (operators_node_iff.1 hleft)) (operators_node_iff.1 hbehind)
  | case5 left token items hk op hop htier hsides =>
    exact ⟨rfl, token, (operators_operator_iff.1 h).1, rfl⟩
  | case6 left token items hk op hop htier ih =>
    obtain ⟨htoken, hitems⟩ := operators_operator_iff.1 h
    exact ih (operators_operator_iff.2 ⟨htoken, hleft⟩) hitems
  | case7 left token items hk ih =>
    obtain ⟨htoken, hitems⟩ := operators_operator_iff.1 h
    exact ih (operators_operator_iff.2 ⟨htoken, hleft⟩) hitems

theorem passed_joinTiers (tiers : List Tier) (h : Operators P items) :
    Passed P (joinTiers tiers items) := by
  induction tiers generalizing items with
  | nil => exact h
  | cons tier tiers ih =>
    rw [joinTiers]
    exact passed_bind (passed_joinBinary operators_nil h) fun _ => ih

/-- **A group is rejected as a whole, or for one of its operators.** -/
theorem span_of_reduce (h : Operators P items) (he : reduce span items = .error e) :
    e.isAboutText = false ∧ (e.span = span ∨ ∃ token, P token ∧ e.span = token.span) := by
  have hpassed : Passed P (joinUnary items >>= joinTiers Tier.all) :=
    passed_bind (passed_joinUnary h) fun _ => passed_joinTiers _
  have hreduce : reduce span items = (joinUnary items >>= joinTiers Tier.all) >>= single span := by
    rw [reduce]
    cases joinUnary items <;> rfl
  rw [hreduce] at he
  rcases Except.bind_eq_error_iff.1 he with hpass | ⟨out, _, hsingle⟩
  · rw [hpass] at hpassed
    exact ⟨hpassed.1, .inr hpassed.2⟩
  · unfold single at hsingle
    split at hsingle
    · cases hsingle
      exact ⟨rfl, .inl rfl⟩
    · cases hsingle
    · cases hsingle
      exact ⟨rfl, .inl rfl⟩
    · cases hsingle
      exact ⟨rfl, .inl rfl⟩

/-! ## All steps -/

/-- What the builder has left and what it has read are tokens of one row. -/
structure Rooted (all : List Token) (groups : List Group) (items : List Item)
    (tokens : List Token) : Prop where
  tokens : ∀ token ∈ tokens, token ∈ all
  items : Operators (· ∈ all) items
  groups : ∀ group ∈ groups, group.opener ∈ all ∧ Operators (· ∈ all) group.before

variable {all : List Token}

theorem ParseError.Located.of_span (hstop : e.span.stop ≤ stop) (htext : e.isAboutText = false) :
    e.Located all stop :=
  ⟨hstop, fun h => absurd h (by rw [htext]; decide)⟩

theorem Token.Rejected.located (h : token.Rejected e) (hall : ∀ token ∈ all, token.Sits stop)
    (hmem : token ∈ all) : e.Located all stop :=
  ⟨Nat.le_trans h.within.2 (hall token hmem).stop, fun _ => ⟨token, hmem, h⟩⟩

/-- A group ends at its closing parenthesis. -/
theorem stop_group (hopener : group.opener.Sits stop) (hcloser : closer.Sits stop)
    (hk : closer.kind = .rightParen) : (group.span closer).stop ≤ stop := by
  have hbefore := hopener.stop
  have hafter := hcloser.stop
  have hone := hcloser.nonempty hk
  simp only [Group.span, Span.stop] at hbefore hafter ⊢
  omega

namespace Rooted

theorem head (h : Rooted all groups items (token :: rest)) : token ∈ all :=
  h.tokens token List.mem_cons_self

theorem tail (h : Rooted all groups items (token :: rest)) : Rooted all groups items rest :=
  ⟨fun token ht => h.tokens token (List.mem_cons_of_mem _ ht), h.items, h.groups⟩

theorem node (h : Rooted all groups items tokens) (n : Node) :
    Rooted all groups (.node n :: items) tokens :=
  ⟨h.tokens, operators_node_iff.2 h.items, h.groups⟩

theorem operator (h : Rooted all groups items (token :: rest)) :
    Rooted all groups (.operator token :: items) rest :=
  ⟨h.tail.tokens, operators_operator_iff.2 ⟨h.head, h.items⟩, h.groups⟩

theorem opened (h : Rooted all groups items (token :: rest)) (caller : Option (Method × Token)) :
    Rooted all (⟨token, caller, items⟩ :: groups) [] rest :=
  ⟨h.tail.tokens, operators_nil, List.forall_mem_cons.2 ⟨⟨h.head, h.items⟩, h.groups⟩⟩

theorem close (h : Rooted all (group :: groups) items (token :: rest)) (n : Node) :
    Rooted all groups (.node n :: group.before) rest := by
  obtain ⟨⟨_, hbefore⟩, hgroups⟩ := List.forall_mem_cons.1 h.groups
  exact ⟨h.tail.tokens, operators_node_iff.2 hbefore, hgroups⟩

/-- A group that is rejected is so at its own place, or at that of an operator. -/
theorem located_of_reduce (h : Rooted all groups items tokens)
    (hall : ∀ token ∈ all, token.Sits stop) (hspan : span.stop ≤ stop)
    (he : reduce span items.reverse = .error e) : e.Located all stop := by
  obtain ⟨htext, hplace⟩ := span_of_reduce (operators_reverse_iff.2 h.items) he
  refine .of_span ?_ htext
  rcases hplace with heq | ⟨token, hmem, heq⟩
  · rwa [heq]
  · rw [heq]
    exact (hall token hmem).stop

/-- **Wherever the builder fails, it fails inside of the row.** -/
theorem located_of_collect (h : Rooted all groups items tokens)
    (hall : ∀ token ∈ all, token.Sits stop) :
    ∀ e, (collect stop groups items tokens).1 = .error e → e.Located all stop := by
  have hat : ∀ {token : Token}, token ∈ all → token.span.stop ≤ stop :=
    fun hmem => (hall _ hmem).stop
  fun_induction collect stop groups items tokens with
  | case1 groups items hopen =>
    exact fun e he => h.located_of_reduce hall (Nat.le_of_eq (Nat.zero_add _)) he
  | case2 groups items hopen =>
    rintro e ⟨⟩
    exact .of_span (Nat.le_refl _) rfl
  | case3 groups items token hk operand ho ih => exact ih (h.tail.node _)
  | case4 groups items token hk e ho =>
    rintro e ⟨⟩
    exact (rejected_of_ofToken (hall _ h.head).text ho).located hall h.head
  | case5 groups items token hk next tail hp hm =>
    rintro e ⟨⟩
    exact .of_span (hat h.head) rfl
  | case6 groups items token hk next tail hp method hm hopen =>
    rintro e ⟨⟩
    exact .of_span (hat h.tail.head) rfl
  | case7 groups items token hk next tail hp method hm hopen ih => exact ih (h.tail.opened _)
  | case8 groups items token hk next tail hw hkey =>
    rintro e ⟨⟩
    exact .of_span (hat h.tail.head) rfl
  | case9 groups items token hk next hw keyword hkey =>
    rintro e ⟨⟩
    exact .of_span (hat h.tail.head) rfl
  | case10 groups items token hk next hw keyword hkey field behind hf m hs ih =>
    exact ih (h.tail.tail.tail.node _)
  | case11 groups items token hk next hw keyword hkey field behind hf e hs =>
    rintro e ⟨⟩
    rcases search_eq_error hs with ⟨hc, rfl⟩ | ho
    · exact (Token.Rejected.pattern hc).located hall h.head
    · have hfield := h.tail.tail.head
      exact (rejected_of_ofToken (hall _ hfield).text ho).located hall hfield
  | case12 groups items token hk next hw keyword hkey field behind hf =>
    rintro e ⟨⟩
    exact .of_span (hat h.tail.head) rfl
  | case13 groups items token hk next tail leaf ho hl hw ih => exact ih (h.tail.node _)
  | case14 groups items token hk next tail e ho hl hw =>
    rintro e ⟨⟩
    exact (rejected_of_ofToken (hall _ h.head).text ho).located hall h.head
  | case15 groups items token rest hk hopen =>
    rintro e ⟨⟩
    exact .of_span (hat h.head) rfl
  | case16 groups items token rest hk hopen ih => exact ih (h.opened _)
  | case17 groups items token rest hk ih | case18 groups items token rest hk ih =>
    exact ih h.operator
  | case19 items token rest hk =>
    rintro e ⟨⟩
    exact .of_span (hat h.head) rfl
  | case20 items token rest hk group outer m hr ih => exact ih (h.close _)
  | case21 items token rest hk group outer e hr =>
    rintro e ⟨⟩
    have hopener := (h.groups group List.mem_cons_self).1
    exact h.located_of_reduce hall (stop_group (hall _ hopener) (hall _ h.head) hk) hr
  | case22 items token rest hk =>
    exact fun e he => h.located_of_reduce hall (Nat.le_of_eq (Nat.zero_add _)) he
  | case23 items token rest hk group outer =>
    rintro e ⟨⟩
    have hopener := hat (h.groups group List.mem_cons_self).1
    have hend := hat h.head
    refine .of_span ?_ rfl
    simp only [ParseError.span, Span.stop] at hopener hend ⊢
    omega
  | case24 groups items token rest hk | case25 groups items token rest hk
  | case26 groups items token rest hk =>
    rintro e ⟨⟩
    exact .of_span (hat h.head) rfl

end Rooted

end RecordQuery

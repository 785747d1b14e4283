import RecordQuery.Proofs.Grammar.Building
import RecordQuery.Proofs.Grammar.Counting
import RecordQuery.Proofs.Grammar.Depth
import RecordQuery.Proofs.Grammar.Operands

/-!
# Where nesting is refused

A row of tokens with too many open parentheses need not fail for this reason, since something else
may be wrong in front of the parenthesis that is one too many.  So the limit is a matter of how far
the builder comes, and that is said here by the grammar: what it has read are groups that are still
open, and between their parentheses atoms and operators in any order, sentences or not.

* `Underway` — the tokens that were read leave these groups open around these items;
* `Underway.collect_eq` — **the builder comes as far**, whatever stands behind;
* `Underway.refused` — **where it refuses to go deeper, it came as far**;
* `collect_refuses_iff` — **the parenthesis that is one too many is refused, and nothing else is**;
* `next_after_calls` — the same of every tree that is taken, one after the other.
-/

namespace RecordQuery

/-- The tokens in front of the parenthesis of a group: the name of a method, or none. -/
def Heads (caller : Option (Method × Token)) (front : List Token) : Prop :=
  match caller with
  | some (method, name) =>
    front = [name] ∧ name.kind = .text ∧ Method.ofName? name.value = some method
  | none => front = []

/-- A text in front of these tokens is an operand. -/
def EndsAtom (behind : List Token) : Prop :=
  ∀ next ∈ behind.head?, next.kind ≠ .leftParen ∧ next.kind ≠ .keyword

/-- The tokens that were read, in front of those to come, leave these groups open, and these items
in the innermost one. -/
inductive Underway : List Group → List Item → List Token → List Token → Prop
  | start {behind : List Token} : Underway [] [] [] behind
  | operator {groups : List Group} {items : List Item} {before behind : List Token}
      {token : Token} :
      Underway groups items before (token :: behind) → token.IsOperator →
      Underway groups (.operator token :: items) (before ++ [token]) behind
  | atom {groups : List Group} {items : List Item} {before atom behind : List Token} {n : Node} :
      Underway groups items before (atom ++ behind) → Derives .atom groups.length atom n →
      (atom.length = 1 → EndsAtom behind) →
      Underway groups (.node n :: items) (before ++ atom) behind
  | enter {groups : List Group} {items : List Item} {before front behind : List Token}
      {opener : Token} {caller : Option (Method × Token)} :
      Underway groups items before (front ++ opener :: behind) → Heads caller front →
      opener.kind = .leftParen → groups.length < maxOpen →
      Underway (⟨opener, caller, items⟩ :: groups) [] (before ++ (front ++ [opener])) behind

variable {stop opened len : ℕ} {groups outer : List Group} {group : Group} {items more : List Item}
  {token opener closer : Token} {caller : Option (Method × Token)}
  {tokens before behind front inner rest : List Token} {m n : Node} {e : ParseError}

/-! ## The steps of the builder -/

theorem collect_of_operator (hk : token.IsOperator) :
    collect stop groups items (token :: rest) =
      collect stop groups (.operator token :: items) rest := by
  rw [collect.eq_def]
  rcases hk with hk | hk <;> simp only [hk]

theorem collect_of_operand {leaf : Operand} (hk : token.kind = .text)
    (ho : Operand.ofToken token = .ok leaf) (hends : EndsAtom rest) :
    collect stop groups items (token :: rest) =
      collect stop groups (.node (.operand leaf token) :: items) rest := by
  rw [collect.eq_def]
  cases rest with
  | nil => simp only [hk, ho]
  | cons next tail =>
    obtain ⟨hp, hw⟩ := hends next rfl
    simp only [hk, ho]

theorem collect_of_search {pattern word field : Token} {keyword : Keyword}
    (hp : pattern.kind = .text) (hw : word.kind = .keyword)
    (hkey : Keyword.ofName? word.value = some keyword) (hf : field.kind = .text)
    (hs : search keyword pattern word field = .ok n) :
    collect stop groups items (pattern :: word :: field :: rest) =
      collect stop groups (.node n :: items) rest := by
  rw [collect.eq_def]
  simp only [hp, hw, hkey, hf, if_true, hs]

/-- At the parenthesis of a group the builder counts the open ones, behind a name or not. -/
theorem collect_of_open (hh : Heads caller front) (hk : opener.kind = .leftParen) :
    collect stop groups items (front ++ opener :: behind) =
      if maxOpen ≤ groups.length then (.error (.misshapen .tooDeep opener.span), behind)
      else collect stop (⟨opener, caller, items⟩ :: groups) [] behind := by
  cases caller with
  | none =>
    cases hh
    rw [List.nil_append, collect.eq_def]
    simp only [hk]
  | some call =>
    obtain ⟨rfl, hname, hm⟩ := hh
    rw [List.singleton_append, collect.eq_def]
    simp only [hname, hk, hm]

theorem collect_of_close (hk : closer.kind = .rightParen)
    (hs : Sentence Item.operator Single items.reverse m) :
    collect stop (group :: outer) items (closer :: rest) =
      collect stop outer (.node (group.close m) :: group.before) rest := by
  rw [collect.eq_def]
  simp only [hk, (reduce_eq_ok_iff (group.span closer)).2 hs]

/-! ## The builder reads over atoms -/

/-- The builder reads over every atom of such a length at most.  The inside of a group is no atom,
but a row of shorter ones, so the induction is on the length. -/
def PassesAtoms (stop len : ℕ) : Prop :=
  ∀ (groups : List Group) (items : List Item) (atom behind : List Token) (n : Node),
    atom.length ≤ len → Derives .atom groups.length atom n → (atom.length = 1 → EndsAtom behind) →
    collect stop groups items (atom ++ behind) = collect stop groups (.node n :: items) behind

/-- A row of items that does not start with a node is that of tokens that end an atom. -/
theorem endsAtom_of_parts (h : Parts opened tokens more)
    (hmore : ∀ item ∈ more.head?, Item.Apart (.node n) item) (hbehind : EndsAtom behind) :
    EndsAtom (tokens ++ behind) := by
  cases h with
  | nil => exact hbehind
  | operator hk _ =>
    rintro next ⟨⟩
    rcases hk with hk | hk <;> simp [hk]
  | node _ _ => exact (hmore _ rfl).elim

/-- Atoms and operators become the items of the innermost group, if no two nodes are neighbours. -/
theorem PassesAtoms.collect_parts (h : PassesAtoms stop len)
    (hparts : Parts groups.length tokens more) (hlen : tokens.length ≤ len)
    (hapart : more.IsChain Item.Apart) (hbehind : EndsAtom behind) :
    collect stop groups items (tokens ++ behind) =
      collect stop groups (more.reverse ++ items) behind := by
  induction hparts generalizing items with
  | nil => rfl
  | @operator token tokens more hk _ ih =>
    rw [List.length_cons] at hlen
    rw [id, List.cons_append, collect_of_operator hk, ih (by omega) hapart.tail,
      List.reverse_cons, List.append_assoc, List.singleton_append]
  | @node n atom tokens more ha hp ih =>
    rw [List.length_append] at hlen
    have hends := endsAtom_of_parts (n := n) hp (fun _ hi => hapart.rel_head? hi) hbehind
    rw [List.append_assoc, h groups items atom _ n (by omega) ha fun _ => hends,
      ih (by omega) hapart.tail, List.reverse_cons, List.append_assoc, List.singleton_append]

/-- A group is read over from its parenthesis to the closing one. -/
theorem PassesAtoms.collect_group (h : PassesAtoms stop len) (hh : Heads caller front)
    (hk : opener.kind = .leftParen) (hopen : groups.length < maxOpen)
    (hd : Derives (.tier .or) (groups.length + 1) inner n) (hlen : inner.length ≤ len)
    (hc : closer.kind = .rightParen) :
    collect stop groups items (front ++ opener :: (inner ++ closer :: behind)) =
      collect stop groups (.node (Group.close ⟨opener, caller, items⟩ n) :: items) behind := by
  obtain ⟨more, hparts, hs⟩ := derives_or_iff_parts.1 hd
  have hends : EndsAtom (closer :: behind) := by
    rintro next ⟨⟩
    simp [hc]
  have hinner : Parts (⟨opener, caller, items⟩ :: groups).length inner more := hparts
  rw [collect_of_open hh hk, if_neg (Nat.not_le_of_lt hopen),
    h.collect_parts hinner hlen hs.isChain_apart hends, List.append_nil,
    collect_of_close hc (by rwa [List.reverse_reverse])]

/-- A closed group is an atom. -/
theorem derives_atom_of_heads (hh : Heads group.caller front) (hk : group.opener.kind = .leftParen)
    (hopen : opened < maxOpen) (hd : Derives (.tier .or) (opened + 1) inner n)
    (hc : closer.kind = .rightParen) :
    Derives .atom opened (front ++ group.opener :: (inner ++ [closer])) (group.close n) := by
  obtain ⟨opener, caller, before⟩ := group
  cases caller with
  | none =>
    cases hh
    exact .group hk hopen hd hc
  | some call =>
    obtain ⟨rfl, hname, hm⟩ := hh
    exact .call hname hm hk hopen hd hc

/-- **The builder reads over atoms**, whatever stands around them. -/
theorem passesAtoms (stop len : ℕ) : PassesAtoms stop len := by
  induction len with
  | zero =>
    intro groups items atom behind n hlen ha _
    obtain ⟨_, _, rfl, _⟩ := ha.head_of_atom
    cases hlen
  | succ len ih =>
    intro groups items atom behind n hlen ha hends
    cases ha with
    | operand hk ho => exact collect_of_operand hk ho (hends rfl)
    | search hp hcomp hw hkey hf ho =>
      exact collect_of_search hp hw hkey hf (search_eq_ok_iff.2 ⟨_, _, hcomp, ho, rfl⟩)
    | @call _ name opener closer method inner m hk hm ho hopen hd hc =>
      have hshort : inner.length ≤ len := by
        simp only [List.length_cons, List.length_append, List.length_nil] at hlen
        omega
      have hh : Heads (some (method, name)) [name] := ⟨rfl, hk, hm⟩
      simpa [Group.close] using ih.collect_group hh ho hopen hd hshort hc
    | @group _ opener closer inner _ ho hopen hd hc =>
      have hshort : inner.length ≤ len := by
        simp only [List.length_cons, List.length_append, List.length_nil] at hlen
        omega
      have hh : Heads none [] := rfl
      simpa [Group.close] using ih.collect_group hh ho hopen hd hshort hc

namespace Underway

/-- **The builder comes as far**, whatever stands behind. -/
theorem collect_eq (h : Underway groups items before behind) (stop : ℕ) :
    collect stop [] [] (before ++ behind) = collect stop groups items behind := by
  induction h with
  | start => rfl
  | operator _ hk ih => rw [List.append_assoc, List.singleton_append, ih, collect_of_operator hk]
  | atom _ ha hends ih =>
    rw [List.append_assoc, ih, passesAtoms stop _ _ _ _ _ _ (Nat.le_refl _) ha hends]
  | enter _ hh hk hopen ih =>
    rw [List.append_assoc, List.append_assoc, List.singleton_append, ih, collect_of_open hh hk,
      if_neg (Nat.not_le_of_lt hopen)]

theorem countKind_of_heads (hh : Heads caller front) (kind : TokenKind) (hk : kind ≠ .text) :
    countKind kind front = 0 := by
  cases caller with
  | none =>
    cases hh
    rfl
  | some call =>
    obtain ⟨rfl, hname, _⟩ := hh
    simp [countKind_cons, hname, hk.symm]

/-- The open groups are those that were not closed. -/
theorem balance (h : Underway groups items before behind) :
    countKind .leftParen before = countKind .rightParen before + groups.length := by
  induction h with
  | start => rfl
  | operator _ hk ih =>
    rcases hk with hk | hk <;> simp [countKind_append, countKind_cons, hk, ih]
  | atom _ ha _ ih =>
    have hatom := ha.balanced
    simp only [countKind_append]
    omega
  | enter _ hh hk _ ih =>
    have hl := countKind_of_heads hh .leftParen (by decide)
    have hr := countKind_of_heads hh .rightParen (by decide)
    simp [countKind_append, countKind_cons, hk, hl, hr, ih]
    omega

/-- What stands in front of the innermost group, and what was read of it. -/
theorem innermost (h : Underway (group :: outer) items before behind) :
    ∃ ahead front inner, before = ahead ++ (front ++ group.opener :: inner) ∧
      Underway outer group.before ahead (front ++ group.opener :: (inner ++ behind)) ∧
      Heads group.caller front ∧ group.opener.kind = .leftParen ∧ outer.length < maxOpen ∧
      Parts (outer.length + 1) inner items.reverse := by
  generalize hgroups : group :: outer = groups at h
  -- back to where the group was entered; all that was read since then is inside of it
  induction h with
  | start => cases hgroups
  | @operator groups items before behind token _ hk ih =>
    obtain ⟨ahead, front, inner, rfl, hout, hh, ho, hopen, hparts⟩ := ih hgroups
    refine ⟨ahead, front, inner ++ [token], by simp, by simpa using hout, hh, ho, hopen, ?_⟩
    rw [List.reverse_cons]
    exact hparts.concat_operator hk
  | @atom groups items before atom behind n _ ha _ ih =>
    obtain ⟨ahead, front, inner, rfl, hout, hh, ho, hopen, hparts⟩ := ih hgroups
    rw [← hgroups] at ha
    refine ⟨ahead, front, inner ++ atom, by simp, by simpa using hout, hh, ho, hopen, ?_⟩
    rw [List.reverse_cons]
    exact hparts.concat_node ha
  | @enter groups items before front behind opener caller h hh hk hopen _ =>
    cases hgroups
    exact ⟨before, front, [], rfl, h, hh, hk, hopen, .nil⟩

/-- A group that is closed is an atom of the group around it. -/
theorem close (h : Underway (group :: outer) items before (closer :: rest))
    (hc : closer.kind = .rightParen) (hs : Sentence Item.operator Single items.reverse m) :
    Underway outer (.node (group.close m) :: group.before) (before ++ [closer]) rest := by
  obtain ⟨ahead, front, inner, rfl, hout, hh, ho, hopen, hparts⟩ := h.innermost
  have hd : Derives (.tier .or) (outer.length + 1) inner m :=
    derives_or_iff_parts.2 ⟨_, hparts, hs⟩
  have hatom := derives_atom_of_heads hh ho hopen hd hc
  have hout' : Underway outer group.before ahead
      ((front ++ group.opener :: (inner ++ [closer])) ++ rest) := by simpa using hout
  have hlong : (front ++ group.opener :: (inner ++ [closer])).length ≠ 1 := by
    simp only [List.length_append, List.length_cons]
    omega
  have hclosed := hout'.atom hatom fun hlen => absurd hlen hlong
  simpa using hclosed

end Underway

/-! ## What is no refusal -/

/-- The error refuses to go deeper. -/
def ParseError.Refuses (e : ParseError) : Prop := ∃ span, e = .misshapen .tooDeep span

theorem not_refuses_of_joinUnary (h : joinUnary items = .error e) : ¬ e.Refuses := by
  induction items with
  | nil => cases h
  | cons item items ih =>
    rw [joinUnary] at h
    rcases Except.bind_eq_error_iff.1 h with hrest | ⟨joined, _, hitem⟩
    · exact ih hrest
    · cases item with
      | node n => cases hitem
      | operator token =>
        dsimp only at hitem
        split at hitem
        · split at hitem
          · cases hitem
            rintro ⟨_, ⟨⟩⟩
          · split at hitem
            · cases hitem
            · cases hitem
              rintro ⟨_, ⟨⟩⟩
        · cases hitem

theorem not_refuses_of_joinBinary {tier : Tier} {left : List Item}
    (h : joinBinary tier left items = .error e) : ¬ e.Refuses := by
  fun_induction joinBinary tier left items with
  | case1 left => cases h
  | case2 left n items ih => exact ih h
  | case3 left token items hk hop =>
    cases h
    rintro ⟨_, ⟨⟩⟩
  | case4 token hk op hop htier left l items r ih => exact ih h
  | case5 left token items hk op hop htier hsides =>
    cases h
    rintro ⟨_, ⟨⟩⟩
  | case6 left token items hk op hop htier ih => exact ih h
  | case7 left token items hk ih => exact ih h

theorem not_refuses_of_joinTiers (tiers : List Tier) (h : joinTiers tiers items = .error e) :
    ¬ e.Refuses := by
  induction tiers generalizing items with
  | nil => cases h
  | cons tier tiers ih =>
    rw [joinTiers] at h
    rcases Except.bind_eq_error_iff.1 h with hjoin | ⟨joined, _, hrest⟩
    · exact not_refuses_of_joinBinary hjoin
    · exact ih hrest

/-- A group that has no tree is not refused for its depth. -/
theorem not_refuses_of_reduce {span : Span} (h : reduce span items = .error e) : ¬ e.Refuses := by
  rw [reduce] at h
  rcases Except.bind_eq_error_iff.1 h with hunary | ⟨signed, _, h⟩
  · exact not_refuses_of_joinUnary hunary
  rcases Except.bind_eq_error_iff.1 h with htiers | ⟨joined, _, hsingle⟩
  · exact not_refuses_of_joinTiers _ htiers
  unfold single at hsingle
  split at hsingle <;> cases hsingle <;> rintro ⟨_, ⟨⟩⟩

theorem not_refuses_of_ofToken (h : Operand.ofToken token = .error e) : ¬ e.Refuses := by
  obtain ⟨_, _, _, _, _, _, rfl⟩ := ofToken_eq_error h
  rintro ⟨_, ⟨⟩⟩

theorem not_refuses_of_search {keyword : Keyword} {pattern word field : Token}
    (h : search keyword pattern word field = .error e) : ¬ e.Refuses := by
  rcases search_eq_error h with ⟨_, rfl⟩ | ho
  · rintro ⟨_, ⟨⟩⟩
  · exact not_refuses_of_ofToken ho

/-! ## Where the builder refuses -/

/-- A parenthesis of a group or of a known method is the next to be entered, behind tokens that
leave so many parentheses open. -/
def ComesTo (opened : ℕ) (tokens : List Token) (opener : Token) : Prop :=
  ∃ groups items before front caller behind,
    tokens = before ++ (front ++ opener :: behind) ∧
    Underway groups items before (front ++ opener :: behind) ∧
    countKind .leftParen before = countKind .rightParen before + opened ∧
    Heads caller front ∧ opener.kind = .leftParen

namespace Underway

/-- No more parentheses are open than the limit allows. -/
theorem length_le (h : Underway groups items before behind) : groups.length ≤ maxOpen := by
  induction h with
  | start => exact Nat.zero_le _
  | operator _ _ ih => exact ih
  | atom _ _ _ ih => exact ih
  | enter _ _ _ hopen _ => exact hopen

theorem operand {leaf : Operand} (h : Underway groups items before (token :: rest))
    (hk : token.kind = .text) (ho : Operand.ofToken token = .ok leaf) (hends : EndsAtom rest) :
    Underway groups (.node (.operand leaf token) :: items) (before ++ [token]) rest :=
  atom h (.operand hk ho) fun _ => hends

theorem search {pattern word field : Token} {keyword : Keyword}
    (h : Underway groups items before (pattern :: word :: field :: rest))
    (hp : pattern.kind = .text) (hw : word.kind = .keyword)
    (hkey : Keyword.ofName? word.value = some keyword) (hf : field.kind = .text)
    (hs : RecordQuery.search keyword pattern word field = .ok n) :
    Underway groups (.node n :: items) (before ++ [pattern, word, field]) rest := by
  obtain ⟨compiled, leaf, hc, ho, rfl⟩ := search_eq_ok_iff.1 hs
  have hatom : Derives .atom groups.length [pattern, word, field]
      (.keyword keyword compiled leaf word) := .search hp hc hw hkey hf ho
  exact atom h hatom fun hlen => by cases hlen

/-- A parenthesis that cannot be entered any more is one that the builder comes to. -/
theorem comesTo (h : Underway groups items before (front ++ opener :: behind))
    (hh : Heads caller front) (hk : opener.kind = .leftParen) (hfull : maxOpen ≤ groups.length) :
    ComesTo maxOpen (before ++ (front ++ opener :: behind)) opener := by
  have hcount := h.balance
  rw [Nat.le_antisymm h.length_le hfull] at hcount
  exact ⟨groups, items, before, front, caller, behind, rfl, h, hcount, hh, hk⟩

/-- **Where the builder refuses to go deeper, it came as far.** -/
theorem refused (h : Underway groups items before tokens) {span : Span}
    (he : (collect stop groups items tokens).1 = .error (.misshapen .tooDeep span)) :
    ∃ opener, ComesTo maxOpen (before ++ tokens) opener ∧ span = opener.span := by
  generalize hall : before ++ tokens = all
  fun_induction collect stop groups items tokens generalizing before with
  | case1 groups items hopen => exact absurd ⟨_, rfl⟩ (not_refuses_of_reduce he)
  | case2 groups items hopen => cases he
  | case3 groups items token hk leaf ho ih =>
    have hends : EndsAtom [] := fun _ hn => by cases hn
    exact ih (h.operand hk ho hends) he (by simpa using hall)
  | case4 groups items token hk e ho =>
    cases he
    exact absurd ⟨_, rfl⟩ (not_refuses_of_ofToken ho)
  | case5 groups items token hk next tail hp hm => cases he
  | case6 groups items token hk next tail hp method hm hopen =>
    have h' : Underway groups items before ([token] ++ next :: tail) := h
    have hh : Heads (some (method, token)) [token] := ⟨rfl, hk, hm⟩
    cases he
    exact ⟨next, hall ▸ h'.comesTo hh hp hopen, rfl⟩
  | case7 groups items token hk next tail hp method hm hopen ih =>
    have h' : Underway groups items before ([token] ++ next :: tail) := h
    have hh : Heads (some (method, token)) [token] := ⟨rfl, hk, hm⟩
    exact ih (h'.enter hh hp (Nat.lt_of_not_le hopen)) he (by simpa using hall)
  | case8 groups items token hk next tail hw hkey => cases he
  | case9 groups items token hk next hw keyword hkey => cases he
  | case10 groups items token hk next hw keyword hkey field behind hf m hs ih =>
    exact ih (h.search hk hw hkey hf hs) he (by simpa using hall)
  | case11 groups items token hk next hw keyword hkey field behind hf e hs =>
    cases he
    exact absurd ⟨_, rfl⟩ (not_refuses_of_search hs)
  | case12 groups items token hk next hw keyword hkey field behind hf => cases he
  | case13 groups items token hk next tail leaf ho hl hw ih =>
    have hends : EndsAtom (next :: tail) := by
      rintro t ⟨⟩
      exact ⟨hl, hw⟩
    exact ih (h.operand hk ho hends) he (by simpa using hall)
  | case14 groups items token hk next tail e ho hl hw =>
    cases he
    exact absurd ⟨_, rfl⟩ (not_refuses_of_ofToken ho)
  | case15 groups items token rest hk hopen =>
    have h' : Underway groups items before ([] ++ token :: rest) := h
    have hh : Heads none [] := rfl
    cases he
    exact ⟨token, hall ▸ h'.comesTo hh hk hopen, rfl⟩
  | case16 groups items token rest hk hopen ih =>
    have h' : Underway groups items before ([] ++ token :: rest) := h
    have hh : Heads none [] := rfl
    exact ih (h'.enter hh hk (Nat.lt_of_not_le hopen)) he (by simpa using hall)
  | case17 groups items token rest hk ih =>
    exact ih (h.operator (.inl hk)) he (by simpa using hall)
  | case18 groups items token rest hk ih =>
    exact ih (h.operator (.inr hk)) he (by simpa using hall)
  | case19 items token rest hk => cases he
  | case20 items token rest hk group outer m hr ih =>
    exact ih (h.close hk ((reduce_eq_ok_iff _).1 hr)) he (by simpa using hall)
  | case21 items token rest hk group outer e hr =>
    cases he
    exact absurd ⟨_, rfl⟩ (not_refuses_of_reduce hr)
  | case22 items token rest hk => exact absurd ⟨_, rfl⟩ (not_refuses_of_reduce he)
  | case23 items token rest hk group outer => cases he
  | case24 groups items token rest hk | case25 groups items token rest hk
  | case26 groups items token rest hk => cases he

end Underway

/-- What the builder comes to with all parentheses open that may be, it refuses to enter. -/
theorem collect_of_comesTo (h : ComesTo maxOpen tokens opener) :
    (collect stop [] [] tokens).1 = .error (.misshapen .tooDeep opener.span) := by
  obtain ⟨groups, items, before, front, caller, behind, rfl, hunder, hcount, hh, hk⟩ := h
  have hfull : maxOpen ≤ groups.length := by
    have hbalance := hunder.balance
    omega
  rw [hunder.collect_eq stop, collect_of_open hh hk, if_pos hfull]

/-- **The builder refuses to go deeper at the parenthesis that is one too many**, if it comes to
this parenthesis, and for no other reason. -/
theorem collect_refuses_iff {span : Span} :
    (collect stop [] [] tokens).1 = .error (.misshapen .tooDeep span) ↔
      ∃ opener, ComesTo maxOpen tokens opener ∧ span = opener.span := by
  constructor
  · exact Underway.start.refused
  · rintro ⟨opener, h, rfl⟩
    exact collect_of_comesTo h

/-- **A failure leaves nothing behind.**  However many trees were taken from some tokens, and
whatever came of them, the next one is what a new builder takes from the tokens that are left, and
the builder without a counter takes the same.  Nesting is refused where the next parenthesis to be
entered, that of a group or of a known method, is one more than may be open, all of them opened in
this call, and there only. -/
theorem next_after_calls (tokens : List Token) (calls : ℕ) :
    let start := CountingBuilder.ofTokens tokens
    let left := start.after calls
    let plain := Builder.mk left.tokens (Builder.ofTokens tokens).stop
    left.next = (CountingBuilder.mk left.tokens start.stop 0).next ∧
    left.next.1 = plain.next.1 ∧ left.next.2.tokens = plain.next.2.tokens ∧
    ∀ span, left.next.1 = .error (.misshapen .tooDeep span) ↔
      ∃ opener, ComesTo maxOpen left.tokens opener ∧ span = opener.span := by
  intro start left plain
  have hstop : left.stop = start.stop := start.after_stop calls
  have hdepth : left.depth = 0 := start.after_depth calls
  have hleft : left = ⟨left.tokens, start.stop, 0⟩ := by
    rw [← hstop, ← hdepth]
  have hnext : left.next = (CountingBuilder.mk left.tokens start.stop 0).next :=
    congrArg CountingBuilder.next hleft
  have hplain := CountingBuilder.next_eq left.tokens start.stop
  refine ⟨hnext, ?_, ?_, ?_⟩
  · rw [hnext, hplain]
    rfl
  · rw [hnext, hplain]
    rfl
  · intro span
    rw [hnext, hplain]
    exact collect_refuses_iff

end RecordQuery

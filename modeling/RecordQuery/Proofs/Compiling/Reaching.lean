import RecordQuery.Proofs.Compiling.Defects
import RecordQuery.Proofs.Grammar.Building
import RecordQuery.Proofs.Grammar.Depth
import RecordQuery.Proofs.Grammar.Settling
import RecordQuery.Proofs.Lexing.Legality

/-!
# How far the builder gets

The builder reads the tokens of a query one after the other.  The transition table says of each
place what kind of token was read last, and this is all there is to know of the innermost group:
behind an operand it is settled, and elsewhere it waits for one.

* `Reading` — the place in the row of all tokens;
* `Reached` — the state of the builder at a place;
* `Reached.operand`, `Reached.call`, … — **each step of the builder leads to such a state**, one law
  for each kind of token;
* `Reached.defect_of_collect` — **the builder fails only at a defect**.
-/

namespace RecordQuery

/-- The row was read up to a place, behind a token of a kind and with so many open parentheses. -/
structure Reading (all consumed : List Token) (previous : TokenKind) (depth : ℕ)
    (tokens : List Token) : Prop where
  split : all = consumed ++ tokens
  lawful : Lawful previous depth tokens
  depth : depth + countKind .rightParen consumed = countKind .leftParen consumed

/-- The token stands directly behind a field. -/
def BehindField (all : List Token) (token : Token) : Prop :=
  ∃ field : Token, [field, token] <:+: all ∧ field.kind = .text ∧ field.previous = .keyword

/-- A group stands directly behind a field. -/
def Torn (all : List Token) : Prop := ∃ token : Token, token.kind = .leftParen ∧ BehindField all token

/-- The items of a group, last item first, behind a token of a kind. -/
def Stands (torn : Prop) (previous : TokenKind) (items : List Item) : Prop :=
  if previous = .text ∨ previous = .rightParen then Settles torn items.reverse
  else Awaits torn items.reverse

/-- The node of an inner group settles the group around it, of which these items were read. -/
def Receives (torn : Prop) (items : List Item) : Prop :=
  ∀ n, Settles torn (items.reverse ++ [.node n])

/-- The state of the builder at a place. -/
structure Reached (all consumed : List Token) (previous : TokenKind) (groups : List Group)
    (items : List Item) (tokens : List Token) : Prop where
  reading : Reading all consumed previous groups.length tokens
  /-- A keyword is not read without its field. -/
  between : previous ≠ .keyword
  begun : previous = .start → ∀ token ∈ tokens.head?, token.kind ≠ .finish
  /-- A text in front of a group or of a keyword is read together with it, unless it is a field. -/
  behind : previous = .text → ∀ token ∈ tokens.head?,
    token.kind = .leftParen ∨ token.kind = .keyword → BehindField all token
  items : Stands (Torn all) previous items
  groups : ∀ group ∈ groups, Receives (Torn all) group.before

variable {all consumed tokens rest : List Token} {previous : TokenKind} {depth : ℕ}
  {groups outer : List Group} {group : Group} {items : List Item} {token next : Token} {n : Node}
  {e : ParseError} {torn : Prop}

/-! ## Places -/

namespace Reading

theorem ne_nil (h : Reading all consumed previous depth tokens) : tokens ≠ [] := by
  rintro rfl
  obtain ⟨front, last, hnil, _⟩ := h.lawful.finish
  exact absurd hnil.symm (by simp)

theorem previous_eq (h : Reading all consumed previous depth (token :: rest)) :
    token.previous = previous := (lawful_cons h.lawful).1

/-- Every other token is read, and its kind says how many parentheses are open behind it. -/
theorem advance (h : Reading all consumed previous depth (token :: rest))
    (hk : token.kind ≠ .finish) :
    token.Writable ∧ ∃ depth', token.kind.nesting? depth = some depth' ∧
      Reading all (consumed ++ [token]) token.kind depth' rest := by
  rcases (lawful_cons h.lawful).2 with ⟨_, _, hfin⟩ | ⟨hw, depth', hn, hmore⟩
  · exact absurd hfin.kind hk
  · refine ⟨hw, depth', hn, ?_, hmore, ?_⟩
    · rw [h.split, List.append_assoc]
      rfl
    · have hdepth := h.depth
      have hnesting := nesting?_eq_some_iff.1 hn
      simp only [countKind_append, countKind_cons, countKind_nil]
      omega

theorem advance_word (h : Reading all consumed previous depth (token :: rest))
    (hk : token.kind ∉ [.leftParen, .rightParen, .finish]) :
    token.Writable ∧ Reading all (consumed ++ [token]) token.kind depth rest := by
  simp only [List.mem_cons, List.not_mem_nil, or_false, not_or] at hk
  obtain ⟨hw, depth', hn, hmore⟩ := h.advance hk.2.2
  rw [nesting?_of_not_paren hk.1 hk.2.1] at hn
  cases hn
  exact ⟨hw, hmore⟩

theorem advance_open (h : Reading all consumed previous depth (token :: rest))
    (hk : token.kind = .leftParen) :
    Reading all (consumed ++ [token]) .leftParen (depth + 1) rest := by
  obtain ⟨_, depth', hn, hmore⟩ := h.advance (by rw [hk]; decide)
  rw [hk] at hn hmore
  cases hn
  exact hmore

theorem advance_close (h : Reading all consumed previous (depth + 1) (token :: rest))
    (hk : token.kind = .rightParen) :
    Reading all (consumed ++ [token]) .rightParen depth rest := by
  obtain ⟨_, depth', hn, hmore⟩ := h.advance (by rw [hk]; decide)
  rw [hk] at hn hmore
  cases hn
  exact hmore

/-- No parenthesis is closed outside of all. -/
theorem ne_rightParen (h : Reading all consumed previous 0 (token :: rest)) :
    token.kind ≠ .rightParen := by
  intro hk
  obtain ⟨_, depth', hn, _⟩ := h.advance (by rw [hk]; decide)
  rw [hk] at hn
  cases hn

/-- The last token finishes the row, with no parenthesis open. -/
theorem finish (h : Reading all consumed previous depth (token :: rest))
    (hk : token.kind = .finish) : depth = 0 := by
  rcases (lawful_cons h.lawful).2 with ⟨_, hdepth, _⟩ | ⟨hw, _⟩
  · exact hdepth
  · exact absurd hk (ne_finish_of_of? hw.kind)

theorem allows (h : Reading all consumed previous depth (token :: rest)) :
    previous.allows token.kind := by
  rw [← h.previous_eq]
  rcases (lawful_cons h.lawful).2 with ⟨_, _, hfin⟩ | ⟨hw, _⟩
  · rw [hfin.kind]
    exact hfin.allowed
  · exact allows_of_of? hw.kind

theorem infix_pair (h : Reading all consumed previous depth (token :: next :: rest)) :
    [token, next] <:+: all := ⟨consumed, rest, by rw [h.split]; simp⟩

/-- Behind every token but the finishing one there is another. -/
theorem exists_pair (h : Reading all consumed previous depth (token :: rest))
    (hk : token.kind ≠ .finish) : ∃ next, [token, next] <:+: all := by
  obtain ⟨_, _, _, hmore⟩ := h.advance hk
  cases rest with
  | nil => exact absurd rfl hmore.ne_nil
  | cons next rest => exact ⟨next, h.infix_pair⟩

theorem mem (h : Reading all consumed previous depth (token :: rest)) : token ∈ all := by
  rw [h.split]
  simp

end Reading

/-! ## Groups -/

theorem Stands.settles (h : Stands torn previous items)
    (hp : previous = .text ∨ previous = .rightParen) : Settles torn items.reverse := by
  rwa [Stands, if_pos hp] at h

theorem Stands.awaits (h : Stands torn previous items)
    (hp : ¬ (previous = .text ∨ previous = .rightParen)) : Awaits torn items.reverse := by
  rwa [Stands, if_neg hp] at h

/-- A settled group may stand behind an operand. -/
theorem stands_node {before : List Item} (h : Settles torn (before.reverse ++ [.node n]))
    (hp : previous = .text ∨ previous = .rightParen) : Stands torn previous (.node n :: before) := by
  rw [Stands, if_pos hp, List.reverse_cons]
  exact h

/-! ## Defects -/

theorem defect_of_tooDeep (h : Reading all consumed previous groups.length (token :: rest))
    (hk : token.kind = .leftParen) (hopen : maxOpen ≤ groups.length) :
    Defect all (.misshapen .tooDeep token.span) := by
  refine .tooDeep h.split hk ?_
  have hdepth := h.depth
  omega

/-- A group that is rejected was torn by a field. -/
theorem defect_of_reduce {span : Span} (h : Settles (Torn all) items.reverse)
    (he : reduce span items.reverse = .error e) : Defect all e := by
  obtain ⟨count, hcount, ⟨token, hk, field, hpair, hf, hprevious⟩, rfl⟩ := reduce_eq_error h he
  exact .fieldBeforeGroup hpair hf hprevious hk hcount

theorem defect_of_ofToken (hpair : [token, next] <:+: all) (hk : token.kind = .text)
    (hnext : token.previous = .keyword ∨ (next.kind ≠ .leftParen ∧ next.kind ≠ .keyword))
    (he : Operand.ofToken token = .error e) : Defect all e := by
  obtain ⟨_, text, fault, _, ht, hp, rfl⟩ := ofToken_eq_error he
  exact .path hpair hk hnext ht hp

namespace Reached

/-! ## What the next token says -/

/-- In front of an operand and of a sign, a group waits. -/
theorem awaits (h : Reached all consumed previous groups items (token :: rest))
    (hk : token.kind = .text ∨ token.kind = .unary) : Awaits (Torn all) items.reverse :=
  h.items.awaits (not_behind_operand h.reading.allows hk)

/-- In front of an operator between operands and of the end of a group, it is settled. -/
theorem settles (h : Reached all consumed previous groups items (token :: rest))
    (hk : token.kind = .binary ∨ token.kind = .rightParen ∨ token.kind = .finish) :
    Settles (Torn all) items.reverse :=
  h.items.settles (behind_operand h.reading.allows hk fun hs => h.begun hs token rfl)

/-- A group in parentheses tears the one around it, if it stands behind a field. -/
theorem receives (h : Reached all consumed previous groups items (token :: rest))
    (hk : token.kind = .leftParen) : Receives (Torn all) items := by
  intro n
  have hallows := h.reading.allows
  rw [hk] at hallows
  by_cases hp : previous = .text
  · have hfield := h.behind hp token rfl (.inl hk)
    exact (h.items.settles (.inl hp)).node ⟨token, hk, hfield⟩ n
  · exact (h.items.awaits (not_or.2 ⟨hp, ne_rightParen_of_allows hallows⟩)).node n

/-! ## Steps -/

/-- Behind most tokens nothing is to be known but the items. -/
theorem of_items (hp : previous ∉ [.start, .keyword, .text])
    (hreading : Reading all consumed previous groups.length tokens)
    (hitems : Stands (Torn all) previous items)
    (hgroups : ∀ group ∈ groups, Receives (Torn all) group.before) :
    Reached all consumed previous groups items tokens := by
  simp only [List.mem_cons, List.not_mem_nil, or_false, not_or] at hp
  exact ⟨hreading, hp.2.1, fun hs => absurd hs hp.1, fun ht => absurd ht hp.2.2, hitems, hgroups⟩

/-- Behind an operand, only a field has a group or a keyword behind it. -/
theorem of_operand (hreading : Reading all consumed .text groups.length tokens)
    (hbehind : ∀ token ∈ tokens.head?,
      token.kind = .leftParen ∨ token.kind = .keyword → BehindField all token)
    (hitems : Awaits (Torn all) items.reverse)
    (hgroups : ∀ group ∈ groups, Receives (Torn all) group.before) :
    Reached all consumed .text groups (.node n :: items) tokens :=
  ⟨hreading, by decide, fun hs => absurd hs (by decide), fun _ => hbehind,
    stands_node (hitems.node n) (.inl rfl), hgroups⟩

theorem operand (h : Reached all consumed previous groups items (token :: rest))
    (hk : token.kind = .text)
    (hnext : ∀ next ∈ rest.head?, next.kind ≠ .leftParen ∧ next.kind ≠ .keyword) (n : Node) :
    Reached all (consumed ++ [token]) .text groups (.node n :: items) rest := by
  have hreading := (h.reading.advance_word (by rw [hk]; decide)).2
  rw [hk] at hreading
  refine of_operand hreading ?_ (h.awaits (.inl hk)) h.groups
  rintro next hn (hl | hw)
  · exact absurd hl (hnext next hn).1
  · exact absurd hw (hnext next hn).2

theorem search {field : Token}
    (h : Reached all consumed previous groups items (token :: next :: field :: rest))
    (hk : token.kind = .text) (hn : next.kind = .keyword) (hf : field.kind = .text) (n : Node) :
    Reached all (consumed ++ [token] ++ [next] ++ [field]) .text groups (.node n :: items) rest := by
  have hword := (h.reading.advance_word (by rw [hk]; decide)).2
  have hfield := (hword.advance_word (by rw [hn]; decide)).2
  have hreading := (hfield.advance_word (by rw [hf]; decide)).2
  rw [hf] at hreading
  refine of_operand hreading ?_ (h.awaits (.inl hk)) h.groups
  intro behind hb _
  cases rest with
  | nil => cases hb
  | cons t rest =>
    cases hb
    exact ⟨field, hfield.infix_pair, hf, hfield.previous_eq.trans hn⟩

/-- A group is entered by its parenthesis. -/
theorem enter {caller : Option (Method × Token)}
    (hreading : Reading all consumed .leftParen (groups.length + 1) rest)
    (hitems : Receives (Torn all) items)
    (hgroups : ∀ group ∈ groups, Receives (Torn all) group.before) :
    Reached all consumed .leftParen (⟨token, caller, items⟩ :: groups) [] rest :=
  of_items (by decide) hreading awaits_nil (List.forall_mem_cons.2 ⟨hitems, hgroups⟩)

theorem opened (h : Reached all consumed previous groups items (token :: rest))
    (hk : token.kind = .leftParen) :
    Reached all (consumed ++ [token]) .leftParen (⟨token, none, items⟩ :: groups) [] rest :=
  enter (h.reading.advance_open hk) (h.receives hk) h.groups

theorem call (h : Reached all consumed previous groups items (token :: next :: rest))
    (hk : token.kind = .text) (hn : next.kind = .leftParen) (method : Method) :
    Reached all (consumed ++ [token] ++ [next]) .leftParen
      (⟨next, some (method, token), items⟩ :: groups) [] rest :=
  enter ((h.reading.advance_word (by rw [hk]; decide)).2.advance_open hn)
    (h.awaits (.inl hk)).node h.groups

theorem sign (h : Reached all consumed previous groups items (token :: rest))
    (hk : token.kind = .unary) :
    Reached all (consumed ++ [token]) .unary groups (.operator token :: items) rest := by
  obtain ⟨hw, hreading⟩ := h.reading.advance_word (by rw [hk]; decide)
  rw [hk] at hreading
  refine of_items (by decide) hreading ?_ h.groups
  rw [Stands, if_neg (by decide), List.reverse_cons]
  exact (h.awaits (.inr hk)).operator (hw.negates hk)

theorem operator (h : Reached all consumed previous groups items (token :: rest))
    (hk : token.kind = .binary) :
    Reached all (consumed ++ [token]) .binary groups (.operator token :: items) rest := by
  obtain ⟨hw, hreading⟩ := h.reading.advance_word (by rw [hk]; decide)
  rw [hk] at hreading
  obtain ⟨op, hop⟩ := hw.joins hk
  refine of_items (by decide) hreading ?_ h.groups
  rw [Stands, if_neg (by decide), List.reverse_cons]
  exact (h.settles (.inl hk)).operator hop

theorem close (h : Reached all consumed previous (group :: outer) items (token :: rest))
    (hk : token.kind = .rightParen) (n : Node) :
    Reached all (consumed ++ [token]) .rightParen outer (.node n :: group.before) rest :=
  of_items (by decide) (h.reading.advance_close hk)
    (stands_node (h.groups group List.mem_cons_self n) (.inr rfl))
    fun group hg => h.groups group (List.mem_cons_of_mem _ hg)

/-! ## All steps -/

/-- **The builder fails only at a defect**, wherever it has got to. -/
theorem defect_of_collect (h : Reached all consumed previous groups items tokens) (stop : ℕ) :
    ∀ e, (collect stop groups items tokens).1 = .error e → Defect all e := by
  -- A step leads to another state, fails at a defect, or is one that the table rules out.
  fun_induction collect stop groups items tokens generalizing consumed previous with
  | case1 | case2 => exact absurd rfl h.reading.ne_nil
  | case3 groups items field hk | case4 groups items field hk =>
    exact absurd rfl (h.reading.advance_word (by rw [hk]; decide)).2.ne_nil
  | case5 groups items name hk next tail hp hm =>
    rintro e ⟨⟩
    exact .noMethod h.reading.infix_pair hk (h.reading.previous_eq ▸ h.between) hp hm
  | case6 groups items name hk next tail hp method hm hopen =>
    rintro e ⟨⟩
    exact defect_of_tooDeep (h.reading.advance_word (by rw [hk]; decide)).2 hp hopen
  | case7 groups items name hk next tail hp method hm hopen ih => exact ih (h.call hk hp method)
  | case8 groups items pattern hk next tail hw hkey =>
    have hword := (h.reading.advance_word (by rw [hk]; decide)).2
    rw [(hword.advance_word (by rw [hw]; decide)).1.searches hw] at hkey
    cases hkey
  | case9 groups items pattern hk next hw keyword hkey =>
    have hword := (h.reading.advance_word (by rw [hk]; decide)).2
    exact absurd rfl (hword.advance_word (by rw [hw]; decide)).2.ne_nil
  | case10 groups items pattern hk next hw keyword hkey field behind hf m hs ih =>
    exact ih (h.search hk hw hf m)
  | case11 groups items pattern hk next hw keyword hkey field behind hf e hs =>
    rintro e ⟨⟩
    have hword := (h.reading.advance_word (by rw [hk]; decide)).2
    have hfield := (hword.advance_word (by rw [hw]; decide)).2
    rcases search_eq_error hs with ⟨hc, rfl⟩ | ho
    · exact .pattern h.reading.infix_pair hk (h.reading.previous_eq ▸ h.between) hw hc
    · obtain ⟨next, hpair⟩ := hfield.exists_pair (by rw [hf]; decide)
      exact defect_of_ofToken hpair hf (.inl (hfield.previous_eq.trans hw)) ho
  | case12 groups items pattern hk next hw keyword hkey field behind hf =>
    have hword := (h.reading.advance_word (by rw [hk]; decide)).2
    have hallows := (hword.advance_word (by rw [hw]; decide)).2.allows
    rw [hw] at hallows
    exact absurd (eq_text_of_keyword_allows hallows) hf
  | case13 groups items field hk next tail leaf ho hl hw ih =>
    refine ih (h.operand hk ?_ _)
    rintro t ⟨⟩
    exact ⟨hl, hw⟩
  | case14 groups items field hk next tail e ho hl hw =>
    rintro e ⟨⟩
    exact defect_of_ofToken h.reading.infix_pair hk (.inr ⟨hl, hw⟩) ho
  | case15 groups items token rest hk hopen =>
    rintro e ⟨⟩
    exact defect_of_tooDeep h.reading hk hopen
  | case16 groups items token rest hk hopen ih => exact ih (h.opened hk)
  | case17 groups items token rest hk ih => exact ih (h.sign hk)
  | case18 groups items token rest hk ih => exact ih (h.operator hk)
  | case19 items token rest hk => exact absurd hk h.reading.ne_rightParen
  | case20 items token rest hk group outer m hr ih => exact ih (h.close hk _)
  | case21 items token rest hk group outer e hr =>
    rintro e ⟨⟩
    exact defect_of_reduce (h.settles (.inr (.inl hk))) hr
  | case22 items token rest hk => exact fun e he => defect_of_reduce (h.settles (.inr (.inr hk))) he
  | case23 items token rest hk group outer => exact absurd (h.reading.finish hk) (by simp)
  | case24 groups items token rest hk =>
    rintro e ⟨⟩
    exact .comma h.reading.mem hk
  | case25 groups items token rest hk =>
    rintro e ⟨⟩
    have hallows := h.reading.allows
    rw [hk] at hallows
    obtain ⟨field, hpair, hf, hfield⟩ := h.behind (eq_text_of_allows hallows) token rfl (.inr hk)
    exact .fieldBeforeKeyword hpair hf hfield hk
  | case26 groups items token rest hk =>
    exact absurd (hk ▸ h.reading.allows) not_allows_start

end Reached

end RecordQuery

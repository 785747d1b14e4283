import RecordQuery.Proofs.Grammar.Derivation

/-!
# The tree builder reads the grammar

The builder collects a group flat and reduces it at its end, and it keeps a stack of the groups
that are still open.  What a stack still demands of the tokens is written down as a proposition,
and every step of the builder keeps it, whichever branch it takes:

* `Closes` — the tokens close the open groups around a node, innermost first;
* `Completes` — the tokens complete the innermost group and then close all groups;
* `completes_operator_iff`, `completes_open_iff`, … — one law for each kind of token;
* `collect_eq_ok_iff` — **the builder succeeds exactly on what completes its stack**.

For the empty stack this is the grammar itself, `ofTokens_next_eq_ok_iff`.
-/

namespace RecordQuery

/-- A token that stays in a group as it is. -/
def Token.IsOperator (token : Token) : Prop := token.kind = .unary ∨ token.kind = .binary

/-- The tokens, read as a row of items: atoms became nodes. -/
def Parts (opened : ℕ) : List Token → List Item → Prop :=
  Fills id Token.IsOperator (Derives .atom opened)

/-- The tokens close all groups around a node that ends the innermost one. -/
def Closes : List Group → Node → List Token → Node → Prop
  | [], m, tokens, n => tokens = [] ∧ m = n
  | group :: outer, m, tokens, n =>
    ∃ closer inner rest items m',
      tokens = closer :: (inner ++ rest) ∧ closer.kind = .rightParen ∧
      Parts outer.length inner items ∧
      Sentence Item.operator Single ((.node (group.close m) :: group.before).reverse ++ items) m' ∧
      Closes outer m' rest n

/-- The tokens complete the innermost group, of which some items were read, last item first, and
close all groups. -/
def Completes (groups : List Group) (items : List Item) (tokens : List Token) (n : Node) : Prop :=
  ∃ inner rest more m,
    tokens = inner ++ rest ∧ Parts groups.length inner more ∧
    Sentence Item.operator Single (items.reverse ++ more) m ∧ Closes groups m rest n

variable {opened : ℕ} {groups outer : List Group} {group : Group} {items : List Item}
  {token next : Token} {tokens : List Token} {m n : Node}

/-! ## Rows of items -/

/-- An expression is a row of atoms and operators that is a sentence. -/
theorem derives_or_iff_parts :
    Derives (.tier .or) opened tokens n ↔
      ∃ items, Parts opened tokens items ∧ Sentence Item.operator Single items n := by
  have h : After id Token.IsOperator (Derives .atom opened) (Sentence Item.operator Single)
      = Sentence id (Derives .atom opened) := by
    rw [after_sentence (fun _ _ hs => .inl hs.1) (fun _ _ _ hj => .inr hj.1), after_single]
  rw [derives_or_eq, ← h]
  rfl

theorem parts_nil_iff : Parts opened [] items ↔ items = [] := by
  constructor
  · intro h
    generalize hts : ([] : List Token) = tokens at h
    cases h with
    | nil => rfl
    | operator _ _ => cases hts
    | node ha _ =>
      obtain ⟨_, _, rfl, _⟩ := ha.head_of_atom
      cases hts
  · rintro rfl
    exact .nil

/-- A row of items starts with an operator or with the node of an atom. -/
theorem parts_cons (h : Parts opened (token :: tokens) items) :
    (token.IsOperator ∧ ∃ more, items = .operator token :: more ∧ Parts opened tokens more) ∨
    (∃ atom rest m more, token :: tokens = atom ++ rest ∧ items = .node m :: more ∧
      Derives .atom opened atom m ∧ Parts opened rest more) := by
  generalize hts : token :: tokens = all at h
  cases h with
  | nil => cases hts
  | operator hk hp =>
    cases hts
    exact .inl ⟨hk, _, rfl, hp⟩
  | node ha hp => exact .inr ⟨_, _, _, _, rfl, rfl, ha, hp⟩

/-! ## The law of a closing group -/

theorem closes_cons_iff :
    Closes (group :: outer) m tokens n ↔
      ∃ closer rest, tokens = closer :: rest ∧ closer.kind = .rightParen ∧
        Completes outer (.node (group.close m) :: group.before) rest n := by
  constructor
  · rintro ⟨closer, inner, rest, more, m', rfl, hk, hp, hs, hc⟩
    exact ⟨closer, _, rfl, hk, inner, rest, more, m', rfl, hp, hs, hc⟩
  · rintro ⟨closer, _, rfl, hk, inner, rest, more, m', rfl, hp, hs, hc⟩
    exact ⟨closer, inner, rest, more, m', rfl, hk, hp, hs, hc⟩

/-- Only a closing parenthesis ends a group in front of further tokens. -/
theorem kind_of_closes (h : Closes groups m (token :: tokens) n) : token.kind = .rightParen := by
  cases groups with
  | nil => cases h.1
  | cons group outer =>
    obtain ⟨_, _, hts, hk, _⟩ := closes_cons_iff.1 h
    cases hts
    exact hk

theorem completes_nil_iff :
    Completes groups items [] n ↔ groups = [] ∧ Sentence Item.operator Single items.reverse n := by
  constructor
  · rintro ⟨inner, rest, more, m, hts, hp, hs, hc⟩
    obtain ⟨rfl, rfl⟩ := List.append_eq_nil_iff.1 hts.symm
    rw [parts_nil_iff.1 hp, List.append_nil] at hs
    cases groups with
    | nil => exact ⟨rfl, hc.2 ▸ hs⟩
    | cons group outer =>
      obtain ⟨_, _, hts, _⟩ := closes_cons_iff.1 hc
      cases hts
  · rintro ⟨rfl, hs⟩
    exact ⟨[], [], [], n, rfl, .nil, by rwa [List.append_nil], rfl, rfl⟩

/-! ## One law for each kind of token -/

/-- A token that closes no group starts the row of the innermost group. -/
theorem completes_cons (h : Completes groups items (token :: tokens) n)
    (hk : token.kind ≠ .rightParen) :
    ∃ inner rest more m,
      tokens = inner ++ rest ∧ Parts groups.length (token :: inner) more ∧
      Sentence Item.operator Single (items.reverse ++ more) m ∧ Closes groups m rest n := by
  obtain ⟨inner, rest, more, m, hts, hp, hs, hc⟩ := h
  cases inner with
  | nil =>
    rw [List.nil_append] at hts
    rw [← hts] at hc
    exact absurd (kind_of_closes hc) hk
  | cons t inner =>
    cases hts
    exact ⟨inner, rest, more, m, rfl, hp, hs, hc⟩

theorem completes_operator_iff (hk : token.IsOperator) :
    Completes groups items (token :: tokens) n ↔
      Completes groups (.operator token :: items) tokens n := by
  constructor
  · intro h
    have hne : token.kind ≠ .rightParen := by
      rcases hk with hk | hk <;> rw [hk] <;> decide
    obtain ⟨inner, rest, more, m, rfl, hp, hs, hc⟩ := completes_cons h hne
    rcases parts_cons hp with ⟨_, items', rfl, hp'⟩ | ⟨_, _, _, _, hts, _, ha, _⟩
    · refine ⟨inner, rest, items', m, rfl, hp', ?_, hc⟩
      rwa [List.reverse_cons, List.append_assoc]
    · obtain ⟨_, _, rfl, ht⟩ := ha.head_of_atom
      cases hts
      rcases hk with hk | hk <;> rw [hk] at ht <;> simp at ht
  · rintro ⟨inner, rest, more, m, rfl, hp, hs, hc⟩
    refine ⟨token :: inner, rest, .operator token :: more, m, rfl, .operator hk hp, ?_, hc⟩
    rwa [List.reverse_cons, List.append_assoc] at hs

theorem completes_of_atom {atom : List Token} (ha : Derives .atom groups.length atom m)
    (h : Completes groups (.node m :: items) tokens n) :
    Completes groups items (atom ++ tokens) n := by
  obtain ⟨inner, rest, more, m', rfl, hp, hs, hc⟩ := h
  refine ⟨atom ++ inner, rest, .node m :: more, m', ?_, .node ha hp, ?_, hc⟩
  · rw [List.append_assoc]
  · rwa [List.reverse_cons, List.append_assoc] at hs

/-- A token that is no operator and closes no group starts an atom. -/
theorem exists_atom_of_completes {kind : TokenKind}
    (h : Completes groups items (token :: tokens) n) (hk : token.kind = kind)
    (hkind : kind ∉ [.unary, .binary, .rightParen]) :
    ∃ atom rest m, token :: tokens = atom ++ rest ∧ Derives .atom groups.length atom m ∧
      Completes groups (.node m :: items) rest n := by
  simp only [List.mem_cons, List.not_mem_nil, or_false, not_or] at hkind
  obtain ⟨hu, hb, hr⟩ := hkind
  obtain ⟨inner, rest, more, m, rfl, hp, hs, hc⟩ := completes_cons h (hk ▸ hr)
  rcases parts_cons hp with ⟨ho | ho, _⟩ | ⟨atom, behind, m', more, hts, rfl, ha, hp⟩
  · exact absurd (hk.symm.trans ho) hu
  · exact absurd (hk.symm.trans ho) hb
  · refine ⟨atom, behind ++ rest, m', ?_, ha, behind, rest, more, m, rfl, hp, ?_, hc⟩
    · rw [← List.append_assoc, ← hts, List.cons_append]
    · rwa [List.reverse_cons, List.append_assoc]

/-- Tokens of other kinds stand nowhere in an expression. -/
theorem not_completes {kind : TokenKind} (hk : token.kind = kind)
    (hkind : kind ∉ [.unary, .binary, .rightParen, .text, .leftParen]) :
    ¬ Completes groups items (token :: tokens) n := by
  intro h
  simp only [List.mem_cons, List.not_mem_nil, or_false, not_or] at hkind
  obtain ⟨hu, hb, hr, ht, hl⟩ := hkind
  obtain ⟨atom, rest, m, hts, ha, _⟩ := exists_atom_of_completes h hk (by simp [hu, hb, hr])
  obtain ⟨_, _, rfl, hhead⟩ := ha.head_of_atom
  cases hts
  rcases hhead with hhead | hhead
  · exact ht (hk.symm.trans hhead)
  · exact hl (hk.symm.trans hhead)

theorem not_completes_adjacent {l r : Node} :
    ¬ Completes groups (.node r :: .node l :: items) tokens n := by
  rintro ⟨_, _, more, m, _, _, hs, _⟩
  have hs' : Sentence Item.operator Single (items.reverse ++ .node l :: .node r :: more) m := by
    simpa using hs
  exact not_sentence_adjacent hs'

/-- No row of items starts with a closing parenthesis. -/
theorem not_parts_close (hk : token.kind = .rightParen) :
    ¬ Parts opened (token :: tokens) items := by
  intro hp
  rcases parts_cons hp with ⟨ho | ho, _⟩ | ⟨_, _, _, _, hts, _, ha, _⟩
  · cases hk.symm.trans ho
  · cases hk.symm.trans ho
  · obtain ⟨_, _, rfl, ht⟩ := ha.head_of_atom
    cases hts
    rw [hk] at ht
    simp at ht

theorem completes_close_iff (hk : token.kind = .rightParen) :
    Completes (group :: outer) items (token :: tokens) n ↔
      ∃ m, Sentence Item.operator Single items.reverse m ∧
        Completes outer (.node (group.close m) :: group.before) tokens n := by
  constructor
  · rintro ⟨inner, rest, more, m, hts, hp, hs, hc⟩
    cases inner with
    | nil =>
      rw [parts_nil_iff.1 hp, List.append_nil] at hs
      obtain ⟨_, _, rfl, _, hc'⟩ := closes_cons_iff.1 hc
      cases hts
      exact ⟨m, hs, hc'⟩
    | cons t inner =>
      cases hts
      exact absurd hp (not_parts_close hk)
  · rintro ⟨m, hs, hc⟩
    refine ⟨[], token :: tokens, [], m, rfl, .nil, by rwa [List.append_nil], ?_⟩
    exact closes_cons_iff.2 ⟨token, tokens, rfl, hk, hc⟩

theorem not_completes_close (hk : token.kind = .rightParen) :
    ¬ Completes [] items (token :: tokens) n := by
  rintro ⟨inner, rest, more, m, hts, hp, hs, hc⟩
  cases inner with
  | nil =>
    rw [hc.1] at hts
    cases hts
  | cons t inner =>
    cases hts
    exact not_parts_close hk hp

/-- A new group holds an expression, and its closing parenthesis makes the expression an item of
the group around it. -/
theorem completes_group_iff :
    Completes (group :: outer) [] tokens n ↔
      ∃ inner closer rest m, tokens = inner ++ closer :: rest ∧ closer.kind = .rightParen ∧
        Derives (.tier .or) (outer.length + 1) inner m ∧
        Completes outer (.node (group.close m) :: group.before) rest n := by
  constructor
  · rintro ⟨inner, _, more, m, rfl, hp, hs, hc⟩
    obtain ⟨closer, rest, rfl, hk, hc⟩ := closes_cons_iff.1 hc
    exact ⟨inner, closer, rest, m, rfl, hk, derives_or_iff_parts.2 ⟨more, hp, hs⟩, hc⟩
  · rintro ⟨inner, closer, rest, m, rfl, hk, hd, hc⟩
    obtain ⟨more, hp, hs⟩ := derives_or_iff_parts.1 hd
    exact ⟨inner, closer :: rest, more, m, rfl, hp, hs,
      closes_cons_iff.2 ⟨closer, rest, rfl, hk, hc⟩⟩

theorem completes_open_iff (hk : token.kind = .leftParen) :
    Completes groups items (token :: tokens) n ↔
      groups.length < maxOpen ∧ Completes (⟨token, none, items⟩ :: groups) [] tokens n := by
  constructor
  · intro h
    obtain ⟨atom, rest, m, hts, ha, hc⟩ := exists_atom_of_completes h hk (by decide)
    cases ha with
    | group _ hopen hd hcl =>
      cases hts
      exact ⟨hopen, completes_group_iff.2 ⟨_, _, rest, m, List.append_assoc _ _ _, hcl, hd, hc⟩⟩
    | operand ht _ | search ht _ _ _ _ _ | call ht _ _ _ _ _ =>
      cases hts
      cases hk.symm.trans ht
  · rintro ⟨hopen, h⟩
    obtain ⟨inner, closer, rest, m, rfl, hcl, hd, hc⟩ := completes_group_iff.1 h
    have h' := completes_of_atom (.group hk hopen hd hcl) hc
    simpa using h'

theorem completes_call_iff (hk : token.kind = .text) (hp : next.kind = .leftParen) :
    Completes groups items (token :: next :: tokens) n ↔
      ∃ method, Method.ofName? token.value = some method ∧ groups.length < maxOpen ∧
        Completes (⟨next, some (method, token), items⟩ :: groups) [] tokens n := by
  constructor
  · intro h
    obtain ⟨atom, rest, m, hts, ha, hc⟩ := exists_atom_of_completes h hk (by decide)
    cases ha with
    | operand _ _ =>
      -- The group behind the operand would be a second node beside it.
      cases hts
      obtain ⟨_, h'⟩ := (completes_open_iff hp).1 hc
      obtain ⟨_, _, _, _, _, _, _, hc'⟩ := completes_group_iff.1 h'
      exact absurd hc' not_completes_adjacent
    | search _ _ hw _ _ _ =>
      cases hts
      cases hp.symm.trans hw
    | call _ hm _ hopen hd hcl =>
      cases hts
      exact ⟨_, hm, hopen,
        completes_group_iff.2 ⟨_, _, rest, _, List.append_assoc _ _ _, hcl, hd, hc⟩⟩
    | group ho _ _ _ =>
      rw [← (List.cons.inj hts).1, hk] at ho
      cases ho
  · rintro ⟨method, hm, hopen, h⟩
    obtain ⟨inner, closer, rest, m, rfl, hcl, hd, hc⟩ := completes_group_iff.1 h
    have h' := completes_of_atom (.call hk hm hp hopen hd hcl) hc
    simpa using h'

theorem completes_operand_iff (hk : token.kind = .text)
    (hnext : ∀ next ∈ tokens.head?, next.kind ≠ .leftParen ∧ next.kind ≠ .keyword) :
    Completes groups items (token :: tokens) n ↔
      ∃ leaf, Operand.ofToken token = .ok leaf ∧
        Completes groups (.node (.operand leaf token) :: items) tokens n := by
  constructor
  · intro h
    obtain ⟨atom, rest, m, hts, ha, hc⟩ := exists_atom_of_completes h hk (by decide)
    cases ha with
    | operand _ ho =>
      cases hts
      exact ⟨_, ho, hc⟩
    | search _ _ hw _ _ _ =>
      cases hts
      exact absurd hw (hnext _ rfl).2
    | call _ _ ho _ _ _ =>
      obtain ⟨rfl, rfl⟩ := List.cons.inj hts
      exact absurd ho (hnext _ rfl).1
    | group ho _ _ _ =>
      rw [← (List.cons.inj hts).1, hk] at ho
      cases ho
  · rintro ⟨leaf, ho, h⟩
    exact completes_of_atom (.operand hk ho) h

theorem search_eq_ok_iff {keyword : Keyword} {pattern word field : Token} :
    search keyword pattern word field = .ok m ↔
      ∃ compiled leaf, Pattern.compile? pattern.value = some compiled ∧
        Operand.ofToken field = .ok leaf ∧ .keyword keyword compiled leaf word = m := by
  unfold search
  cases hc : Pattern.compile? pattern.value with
  | none => simp
  | some compiled =>
    simp only [Except.bind_eq_ok_iff, Except.ok.injEq]
    constructor
    · rintro ⟨leaf, ho, hm⟩
      exact ⟨compiled, leaf, rfl, ho, hm⟩
    · rintro ⟨_, leaf, hs, ho, hm⟩
      cases hs
      exact ⟨leaf, ho, hm⟩

theorem search_eq_error {keyword : Keyword} {pattern word field : Token} {e : ParseError}
    (h : search keyword pattern word field = .error e) :
    (Pattern.compile? pattern.value = none ∧
      e = .malformed .pattern pattern.value pattern.span) ∨ Operand.ofToken field = .error e := by
  unfold search at h
  cases hc : Pattern.compile? pattern.value with
  | none =>
    rw [hc] at h
    exact .inl ⟨rfl, (Except.error.inj h).symm⟩
  | some compiled =>
    rw [hc] at h
    rcases Except.bind_eq_error_iff.1 h with ho | ⟨_, _, hok⟩
    · exact .inr ho
    · cases hok

theorem completes_search_iff (hk : token.kind = .text) (hw : next.kind = .keyword) :
    Completes groups items (token :: next :: tokens) n ↔
      ∃ keyword, Keyword.ofName? next.value = some keyword ∧
        ∃ field rest, tokens = field :: rest ∧ field.kind = .text ∧
          ∃ m, search keyword token next field = .ok m ∧
            Completes groups (.node m :: items) rest n := by
  constructor
  · intro h
    obtain ⟨atom, rest, m, hts, ha, hc⟩ := exists_atom_of_completes h hk (by decide)
    cases ha with
    | operand _ _ =>
      -- A keyword starts no item, so nothing completes the group behind the operand.
      cases hts
      exact absurd hc (not_completes hw (by decide))
    | search _ hp _ hkey hf ho =>
      cases hts
      exact ⟨_, hkey, _, rest, rfl, hf, _, search_eq_ok_iff.2 ⟨_, _, hp, ho, rfl⟩, hc⟩
    | call _ _ ho _ _ _ =>
      rw [← (List.cons.inj (List.cons.inj hts).2).1, hw] at ho
      cases ho
    | group ho _ _ _ =>
      rw [← (List.cons.inj hts).1, hk] at ho
      cases ho
  · rintro ⟨keyword, hkey, field, rest, rfl, hf, m, hs, hc⟩
    obtain ⟨compiled, leaf, hp, ho, rfl⟩ := search_eq_ok_iff.1 hs
    exact completes_of_atom (.search hk hp hw hkey hf ho) hc

/-- What completes the empty stack is an expression. -/
theorem completes_empty_iff : Completes [] [] tokens n ↔ Derives (.tier .or) 0 tokens n := by
  rw [derives_or_iff_parts]
  constructor
  · rintro ⟨inner, rest, more, m, rfl, hp, hs, rfl, rfl⟩
    exact ⟨more, by rwa [List.append_nil], hs⟩
  · rintro ⟨more, hp, hs⟩
    exact ⟨tokens, [], more, n, (List.append_nil _).symm, hp, hs, rfl, rfl⟩

/-! ## Every step of the builder keeps what is demanded -/

/-- **The builder succeeds exactly on what completes its stack.** -/
theorem collect_eq_ok_iff (stop : ℕ) :
    (collect stop groups items tokens).1 = .ok n ↔
      Completes groups items (untilFinish groups.length tokens) n := by
  fun_induction collect stop groups items tokens with
  | case1 groups items hg =>
    rw [List.isEmpty_iff] at hg
    subst hg
    rw [untilFinish, completes_nil_iff, reduce_eq_ok_iff]
    simp
  | case2 groups items hg =>
    rw [List.isEmpty_iff] at hg
    rw [untilFinish, completes_nil_iff]
    simp [hg]
  | case3 groups items field hk leaf ho ih =>
    simp only [untilFinish, hk] at ih ⊢
    rw [completes_operand_iff hk (by simp), ih]
    simp [ho]
  | case4 groups items field hk e ho =>
    simp only [untilFinish, hk]
    rw [completes_operand_iff hk (by simp)]
    simp [ho]
  | case5 groups items name hk next tail hp hm =>
    simp only [untilFinish, hk, hp]
    rw [completes_call_iff hk hp]
    simp [hm]
  | case6 groups items name hk next tail hp method hm hopen =>
    simp only [untilFinish, hk, hp]
    rw [completes_call_iff hk hp]
    simp [hm, hopen]
  | case7 groups items name hk next tail hp method hm hopen ih =>
    simp only [untilFinish, hk, hp]
    rw [completes_call_iff hk hp, ih]
    simp [hm, Nat.lt_of_not_le hopen]
  | case8 groups items pattern hk next tail hw hkey =>
    simp only [untilFinish, hk, hw]
    rw [completes_search_iff hk hw]
    simp [hkey]
  | case9 groups items pattern hk next hw keyword hkey =>
    simp only [untilFinish, hk, hw]
    rw [completes_search_iff hk hw]
    simp
  | case10 groups items pattern hk next hw keyword hkey field behind hf m hs ih =>
    simp only [untilFinish, hk, hw, hf]
    rw [completes_search_iff hk hw, ih]
    constructor
    · exact fun h => ⟨keyword, hkey, field, _, rfl, hf, m, hs, h⟩
    · rintro ⟨_, hkey', _, _, hu, _, _, hs', h⟩
      cases hkey.symm.trans hkey'
      cases hu
      cases hs.symm.trans hs'
      exact h
  | case11 groups items pattern hk next hw keyword hkey field behind hf e hs =>
    simp only [untilFinish, hk, hw, hf]
    rw [completes_search_iff hk hw]
    simp [hkey, hf, hs]
  | case12 groups items pattern hk next hw keyword hkey field behind hf =>
    simp only [untilFinish_text hk, untilFinish.eq_2 _ next, hw]
    rw [completes_search_iff hk hw]
    constructor
    · intro h
      cases h
    · rintro ⟨_, _, other, _, hu, hother, _⟩
      have hmem : other ∈ (untilFinish groups.length (field :: behind)).head? := by
        rw [hu]
        rfl
      cases head?_of_untilFinish hmem
      exact absurd hother hf
  | case13 groups items field hk next tail leaf ho hl hw ih =>
    have hnext : ∀ t ∈ (untilFinish groups.length (next :: tail)).head?,
        t.kind ≠ .leftParen ∧ t.kind ≠ .keyword := by
      intro t ht
      cases head?_of_untilFinish ht
      exact ⟨hl, hw⟩
    rw [untilFinish_text hk, completes_operand_iff hk hnext, ih]
    simp [ho]
  | case14 groups items field hk next tail e ho hl hw =>
    have hnext : ∀ t ∈ (untilFinish groups.length (next :: tail)).head?,
        t.kind ≠ .leftParen ∧ t.kind ≠ .keyword := by
      intro t ht
      cases head?_of_untilFinish ht
      exact ⟨hl, hw⟩
    rw [untilFinish_text hk, completes_operand_iff hk hnext]
    simp [ho]
  | case15 groups items token rest hk hopen =>
    simp only [untilFinish, hk]
    rw [completes_open_iff hk]
    simp [hopen]
  | case16 groups items token rest hk hopen ih =>
    simp only [untilFinish, hk]
    rw [completes_open_iff hk, ih]
    simp [Nat.lt_of_not_le hopen]
  | case17 groups items token rest hk ih =>
    simp only [untilFinish, hk]
    rw [completes_operator_iff (.inl hk), ih]
  | case18 groups items token rest hk ih =>
    simp only [untilFinish, hk]
    rw [completes_operator_iff (.inr hk), ih]
  | case19 items token rest hk =>
    simp only [untilFinish, hk]
    simp [not_completes_close hk]
  | case20 items token rest hk group outer m hr ih =>
    simp only [untilFinish, hk]
    rw [completes_close_iff hk, ih]
    simp only [← reduce_eq_ok_iff (group.span token)]
    simp [hr]
  | case21 items token rest hk group outer e hr =>
    simp only [untilFinish, hk]
    rw [completes_close_iff hk]
    simp only [← reduce_eq_ok_iff (group.span token)]
    simp [hr]
  | case22 items token rest hk =>
    simp only [untilFinish, hk]
    simp [completes_nil_iff, reduce_eq_ok_iff]
  | case23 items token rest hk group outer =>
    simp only [untilFinish, hk]
    simp [not_completes hk (by decide)]
  | case24 groups items token rest hk =>
    simp only [untilFinish, hk]
    simp [not_completes hk (by decide)]
  | case25 groups items token rest hk =>
    simp only [untilFinish, hk]
    simp [not_completes hk (by decide)]
  | case26 groups items token rest hk =>
    simp only [untilFinish, hk]
    simp [not_completes hk (by decide)]

/-- The tree that is taken first is that of a derivation of the tokens in front of the first
finishing one. -/
theorem next_eq_ok_iff_derives :
    (Builder.ofTokens tokens).next.1 = .ok n ↔
      Derives (.tier .or) 0 (untilFinish 0 tokens) n := by
  rw [← completes_empty_iff]
  exact collect_eq_ok_iff _

/-- A row of tokens has one tree at most. -/
theorem derives_unique {n' : Node} (h : Derives (.tier .or) 0 (untilFinish 0 tokens) n)
    (h' : Derives (.tier .or) 0 (untilFinish 0 tokens) n') : n' = n := by
  have hn := next_eq_ok_iff_derives.2 h
  rw [next_eq_ok_iff_derives.2 h'] at hn
  exact Except.ok.inj hn

/-- **The builder reads the grammar.**  The tree that is taken first from some tokens is the tree
of the only derivation of the tokens in front of the first finishing one; there is none if they
have no derivation.  In the derived tokens a text in front of a parenthesis is a method, and a
text in front of a keyword is a pattern. -/
theorem ofTokens_next_eq_ok_iff (tokens : List Token) (n : Node) :
    ((Builder.ofTokens tokens).next.1 = .ok n ↔
      Derives (.tier .or) 0 (untilFinish 0 tokens) n) ∧
    (Derives (.tier .or) 0 (untilFinish 0 tokens) n →
      (∀ n', Derives (.tier .or) 0 (untilFinish 0 tokens) n' → n' = n) ∧
      (untilFinish 0 tokens).IsChain Token.Before) :=
  ⟨next_eq_ok_iff_derives, fun h => ⟨fun _ h' => derives_unique h h', h.neighbours⟩⟩

end RecordQuery

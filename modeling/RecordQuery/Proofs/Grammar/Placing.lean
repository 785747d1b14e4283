import RecordQuery.Proofs.Grammar.Derivation

/-!
# Trees and the places of their tokens

A tree keeps the tokens that it was built from, with their places and the kinds of the tokens
before them.  None of this decides what the tree is.

* `Token.detached`, `Node.detached` — a token and a tree of which the places are forgotten;
* `ofToken_of_detached` — an operand is read from the text of its token;
* `Derives.of_detached` — **tokens that differ in their places only have trees that differ in their
  places only**.
-/

namespace RecordQuery

/-- A token of which its place and the kind of the token before it are forgotten. -/
def Token.detached (token : Token) : Token := { token with span := ⟨0, 0⟩, previous := .start }

/-- A tree of which the places of its tokens are forgotten. -/
def Node.detached : Node → Node
  | operand leaf token => operand leaf token.detached
  | method m argument token => method m argument.detached token.detached
  | unary op inner token => unary op inner.detached token.detached
  | binary op left right token => binary op left.detached right.detached token.detached
  | keyword k pattern field token => keyword k pattern field token.detached

variable {opened : ℕ} {token token' : Token} {tokens tokens' : List Token} {level : Level}
  {n : Node} {leaf : Operand}

/-! ## Tokens that differ in their places -/

theorem detached_eq_iff :
    token.detached = token'.detached ↔
      token.value = token'.value ∧ token.kind = token'.kind ∧ token.quoted = token'.quoted := by
  simp [Token.detached]

theorem pathOfToken_eq_ok_iff {offset : ℕ} {text : List Char} :
    Operand.pathOfToken token offset text = .ok leaf ↔
      ∃ path, FieldPath.parse text = .ok path ∧ Operand.path path = leaf := by
  unfold Operand.pathOfToken
  cases FieldPath.parse text <;> simp

/-- An operand is read from the text of its token. -/
theorem ofToken_of_detached (h : token.detached = token'.detached)
    (ho : Operand.ofToken token = .ok leaf) : Operand.ofToken token' = .ok leaf := by
  obtain ⟨hv, _, _⟩ := detached_eq_iff.1 h
  unfold Operand.ofToken at ho ⊢
  rw [← hv]
  dsimp only at ho ⊢
  split at ho
  · exact pathOfToken_eq_ok_iff.2 (pathOfToken_eq_ok_iff.1 ho)
  · split_ifs at ho ⊢
    · split at ho
      · exact ho
      · cases ho
    · exact pathOfToken_eq_ok_iff.2 (pathOfToken_eq_ok_iff.1 ho)

theorem Token.Negates.of_detached {op : UnaryOp} (h : token.detached = token'.detached)
    (hs : token.Negates op) : token'.Negates op := by
  obtain ⟨hv, hk, _⟩ := detached_eq_iff.1 h
  exact ⟨hk ▸ hs.1, hv ▸ hs.2⟩

theorem Token.Joins.of_detached {tier : Tier} {op : BinaryOp}
    (h : token.detached = token'.detached) (hj : token.Joins tier op) : token'.Joins tier op := by
  obtain ⟨hv, hk, _⟩ := detached_eq_iff.1 h
  exact ⟨hk ▸ hj.1, hv ▸ hj.2⟩

/-! ## Rows that differ in their places -/

/-- Places are forgotten once. -/
theorem map_detached_detached (tokens : List Token) :
    (tokens.map Token.detached).map Token.detached = tokens.map Token.detached := by
  rw [List.map_map]
  rfl

theorem exists_cons_of_detached
    (h : (token :: tokens).map Token.detached = tokens'.map Token.detached) :
    ∃ t ts, tokens' = t :: ts ∧ token.detached = t.detached ∧
      tokens.map Token.detached = ts.map Token.detached := by
  cases tokens' with
  | nil => cases h
  | cons t ts =>
    obtain ⟨ht, hts⟩ := List.cons.inj h
    exact ⟨t, ts, rfl, ht, hts⟩

theorem exists_append_of_detached {xs ys : List Token}
    (h : (xs ++ ys).map Token.detached = tokens'.map Token.detached) :
    ∃ xs' ys', tokens' = xs' ++ ys' ∧ xs.map Token.detached = xs'.map Token.detached ∧
      ys.map Token.detached = ys'.map Token.detached := by
  rw [List.map_append] at h
  obtain ⟨xs', ys', rfl, hx, hy⟩ := List.map_eq_append_iff.1 h.symm
  exact ⟨xs', ys', rfl, hx.symm, hy.symm⟩

theorem eq_nil_of_detached (h : [].map Token.detached = tokens'.map Token.detached) :
    tokens' = [] := List.map_eq_nil_iff.1 h.symm

/-- **Tokens that differ in their places only have trees that differ in their places only.** -/
theorem Derives.of_detached (h : Derives level opened tokens n) :
    ∀ {tokens' : List Token}, tokens.map Token.detached = tokens'.map Token.detached →
      ∃ n', Derives level opened tokens' n' ∧ n'.detached = n.detached := by
  induction h with
  | operand hk ho =>
    intro tokens' hts
    obtain ⟨t, ts, rfl, ht, hts⟩ := exists_cons_of_detached hts
    obtain rfl := eq_nil_of_detached hts
    have hk' := (detached_eq_iff.1 ht).2.1
    exact ⟨_, .operand (hk' ▸ hk) (ofToken_of_detached ht ho), by rw [Node.detached, ← ht]; rfl⟩
  | search hp hc hw hk hf ho =>
    intro tokens' hts
    obtain ⟨p, ts, rfl, hp', hts⟩ := exists_cons_of_detached hts
    obtain ⟨w, ts, rfl, hw', hts⟩ := exists_cons_of_detached hts
    obtain ⟨f, ts, rfl, hf', hts⟩ := exists_cons_of_detached hts
    obtain rfl := eq_nil_of_detached hts
    obtain ⟨hpv, hpk, _⟩ := detached_eq_iff.1 hp'
    obtain ⟨hwv, hwk, _⟩ := detached_eq_iff.1 hw'
    obtain ⟨_, hfk, _⟩ := detached_eq_iff.1 hf'
    refine ⟨_, .search (hpk ▸ hp) (hpv ▸ hc) (hwk ▸ hw) (hwv ▸ hk) (hfk ▸ hf)
      (ofToken_of_detached hf' ho), ?_⟩
    rw [Node.detached, ← hw']
    rfl
  | call hk hm ho hopen _ hc ih =>
    intro tokens' hts
    obtain ⟨name, ts, rfl, hname, hts⟩ := exists_cons_of_detached hts
    obtain ⟨opener, ts, rfl, hopener, hts⟩ := exists_cons_of_detached hts
    obtain ⟨inner, ts, rfl, hinner, hts⟩ := exists_append_of_detached hts
    obtain ⟨closer, ts, rfl, hcloser, hts⟩ := exists_cons_of_detached hts
    obtain rfl := eq_nil_of_detached hts
    obtain ⟨hnv, hnk, _⟩ := detached_eq_iff.1 hname
    obtain ⟨m, hm', hn⟩ := ih hinner
    refine ⟨_, .call (hnk ▸ hk) (hnv ▸ hm) ((detached_eq_iff.1 hopener).2.1 ▸ ho) hopen hm'
      ((detached_eq_iff.1 hcloser).2.1 ▸ hc), ?_⟩
    rw [Node.detached, ← hname, hn]
    rfl
  | group ho hopen _ hc ih =>
    intro tokens' hts
    obtain ⟨opener, ts, rfl, hopener, hts⟩ := exists_cons_of_detached hts
    obtain ⟨inner, ts, rfl, hinner, hts⟩ := exists_append_of_detached hts
    obtain ⟨closer, ts, rfl, hcloser, hts⟩ := exists_cons_of_detached hts
    obtain rfl := eq_nil_of_detached hts
    obtain ⟨m, hm', hn⟩ := ih hinner
    exact ⟨m, .group ((detached_eq_iff.1 hopener).2.1 ▸ ho) hopen hm'
      ((detached_eq_iff.1 hcloser).2.1 ▸ hc), hn⟩
  | atom _ ih =>
    intro tokens' hts
    obtain ⟨m, hm, hn⟩ := ih hts
    exact ⟨m, .atom hm, hn⟩
  | not hs _ ih =>
    intro tokens' hts
    obtain ⟨t, ts, rfl, ht, hts⟩ := exists_cons_of_detached hts
    obtain ⟨m, hm, hn⟩ := ih hts
    refine ⟨_, .not (hs.of_detached ht) hm, ?_⟩
    rw [Node.detached, ← ht, hn]
    rfl
  | part _ ih =>
    intro tokens' hts
    obtain ⟨m, hm, hn⟩ := ih hts
    exact ⟨m, .part hm, hn⟩
  | join _ hj _ ihl ihr =>
    intro tokens' hts
    obtain ⟨ls, ts, rfl, hl, hts⟩ := exists_append_of_detached hts
    obtain ⟨t, rs, rfl, ht, hr⟩ := exists_cons_of_detached hts
    obtain ⟨l, hl', hln⟩ := ihl hl
    obtain ⟨r, hr', hrn⟩ := ihr hr
    refine ⟨_, .join hl' (hj.of_detached ht) hr', ?_⟩
    rw [Node.detached, ← ht, hln, hrn]
    rfl

end RecordQuery

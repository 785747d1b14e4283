import RecordQuery.Proofs.Compiling.Shape
import RecordQuery.Proofs.Evaluation.Reporting
import RecordQuery.Proofs.Lexing.Soundness

/-!
# Errors of a query and their places in it

An error of a computation names a token of the tree, and the tokens of the tree are tokens of the
query.  So every error points at a place of the query, and what is written there is the token.

* `Derives.token_mem` — a tree is built from tokens of its row;
* `Token.WrittenIn` — the query has a token at its place;
* `Query.Fails` — an error that ends a computation, or that is found later in its result;
* `fails_at_node` — **every error points at a call, an operator or a search, as it is written**.
-/

namespace RecordQuery

/-- The query has the token at its place: its text, or a quotation that stands for its text. -/
def Token.WrittenIn (text : List Char) (token : Token) : Prop :=
  if token.quoted then
    ∃ inside, token.span.slice text = '"' :: (inside ++ ['"']) ∧ Quotes inside token.value.toList
  else token.span.slice text = token.value.toList

/-- The error ends the computation on a record, or it is among the items of the result, at any
depth. -/
def Query.Fails (query : Query) (record : Value) (e : EvalError) : Prop :=
  query.evaluate record = .failure e ∨ ∃ x, query.evaluate record = .value x ∧ x.Holds e

/-- The error names a node of the tree at which errors are reported, by its text and its place, and
the query has the token of the node there. -/
def Query.PointsAt (query : Query) (e : EvalError) (node : Node) : Prop :=
  (∃ root, query.root = some root ∧ node ∈ root.postorder) ∧ node.operates ∧
    e.token = node.token.value ∧ e.span = node.token.span ∧
    e.span.stop ≤ query.source.toList.length ∧ node.token.WrittenIn query.source.toList

variable {level : Level} {opened : ℕ} {tokens : List Token} {n node root : Node} {text : List Char}
  {token : Token} {source : String} {query : Query} {record : Value} {e : EvalError}

/-! ## Tokens of a tree -/

/-- A tree is built from tokens of its row. -/
theorem Derives.token_mem (h : Derives level opened tokens n) :
    ∀ node ∈ n.postorder, node.token ∈ tokens := by
  induction h with
  | operand _ _ =>
    intro node hnode
    obtain rfl := List.mem_singleton.1 hnode
    exact List.mem_cons_self
  | search _ _ _ _ _ _ =>
    intro node hnode
    obtain rfl := List.mem_singleton.1 hnode
    exact List.mem_cons_of_mem _ List.mem_cons_self
  | call _ _ _ _ _ _ ih =>
    intro node hnode
    rcases List.mem_append.1 hnode with hnode | hnode
    · exact List.mem_cons_of_mem _ (List.mem_cons_of_mem _ (List.mem_append_left _ (ih node hnode)))
    · obtain rfl := List.mem_singleton.1 hnode
      exact List.mem_cons_self
  | group _ _ _ _ ih =>
    exact fun node hnode => List.mem_cons_of_mem _ (List.mem_append_left _ (ih node hnode))
  | atom _ ih => exact ih
  | not _ _ ih =>
    intro node hnode
    rcases List.mem_append.1 hnode with hnode | hnode
    · exact List.mem_cons_of_mem _ (ih node hnode)
    · obtain rfl := List.mem_singleton.1 hnode
      exact List.mem_cons_self
  | part _ ih => exact ih
  | join _ _ _ ihl ihr =>
    intro node hnode
    rcases List.mem_append.1 hnode with hnode | hnode
    · exact List.mem_append_left _ (ihl node hnode)
    refine List.mem_append_right _ ?_
    rcases List.mem_append.1 hnode with hnode | hnode
    · exact List.mem_cons_of_mem _ (ihr node hnode)
    · obtain rfl := List.mem_singleton.1 hnode
      exact List.mem_cons_self

/-- A query has each of its tokens at the place of the token. -/
theorem Spells.writtenIn (h : Spells 0 .start 0 text tokens) (ht : token ∈ tokens) :
    token.WrittenIn text := by
  unfold Token.WrittenIn
  split_ifs with hq
  · obtain ⟨inside, hslice, hquotes, _⟩ := h.quoted token ht hq
    exact ⟨inside, hslice, hquotes⟩
  · exact (h.bare token ht (by simpa using hq)).1.symm

/-! ## Errors of a query -/

theorem compute_eq_failure_iff :
    root.compute record = .failure e ↔ root.eval record = .error (.failure e) := by
  unfold Node.compute
  rcases root.eval record with (v | e) | y <;> simp

/-- The errors of a query are those of its tree. -/
theorem endsIn_of_fails {P : EvalError → Prop} (h : query.Fails record e)
    (hroot : ∀ root, query.root = some root → EndsIn P (root.eval record)) : P e := by
  unfold Query.Fails Query.evaluate at h
  cases hr : query.root with
  | none =>
    rw [hr] at h
    rcases h with h | ⟨x, h, hx⟩
    · cases h
    · cases h
      exact absurd hx not_holds_value
  | some root =>
    rw [hr] at h
    have hends := hroot root hr
    rcases h with h | ⟨x, h, hx⟩
    · rw [compute_eq_failure_iff.1 h] at hends
      exact hends
    · rw [compute_eq_value_iff.1 h] at hends
      exact hends e hx

/-- **Every error points at a call, an operator or a search, as it is written.**  No other error is
met by whoever asks for the value of a result, for its truth or for a match.  A tree without such
nodes does not fail at all. -/
theorem fails_at_node (h : Query.compile source = .ok query) :
    (∀ record e, query.Fails record e → ∃ node, query.PointsAt e node) ∧
    (∀ (x : Evaluated) (e : EvalError),
      x.toValue = .error e ∨ x.isTruthy = .error e ∨ x.isMatch = .error e → x.Holds e) ∧
    ∀ tree : Node, (∀ node ∈ tree.postorder, node.operates = false) →
      ∀ record, ∃ x, tree.compute record = .value x ∧ ∀ e, ¬ x.Holds e := by
  refine ⟨fun record e hfails => ?_, ?_, fun tree htree record =>
    exists_value_of_not_operates record htree⟩
  · obtain rfl := source_of_compile h
    have hends : ∀ root, query.root = some root →
        EndsIn (fun e => ∃ node, query.PointsAt e node) (root.eval record) := by
      refine fun root hroot => endsIn_eval record fun node hnode ho fault => ?_
      have hcompiled : Query.compile query.source = .ok ⟨query.source, some root⟩ := by
        rw [h, ← hroot]
      obtain ⟨tokens, ht, hd⟩ := compile_eq_ok_iff.1 hcompiled
      have hspells := tokenize_eq_ok_iff.1 ht
      have hmem : node.token ∈ tokens := List.dropLast_subset tokens (hd.token_mem node hnode)
      have hinside : node.token.span.stop ≤ query.source.toList.length := by
        simpa using (hspells.inside _ hmem).2
      exact ⟨node, ⟨root, hroot, hnode⟩, ho, rfl, rfl, hinside, hspells.writtenIn hmem⟩
    exact endsIn_of_fails hfails hends
  · rintro x e (hx | hx | hx)
    · exact holds_of_toValue x hx
    · exact holds_of_isTruthy hx
    · exact holds_of_isMatch hx

/-- The name of a method may stand in quotes, and an item fails only when it is asked for. -/
theorem fails_at_node_reduce :
    let record := Value.ofPairs [(.text "a", .array [.array [.integer 1], .integer 2])]
    let root := Node.method .reduce
      (.operand (.path ⟨[.key "a"]⟩) ⟨"a", ⟨9, 1⟩, .text, .leftParen, false⟩)
      ⟨"reduce", ⟨0, 8⟩, .text, .start, true⟩
    let query : Query := ⟨"\"reduce\"(a)", some root⟩
    let e : EvalError := ⟨.itemNotSequence .reduce "integer", "reduce", ⟨0, 8⟩⟩
    Query.compile "\"reduce\"(a)" = .ok query ∧
      query.evaluate record = .value (.sequence [.ok (.value (.integer 1)), .error e]) ∧
      ∃ node, query.PointsAt e node := by
  intro record root query e
  have htokens : tokenize "\"reduce\"(a)".toList =
      .ok [⟨"reduce", ⟨0, 8⟩, .text, .start, true⟩, ⟨"(", ⟨8, 1⟩, .leftParen, .text, false⟩,
        ⟨"a", ⟨9, 1⟩, .text, .leftParen, false⟩, ⟨")", ⟨10, 1⟩, .rightParen, .text, false⟩,
        ⟨"", ⟨11, 0⟩, .finish, .rightParen, false⟩] := by cbv
  have hcompile : Query.compile "\"reduce\"(a)" = .ok query := by
    refine compile_eq_ok_iff.2 ⟨_, htokens, ?_⟩
    exact .part (.part (.part (.atom
      (.call rfl rfl rfl (by decide) (.part (.part (.part (.atom (.operand rfl rfl))))) rfl))))
  have hevaluate : query.evaluate record =
      .value (.sequence [.ok (.value (.integer 1)), .error e]) := by rfl
  have hfails : query.Fails record e :=
    .inr ⟨_, hevaluate, .failed (List.mem_cons_of_mem _ List.mem_cons_self)⟩
  exact ⟨hcompile, hevaluate, (fails_at_node hcompile).1 record e hfails⟩

end RecordQuery

import RecordQuery.Proofs.Compiling.Tree
import RecordQuery.Proofs.Grammar.Placing
import RecordQuery.Proofs.Evaluation.Shape

/-!
# The results of compiled queries

A constant in a query is a number, so no constant of a compiled query is a mapping.  What the query
comes to is then as simple as what is computed from such a tree.

* `Derives.plain` — the tree of an expression has no mappings in it;
* `evaluate_shallow` — **a result is a value that is no mapping, or a sequence of plain values**,
  and neither what is printed nor what a path leads to is a mapping.
-/

namespace RecordQuery

variable {source : String} {query : Query} {record : Value} {token : Token} {leaf : Operand}
  {level : Level} {opened : ℕ} {tokens : List Token} {n root : Node}

/-! ## Constants -/

theorem ne_mapping_of_numberOf? {text : List Char} {v : Value}
    (h : Operand.numberOf? text = some v) : v.isMapping = false := by
  unfold Operand.numberOf? at h
  dsimp only at h
  split at h
  · cases h
    rfl
  · obtain ⟨x, _, rfl⟩ := Option.map_eq_some_iff.1 h
    rfl

theorem plain_of_pathOfToken {offset : ℕ} {text : List Char}
    (h : Operand.pathOfToken token offset text = .ok leaf) : leaf.Plain := by
  obtain ⟨path, _, rfl⟩ := pathOfToken_eq_ok_iff.1 h
  exact trivial

/-- A constant is a number. -/
theorem plain_of_ofToken (h : Operand.ofToken token = .ok leaf) : leaf.Plain := by
  unfold Operand.ofToken at h
  dsimp only at h
  split at h
  · exact plain_of_pathOfToken h
  · split at h
    · split at h
      · rename_i v hv
        cases h
        exact ne_mapping_of_numberOf? hv
      · cases h
    · exact plain_of_pathOfToken h

/-- The tree of an expression has no mappings in it. -/
theorem Derives.plain (h : Derives level opened tokens n) : n.Plain := by
  induction h with
  | operand _ hleaf => exact plain_of_ofToken hleaf
  | search _ _ _ _ _ hleaf => exact plain_of_ofToken hleaf
  | call _ _ _ _ _ _ ih => exact ih
  | group _ _ _ _ ih => exact ih
  | atom _ ih => exact ih
  | not _ _ ih => exact ih
  | part _ ih => exact ih
  | join _ _ _ ihl ihr => exact ⟨ihl, ihr⟩

theorem source_of_compile (h : Query.compile source = .ok query) : query.source = source := by
  unfold Query.compile at h
  split at h
  · cases h
  · split at h
    · cases h
      rfl
    · obtain ⟨root, _, rfl⟩ := Except.map_eq_ok_iff.1 h
      rfl

theorem plain_of_compile (h : Query.compile source = .ok query) (hroot : query.root = some root) :
    root.Plain := by
  obtain ⟨source', root'⟩ := query
  obtain rfl : source' = source := source_of_compile h
  obtain rfl : root' = some root := hroot
  obtain ⟨tokens, _, hderives⟩ := compile_eq_ok_iff.1 h
  exact hderives.plain

/-! ## Results -/

/-- **The results of a compiled query are shallow**: a value that is no mapping, or a sequence in
which all that did not fail are plain values.  What it prints is no mapping, and neither is what a
path leads to. -/
theorem evaluate_shallow (h : Query.compile source = .ok query) (record : Value) :
    (∀ x, query.evaluate record = .value x → x.Shallow) ∧
    (∀ v, query.evaluate record = .print v → v.isMapping = false) ∧
    ∀ (path : FieldPath) (v : Value), path.resolve record = some v → v.isMapping = false := by
  refine ⟨?_, ?_, fun path v => resolve_ne_mapping⟩
  · intro x hx
    unfold Query.evaluate at hx
    split at hx
    · rename_i root hroot
      exact shallow_of_eval (plain_of_compile h hroot) (compute_eq_value_iff.1 hx)
    · cases hx
      exact shallow_ofBool true
  · intro v hv
    unfold Query.evaluate at hv
    split at hv
    · rename_i root hroot
      exact ne_mapping_of_print (plain_of_compile h hroot) (compute_eq_print_iff.1 hv)
    · cases hv

/-- The items of items may be mappings. -/
theorem evaluate_shallow_reduce :
    let record := Value.ofPairs [(.text "a", .array [.array [.ofPairs [(.text "b", .integer 1)]]])]
    let root := Node.method .reduce
      (.operand (.path ⟨[.key "a"]⟩) ⟨"a", ⟨7, 1⟩, .text, .leftParen, false⟩)
      ⟨"reduce", ⟨0, 6⟩, .text, .start, false⟩
    let query : Query := ⟨"reduce(a)", some root⟩
    Query.compile "reduce(a)" = .ok query ∧
      query.evaluate record =
        .value (.sequence [.ok (.value (.ofPairs [(.text "b", .integer 1)]))]) ∧
      Evaluated.Shallow (.sequence [.ok (.value (.ofPairs [(.text "b", .integer 1)]))]) := by
  intro record root query
  have htokens : tokenize "reduce(a)".toList =
      .ok [⟨"reduce", ⟨0, 6⟩, .text, .start, false⟩, ⟨"(", ⟨6, 1⟩, .leftParen, .text, false⟩,
        ⟨"a", ⟨7, 1⟩, .text, .leftParen, false⟩, ⟨")", ⟨8, 1⟩, .rightParen, .text, false⟩,
        ⟨"", ⟨9, 0⟩, .finish, .rightParen, false⟩] := by cbv
  have hcompile : Query.compile "reduce(a)" = .ok query := by
    refine compile_eq_ok_iff.2 ⟨_, htokens, ?_⟩
    exact .part (.part (.part (.atom
      (.call rfl rfl rfl (by decide) (.part (.part (.part (.atom (.operand rfl rfl))))) rfl))))
  have hevaluate : query.evaluate record =
      .value (.sequence [.ok (.value (.ofPairs [(.text "b", .integer 1)]))]) := by rfl
  exact ⟨hcompile, hevaluate, (evaluate_shallow hcompile record).1 _ hevaluate⟩

end RecordQuery

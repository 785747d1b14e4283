import RecordQuery.Proofs.Broadcasting.Items
import RecordQuery.Proofs.Evaluation.Shape

/-!
# Grouping of `and` and `or`

In a chain of `and` it does not matter which two operands are brought together first, and neither
in a chain of `or`.  The groupings differ in what they compute on the way: another pair of operands
makes the inner sequence, and another scalar settles its items.  Where no item failed, an operand is
just its values, and both groupings run through all triples of values, the leftmost value changing
slowest.

* `Batch` — one value, or the values of items;
* `Batch.pair_assoc` — **to pair batches is associative** where the operation on values is;
* `broadcast_logical` — `and` and `or` pair the batches of their operands;
* `compute_grouped` — **both groupings come to the same product of three operands**.
-/

namespace RecordQuery

open Evaluated

/-! ## Batches -/

/-- The values of a result of which no item failed. -/
inductive Batch where
  | one (v : Value)
  | many (vs : List Value)

namespace Batch

/-- The values, in order. -/
def values : Batch → List Value
  | one v => [v]
  | many vs => vs

/-- Whether the values are those of items. -/
def isMany : Batch → Bool
  | one _ => false
  | many _ => true

/-- The result with these values. -/
def result : Batch → Evaluated
  | one v => .value v
  | many vs => .sequence (ofValues vs)

/-- Applies an operation to all pairs of values, the left value changing slowest. -/
def pair (f : Value → Value → Value) : Batch → Batch → Batch
  | one a, one b => one (f a b)
  | many as, one b => many (as.map fun a => f a b)
  | one a, many bs => many (bs.map fun b => f a b)
  | many as, many bs => many (as.flatMap fun a => bs.map fun b => f a b)

variable {f : Value → Value → Value} {p q r : Batch}

theorem ext_values (hmany : p.isMany = q.isMany) (hvalues : p.values = q.values) : p = q := by
  cases p <;> cases q <;> cases hmany <;> cases hvalues <;> rfl

theorem isMany_pair (f : Value → Value → Value) (p q : Batch) :
    (p.pair f q).isMany = (p.isMany || q.isMany) := by
  cases p <;> cases q <;> rfl

/-- A single value counts as a row of one. -/
theorem values_pair (f : Value → Value → Value) (p q : Batch) :
    (p.pair f q).values = p.values.flatMap fun a => q.values.map fun b => f a b := by
  cases p <;> cases q <;> simp [pair, values, List.map_eq_flatMap]

/-- The values of three batches, with the inner pair on the right. -/
theorem values_pair_pair (f : Value → Value → Value) (p q r : Batch) :
    (p.pair f (q.pair f r)).values =
      p.values.flatMap fun a => q.values.flatMap fun b => r.values.map fun c => f a (f b c) := by
  simp only [values_pair, List.map_flatMap, List.map_map, Function.comp_def]

/-- **To pair batches is associative** where the operation on values is. -/
theorem pair_assoc (hf : ∀ a b c, f (f a b) c = f a (f b c)) (p q r : Batch) :
    (p.pair f q).pair f r = p.pair f (q.pair f r) := by
  apply ext_values
  · simp only [isMany_pair, Bool.or_assoc]
  · rw [values_pair_pair]
    simp only [values_pair, List.flatMap_assoc, List.flatMap_map, hf]

end Batch

/-- The batch of a result: its value if it has no items, and the values of its items otherwise. -/
inductive Evaluated.HasBatch : Evaluated → Batch → Prop
  | one {x : Evaluated} {v : Value} : x.view = .scalar v → HasBatch x (.one v)
  | many {x : Evaluated} {items : List ResultItem} {vs : List Value} :
      x.view = .items items → valuesOf items = .ok vs → HasBatch x (.many vs)

/-- None of the items of a result failed. -/
def Evaluated.Unfailing (x : Evaluated) : Prop :=
  ∀ items, x.view = .items items → ∀ e, .error e ∉ items

variable {items : List ResultItem} {vs : List Value} {x y z : Evaluated} {p q : Batch}
  {token : Token} {op : BinaryOp}

/-- Plain items none of which failed have values. -/
theorem exists_valuesOf (hplain : PlainItems items) (h : ∀ e, .error e ∉ items) :
    ∃ vs, valuesOf items = .ok vs := by
  induction items with
  | nil => exact ⟨[], rfl⟩
  | cons item items ih =>
    cases item with
    | error e => exact absurd List.mem_cons_self (h e)
    | ok x =>
      obtain ⟨v, rfl⟩ := hplain x List.mem_cons_self
      obtain ⟨vs, hvs⟩ := ih (fun x hx => hplain x (List.mem_cons_of_mem _ hx))
        fun e he => h e (List.mem_cons_of_mem _ he)
      exact ⟨v :: vs, valuesOf_cons_eq_ok_iff.2 ⟨v, vs, itemShows_value, hvs, rfl⟩⟩

theorem exists_batch (hx : x.Flat) (h : x.Unfailing) : ∃ p, x.HasBatch p := by
  cases hview : x.view with
  | scalar v => exact ⟨_, .one hview⟩
  | items items =>
    obtain ⟨vs, hvs⟩ := exists_valuesOf (hx items hview) (h items hview)
    exact ⟨_, .many hview hvs⟩

/-! ## Logical operators -/

/-- What `and` and `or` make of two values. -/
def BinaryOp.joins (op : BinaryOp) (a b : Value) : Value :=
  .boolean (if op = .and then a.isTruthy && b.isTruthy else a.isTruthy || b.isTruthy)

/-- A joined value is as true as the answer it was made from. -/
theorem joins_assoc (op : BinaryOp) (a b c : Value) :
    op.joins (op.joins a b) c = op.joins a (op.joins b c) := by
  by_cases h : op = .and
  · simp only [BinaryOp.joins, if_pos h, Value.isTruthy, Bool.and_assoc]
  · simp only [BinaryOp.joins, if_neg h, Value.isTruthy, Bool.or_assoc]

theorem applyBinary_logical (hop : op.tier ≠ .comparison) (a b : Value) :
    (applyBinary token op a b).map ofBool = .ok (value (op.joins a b)) := by
  cases op with
  | and | or => rfl
  | _ => exact absurd rfl hop

/-- Items with values are answered by their values. -/
theorem map_applyToItem_of_valuesOf {settled : Option Bool}
    {apply : Value → Except EvalError Bool} {answer : Value → Value}
    (hsettled : ∀ b, settled = some b → ∀ v, apply v = .ok b)
    (happly : ∀ v, (apply v).map ofBool = .ok (value (answer v))) (h : valuesOf items = .ok vs) :
    items.map (applyToItem settled apply) = ofValues (vs.map answer) := by
  induction items generalizing vs with
  | nil =>
    cases h
    rfl
  | cons item items ih =>
    obtain ⟨v, vs, ⟨x, rfl, hx⟩, hvs, rfl⟩ := valuesOf_cons_eq_ok_iff.1 h
    rw [List.map_cons, ih hvs, applyToItem_of_value hsettled hx, happly]
    rfl

/-- **`and` and `or` pair the batches of their operands.** -/
theorem broadcast_logical (hop : op.tier ≠ .comparison) (hx : x.HasBatch p) (hy : y.HasBatch q) :
    broadcast token op x y = .ok (p.pair op.joins q).result := by
  cases hx with
  | one hx =>
    cases hy with
    | one hy =>
      simp only [broadcast, hx, hy, applyBinary_logical hop]
      rfl
    | many hy hbs =>
      simp only [broadcast, hx, hy]
      rw [map_applyToItem_of_valuesOf (fun _ h v => (applyBinary_of_settled h v).2)
        (applyBinary_logical hop _) hbs]
      rfl
  | many hx has =>
    cases hy with
    | one hy =>
      simp only [broadcast, hx, hy]
      rw [map_applyToItem_of_valuesOf (fun _ h v => (applyBinary_of_settled h v).1)
        (fun a => applyBinary_logical hop a _) has]
      rfl
    | many hy hbs =>
      simp only [broadcast, hx, hy, has, hbs, applyToPairs_eq, applyBinary_logical hop]
      simp only [Batch.pair, Batch.result, ofValues, List.map_flatMap, List.map_map,
        Function.comp_def]
      rfl

/-- And the result has the paired batch in turn. -/
theorem hasBatch_pair (op : BinaryOp) (p q : Batch) :
    (p.pair op.joins q).result.HasBatch (p.pair op.joins q) := by
  cases p <;> cases q
  case one.one => exact .one rfl
  all_goals exact .many rfl (valuesOf_ofValues _)

/-! ## Chains -/

/-- The outcome is the product of three results: for each triple of values, the leftmost changing
slowest, the value that joins them; it has items if one of the three has. -/
def TripleProduct (op : BinaryOp) (x y z : Evaluated) (outcome : Outcome) : Prop :=
  ∃ p q r product : Batch, x.HasBatch p ∧ y.HasBatch q ∧ z.HasBatch r ∧
    outcome = .value product.result ∧
    product.isMany = (p.isMany || (q.isMany || r.isMany)) ∧
    product.values = p.values.flatMap fun a => q.values.flatMap fun b => r.values.map fun c =>
      op.joins a (op.joins b c)

variable {a b c : Node} {record : Value}

theorem eval_logical (hop : op.tier ≠ .comparison) (ha : a.eval record = .ok x)
    (hb : b.eval record = .ok y) (hx : x.HasBatch p) (hy : y.HasBatch q) (t : Token) :
    (Node.binary op a b t).eval record = .ok (p.pair op.joins q).result := by
  rw [Node.eval, ha, hb]
  exact congrArg orInterrupt (broadcast_logical hop hx hy)

/-- **Both groupings of a chain of `and` or of `or` come to the same product**, if each operand
comes to a scalar or to a sequence without failures. -/
theorem compute_grouped (hop : op.tier ≠ .comparison) (ha : a.compute record = .value x)
    (hx : x.Unfailing) (hb : b.compute record = .value y) (hy : y.Unfailing)
    (hc : c.compute record = .value z) (hz : z.Unfailing) (t t' s s' : Token) :
    (Node.binary op (.binary op a b t) c t').compute record =
        (Node.binary op a (.binary op b c s) s').compute record ∧
      TripleProduct op x y z ((Node.binary op a (.binary op b c s) s').compute record) := by
  have ha := compute_eq_value_iff.1 ha
  have hb := compute_eq_value_iff.1 hb
  have hc := compute_eq_value_iff.1 hc
  obtain ⟨p, hp⟩ := exists_batch (flat_of_eval ha) hx
  obtain ⟨q, hq⟩ := exists_batch (flat_of_eval hb) hy
  obtain ⟨r, hr⟩ := exists_batch (flat_of_eval hc) hz
  have hleft := eval_logical hop (eval_logical hop ha hb hp hq t) hc (hasBatch_pair op p q) hr t'
  have hright := eval_logical hop ha (eval_logical hop hb hc hq hr s) hp (hasBatch_pair op q r) s'
  rw [Batch.pair_assoc (joins_assoc op)] at hleft
  have hvalue := compute_eq_value_iff.2 hright
  refine ⟨(compute_eq_value_iff.2 hleft).trans hvalue.symm, p, q, r, _, hp, hq, hr, hvalue, ?_, ?_⟩
  · rw [Batch.isMany_pair, Batch.isMany_pair]
  · exact Batch.values_pair_pair op.joins p q r

/-- Two sequences and a scalar, which meets the items of one sequence in one grouping and all pairs
in the other. -/
theorem compute_grouped_and :
    let record := Value.ofPairs [(.text "a", .array [.integer 1, .null]),
      (.text "b", .array [.null, .integer 1]), (.text "c", .text "y")]
    let token : Token := ⟨"and", ⟨2, 3⟩, .binary, .text, false⟩
    let field (name : String) :=
      Node.operand (.path ⟨[.key name]⟩) ⟨name, ⟨0, 1⟩, .text, .start, false⟩
    let b := Node.unary .not (field "b") ⟨"not", ⟨6, 3⟩, .unary, .binary, false⟩
    let x := Evaluated.value (.array [.integer 1, .null])
    let y := Evaluated.sequence [.ok (.ofBool true), .ok (.ofBool false)]
    let z := Evaluated.value (.text "y")
    let left := Node.binary .and (.binary .and (field "a") b token) (field "c") token
    let right := Node.binary .and (field "a") (.binary .and b (field "c") token) token
    ((field "a").compute record = .value x ∧ x.Unfailing) ∧
      (b.compute record = .value y ∧ y.Unfailing) ∧
      ((field "c").compute record = .value z ∧ z.Unfailing) ∧
      left.compute record = right.compute record ∧
      TripleProduct .and x y z (right.compute record) ∧
      right.compute record = .value (.sequence [.ok (.ofBool true), .ok (.ofBool false),
        .ok (.ofBool false), .ok (.ofBool false)]) := by
  intro record token field b x y z left right
  have hx : x.Unfailing := by
    rintro _ ⟨⟩ e he
    simp [ofValues] at he
  have hy : y.Unfailing := by
    rintro _ ⟨⟩ e he
    simp at he
  have hz : z.Unfailing := by
    rintro _ ⟨⟩
  have hgrouped : left.compute record = right.compute record ∧
      TripleProduct .and x y z (right.compute record) :=
    compute_grouped (by decide) rfl hx rfl hy rfl hz token token token token
  exact ⟨⟨rfl, hx⟩, ⟨rfl, hy⟩, ⟨rfl, hz⟩, hgrouped.1, hgrouped.2, rfl⟩

end RecordQuery

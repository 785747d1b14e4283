import Mathlib.Data.List.Forall2
import Mathlib.Data.List.ProdSigma
import RecordQuery.Proofs.Broadcasting.Items
import RecordQuery.Proofs.Evaluation.Shape

/-!
# Negation and broadcasting

`not` works on what an operator made, item by item, or on its operands before the operator is
applied, and the laws of negation say that it does not matter which.  The two sides compute
different things: a scalar that settles `and` for all items settles `or` once it is negated, and
operands that were negated are sequences of truth values, whatever they were before.

* `broadcastBy` — broadcasting for any answer to two values;
* `negate_broadcastBy` — **to negate what it makes is to negate the answers**;
* `broadcastBy_negate` — **to negate its operands is to negate the values**, if they are flat;
* `broadcastBy_alike` — where the answers fail alike, so do the results;
* `negation_laws` — **both laws of De Morgan, and each comparison with its opposite**.
-/

namespace RecordQuery

open Evaluated

variable {items : List ResultItem} {as bs : List Value} {v : Value} {x y : Evaluated}
  {op : BinaryOp} {answer answer' : Value → Value → Except EvalError Bool}

/-! ## Broadcasting any answer -/

/-- The truth value that a value does not have. -/
def Value.negated (v : Value) : Value := .boolean !v.isTruthy

/-- Brings two results together by an answer to two values, which a scalar alone may settle. -/
def broadcastBy (settled : Value → Option Bool) (answer : Value → Value → Except EvalError Bool)
    (left right : Evaluated) : Except EvalError Evaluated :=
  match left.view, right.view with
  | .scalar a, .scalar b => (answer a b).map .ofBool
  | .items items, .scalar b =>
    .ok (.sequence (items.map (applyToItem (settled b) fun a => answer a b)))
  | .scalar a, .items items =>
    .ok (.sequence (items.map (applyToItem (settled a) fun b => answer a b)))
  | .items lefts, .items rights => do
    let as ← valuesOf lefts
    let bs ← valuesOf rights
    .ok (.sequence (applyToPairs answer as bs))

/-- An operator broadcasts its own answer. -/
theorem broadcast_eq_broadcastBy (token : Token) (op : BinaryOp) :
    broadcast token op = broadcastBy op.settled? (applyBinary token op) := rfl

/-- The answers for all pairs, as one list of pairs. -/
theorem applyToPairs_eq_map (answer : Value → Value → Except EvalError Bool) (as bs : List Value) :
    applyToPairs answer as bs = (as ×ˢ bs).map fun pair => (answer pair.1 pair.2).map .ofBool := by
  -- a product of lists is a list of rows, too
  show _ = (as.flatMap fun a => bs.map (Prod.mk a)).map _
  rw [applyToPairs_eq]
  simp only [List.map_flatMap, List.map_map, Function.comp_def]

/-! ## Negating the result -/

theorem negateItem_map_ofBool (r : Except EvalError Bool) :
    negateItem (r.map .ofBool) = (r.map (!·)).map .ofBool := by
  cases r <;> rfl

theorem negateItem_applyToItem (settled : Option Bool) (apply : Value → Except EvalError Bool)
    (item : ResultItem) :
    negateItem (applyToItem settled apply item) =
      applyToItem (settled.map (!·)) (fun v => (apply v).map (!·)) item := by
  cases item with
  | error e => rfl
  | ok x =>
    cases settled with
    | some b => rfl
    | none =>
      cases hv : x.toValue with
      | error e =>
        simp only [applyToItem, bind, Except.bind, Option.map_none, hv]
        rfl
      | ok v =>
        rw [applyToItem_none hv, Option.map_none, applyToItem_none hv, negateItem_map_ofBool]

theorem map_negateItem_applyToPairs :
    (applyToPairs answer as bs).map negateItem =
      applyToPairs (fun a b => (answer a b).map (!·)) as bs := by
  simp only [applyToPairs_eq_map, List.map_map, Function.comp_def, negateItem_map_ofBool]

/-- **To negate what broadcasting makes is to negate the answers**, also those that are settled. -/
theorem negate_broadcastBy (settled : Value → Option Bool)
    (answer : Value → Value → Except EvalError Bool) (x y : Evaluated) :
    (broadcastBy settled answer x y).map negate =
      broadcastBy (fun v => (settled v).map (!·)) (fun a b => (answer a b).map (!·)) x y := by
  have hitems : ∀ (s : Option Bool) (apply : Value → Except EvalError Bool)
      (items : List ResultItem),
        negate (.sequence (items.map (applyToItem s apply))) =
          .sequence (items.map (applyToItem (s.map (!·)) fun v => (apply v).map (!·))) := by
    intro s apply items
    simp only [negate, view, List.map_map, Function.comp_def, negateItem_applyToItem]
  unfold broadcastBy
  cases x.view with
  | scalar a =>
    cases y.view with
    | scalar b => cases h : answer a b <;> simp only [h] <;> rfl
    | items ys => simp only [Except.map, hitems]
  | items xs =>
    cases y.view with
    | scalar b => simp only [Except.map, hitems]
    | items ys =>
      dsimp only
      cases valuesOf xs with
      | error e => rfl
      | ok as =>
        cases valuesOf ys with
        | error e => rfl
        | ok bs => exact congrArg (fun rs => Except.ok (sequence rs)) map_negateItem_applyToPairs

/-! ## Negating the operands -/

theorem view_negate_scalar (h : x.view = .scalar v) : (negate x).view = .scalar v.negated := by
  rw [negate, h]
  rfl

theorem view_negate_items (h : x.view = .items items) :
    (negate x).view = .items (items.map negateItem) := by
  rw [negate, h]
  rfl

/-- Of plain values, the values are negated; what failed remains. -/
theorem valuesOf_map_negateItem (h : PlainItems items) :
    valuesOf (items.map negateItem) = (valuesOf items).map (List.map Value.negated) := by
  induction items with
  | nil => rfl
  | cons item items ih =>
    have hrest : PlainItems items := fun x hx => h x (List.mem_cons_of_mem _ hx)
    cases item with
    | error e => rfl
    | ok x =>
      obtain ⟨v, rfl⟩ := h x List.mem_cons_self
      have hitem : negateItem (.ok (.value v)) = .ok (.value v.negated) := rfl
      rw [List.map_cons, hitem, valuesOf, valuesOf, toValue_value, toValue_value, ih hrest]
      cases valuesOf items <;> rfl

theorem map_applyToItem_negateItem {s : Option Bool} {apply : Value → Except EvalError Bool}
    (h : PlainItems items) :
    (items.map negateItem).map (applyToItem s apply) =
      items.map (applyToItem s fun v => apply v.negated) := by
  rw [List.map_map]
  refine List.map_congr_left fun item hitem => ?_
  cases item with
  | error e => rfl
  | ok x =>
    obtain ⟨v, rfl⟩ := h x hitem
    have hvalue : negateItem (.ok (.value v)) = .ok (.value v.negated) := rfl
    simp only [Function.comp_apply, hvalue, applyToItem, bind, Except.bind, toValue_value]

theorem applyToPairs_map_negated :
    applyToPairs answer (as.map Value.negated) (bs.map Value.negated) =
      applyToPairs (fun a b => answer a.negated b.negated) as bs := by
  simp only [applyToPairs_eq, List.flatMap_map, List.map_map, Function.comp_def]

/-- **To negate the operands is to negate the values**, unless a sequence holds another one, which
may be true without having a value. -/
theorem broadcastBy_negate (settled : Value → Option Bool)
    (answer : Value → Value → Except EvalError Bool) (hx : x.Flat) (hy : y.Flat) :
    broadcastBy settled answer (negate x) (negate y) =
      broadcastBy (fun v => settled v.negated) (fun a b => answer a.negated b.negated) x y := by
  unfold broadcastBy
  cases hl : x.view with
  | scalar a =>
    rw [view_negate_scalar hl]
    cases hr : y.view with
    | scalar b => rw [view_negate_scalar hr]
    | items ys =>
      rw [view_negate_items hr]
      simp only [map_applyToItem_negateItem (hy ys hr)]
  | items xs =>
    rw [view_negate_items hl]
    cases hr : y.view with
    | scalar b =>
      rw [view_negate_scalar hr]
      simp only [map_applyToItem_negateItem (hx xs hl)]
    | items ys =>
      rw [view_negate_items hr]
      simp only [valuesOf_map_negateItem (hx xs hl), valuesOf_map_negateItem (hy ys hr)]
      cases valuesOf xs with
      | error e => rfl
      | ok as =>
        cases valuesOf ys with
        | error e => rfl
        | ok bs => exact congrArg (fun rs => Except.ok (sequence rs)) applyToPairs_map_negated

/-! ## Opposite operators -/

/-- The operator for the answers that an operator does not give. -/
def BinaryOp.opposite : BinaryOp → BinaryOp
  | equal => notEqual
  | notEqual => equal
  | less => greaterEqual
  | greaterEqual => less
  | greater => lessEqual
  | lessEqual => greater
  | and => or
  | or => and

theorem isTruthy_negated (v : Value) : v.negated.isTruthy = !v.isTruthy := rfl

/-- A value that settles one of `and` and `or` settles the other once it is negated. -/
theorem settled?_opposite (hop : op.tier ≠ .comparison) (v : Value) :
    (op.settled? v).map (!·) = op.opposite.settled? v.negated := by
  cases op with
  | and => cases h : v.isTruthy <;> simp [BinaryOp.settled?, BinaryOp.opposite, isTruthy_negated, h]
  | or => cases h : v.isTruthy <;> simp [BinaryOp.settled?, BinaryOp.opposite, isTruthy_negated, h]
  | _ => exact absurd rfl hop

theorem applyBinary_opposite_negated (hop : op.tier ≠ .comparison) (t s : Token) (a b : Value) :
    (applyBinary t op a b).map (!·) = applyBinary s op.opposite a.negated b.negated := by
  cases op with
  | and => exact congrArg Except.ok (Bool.not_and _ _)
  | or => exact congrArg Except.ok (Bool.not_or _ _)
  | _ => exact absurd rfl hop

/-- **A law of De Morgan on results**: `not` of `and` is `or` of both negations, and the other way
round. -/
theorem negate_broadcast_logical (hop : op.tier ≠ .comparison) (hx : x.Flat) (hy : y.Flat)
    (t s : Token) :
    (broadcast t op x y).map negate = broadcast s op.opposite (negate x) (negate y) := by
  rw [broadcast_eq_broadcastBy, broadcast_eq_broadcastBy, negate_broadcastBy,
    broadcastBy_negate _ _ hx hy]
  simp only [settled?_opposite hop, applyBinary_opposite_negated hop t s]

/-! ## Comparisons -/

/-- Two computations that both failed, in whatever way, or came to the same up to a relation. -/
inductive AlikeBy {α : Type} (R : α → α → Prop) : Except EvalError α → Except EvalError α → Prop
  | failed {e e' : EvalError} : AlikeBy R (.error e) (.error e')
  | came {a b : α} : R a b → AlikeBy R (.ok a) (.ok b)

/-- The same value, or sequences of the same items with failures in the same places. -/
inductive Evaluated.Alike : Evaluated → Evaluated → Prop
  | value {v : Value} : Evaluated.Alike (.value v) (.value v)
  | sequence {items items' : List ResultItem} :
      List.Forall₂ (AlikeBy Eq) items items' →
      Evaluated.Alike (.sequence items) (.sequence items')

theorem AlikeBy.map_ofBool {R : Evaluated → Evaluated → Prop} {r r' : Except EvalError Bool}
    (h : AlikeBy Eq r r') (hR : ∀ b, R (.ofBool b) (.ofBool b)) :
    AlikeBy R (r.map .ofBool) (r'.map .ofBool) := by
  cases h with
  | failed => exact .failed
  | came h =>
    subst h
    exact .came (hR _)

theorem alike_applyToItem {s : Option Bool} {apply apply' : Value → Except EvalError Bool}
    (h : ∀ v, AlikeBy Eq (apply v) (apply' v)) (item : ResultItem) :
    AlikeBy Eq (applyToItem s apply item) (applyToItem s apply' item) := by
  cases item with
  | error e => exact .failed
  | ok x =>
    cases s with
    | some b => exact .came rfl
    | none =>
      cases hv : x.toValue with
      | error e =>
        simp only [applyToItem, bind, Except.bind, hv]
        exact .failed
      | ok v =>
        rw [applyToItem_none hv, applyToItem_none hv]
        exact (h v).map_ofBool fun _ => rfl

theorem forall₂_alike_map {α : Type} {f g : α → ResultItem}
    (h : ∀ a, AlikeBy Eq (f a) (g a)) (l : List α) :
    List.Forall₂ (AlikeBy Eq) (l.map f) (l.map g) := by
  rw [List.forall₂_map_left_iff, List.forall₂_map_right_iff, List.forall₂_same]
  exact fun a _ => h a

/-- **Where the answers fail alike, so do the results.** -/
theorem broadcastBy_alike (h : ∀ a b, AlikeBy Eq (answer a b) (answer' a b))
    (settled : Value → Option Bool) (x y : Evaluated) :
    AlikeBy Evaluated.Alike (broadcastBy settled answer x y)
      (broadcastBy settled answer' x y) := by
  unfold broadcastBy
  cases x.view with
  | scalar a =>
    cases y.view with
    | scalar b => exact (h a b).map_ofBool fun _ => .value
    | items ys => exact .came (.sequence (forall₂_alike_map (alike_applyToItem fun b => h a b) ys))
  | items xs =>
    cases y.view with
    | scalar b => exact .came (.sequence (forall₂_alike_map (alike_applyToItem fun a => h a b) xs))
    | items ys =>
      dsimp only
      cases valuesOf xs with
      | error e => exact .failed
      | ok as =>
        cases valuesOf ys with
        | error e => exact .failed
        | ok bs =>
          refine .came (.sequence ?_)
          rw [applyToPairs_eq_map, applyToPairs_eq_map]
          exact forall₂_alike_map (fun pair : Value × Value =>
            (h pair.1 pair.2).map_ofBool fun _ => rfl) _

theorem tier_opposite (hop : op.tier = .comparison) : op.opposite.tier = .comparison := by
  cases op with
  | and | or => cases hop
  | _ => rfl

theorem settled?_comparison (hop : op.tier = .comparison) : op.settled? = fun _ => none := by
  cases op with
  | and | or => cases hop
  | _ => rfl

/-- Values that one comparison does not fit, the opposite one does not fit either. -/
theorem applyBinary_opposite (hop : op.tier = .comparison) (t s : Token) (a b : Value) :
    AlikeBy Eq ((applyBinary t op a b).map (!·)) (applyBinary s op.opposite a b) := by
  cases op with
  | and | or => cases hop
  | equal => exact .came rfl
  | notEqual => exact .came (Bool.not_not _)
  | _ =>
    simp only [applyBinary, BinaryOp.opposite]
    cases a.compare? b with
    | none => exact .failed
    | some order =>
      refine .came ?_
      cases order <;> decide

/-- **A comparison and its opposite on results.** -/
theorem negate_broadcast_comparison (hop : op.tier = .comparison) (t s : Token)
    (x y : Evaluated) :
    AlikeBy Evaluated.Alike ((broadcast t op x y).map negate) (broadcast s op.opposite x y) := by
  rw [broadcast_eq_broadcastBy, broadcast_eq_broadcastBy, negate_broadcastBy,
    settled?_comparison hop, settled?_comparison (tier_opposite hop)]
  exact broadcastBy_alike (applyBinary_opposite hop t s) _ x y

/-- Equality fits all values, so nothing but the answers changes. -/
theorem negate_broadcast_equal (t s : Token) (x y : Evaluated) :
    (broadcast t .equal x y).map negate = broadcast s .notEqual x y := by
  rw [broadcast_eq_broadcastBy, broadcast_eq_broadcastBy, negate_broadcastBy]
  rfl

/-! ## Trees -/

/-- The same outcome, up to what errors tell. -/
inductive Outcome.Alike : Outcome → Outcome → Prop
  | value {x y : Evaluated} : x.Alike y → Outcome.Alike (.value x) (.value y)
  | print {v : Value} : Outcome.Alike (.print v) (.print v)
  | failure {e e' : EvalError} : Outcome.Alike (.failure e) (.failure e')

variable {left right : Node} {record : Value}

theorem eval_not_binary (t t' : Token) :
    (Node.unary .not (.binary op left right t) t').eval record = (do
      let x ← left.eval record
      let y ← right.eval record
      orInterrupt ((broadcast t op x y).map negate)) := by
  simp only [Node.eval]
  cases left.eval record with
  | error i => rfl
  | ok x =>
    cases right.eval record with
    | error i => rfl
    | ok y =>
      dsimp only [bind, Except.bind]
      cases broadcast t op x y <;> rfl

/-- `not` of a logical operator is the other one of what is negated. -/
theorem eval_not_logical (hop : op.tier ≠ .comparison) (t t' s s' s'' : Token) :
    (Node.unary .not (.binary op left right t) t').eval record =
      (Node.binary op.opposite (.unary .not left s) (.unary .not right s') s'').eval record := by
  rw [eval_not_binary]
  simp only [Node.eval]
  cases hl : left.eval record with
  | error i => rfl
  | ok x =>
    cases hr : right.eval record with
    | error i => rfl
    | ok y =>
      have hlaw := negate_broadcast_logical hop (flat_of_eval hl) (flat_of_eval hr) t s''
      exact congrArg orInterrupt hlaw

theorem eval_not_equal (t t' s : Token) :
    (Node.unary .not (.binary .equal left right t) t').eval record =
      (Node.binary .notEqual left right s).eval record := by
  rw [eval_not_binary]
  simp only [negate_broadcast_equal t s, Node.eval]

/-- `not` of a comparison is the opposite one. -/
theorem compute_not_comparison (hop : op.tier = .comparison) (t t' s : Token) :
    ((Node.unary .not (.binary op left right t) t').compute record).Alike
      ((Node.binary op.opposite left right s).compute record) := by
  rw [Node.compute, Node.compute, eval_not_binary, Node.eval]
  cases left.eval record with
  | error i => cases i <;> constructor
  | ok x =>
    cases right.eval record with
    | error i => cases i <;> constructor
    | ok y =>
      dsimp only [bind, Except.bind]
      have hlaw := negate_broadcast_comparison hop t s x y
      generalize (broadcast t op x y).map negate = r at hlaw ⊢
      generalize broadcast s op.opposite x y = r' at hlaw ⊢
      cases hlaw with
      | failed => exact .failure
      | came h => exact .value h

/-- The laws of negation for two trees on a record, whatever their tokens.  Where the two sides
fail, they fail in the same places; the first three laws keep the errors themselves. -/
structure NegationLaws (left right : Node) (record : Value) : Prop where
  and : ∀ t t' s s' s'', (Node.unary .not (.binary .and left right t) t').compute record =
    (Node.binary .or (.unary .not left s) (.unary .not right s') s'').compute record
  or : ∀ t t' s s' s'', (Node.unary .not (.binary .or left right t) t').compute record =
    (Node.binary .and (.unary .not left s) (.unary .not right s') s'').compute record
  equal : ∀ t t' s, (Node.unary .not (.binary .equal left right t) t').compute record =
    (Node.binary .notEqual left right s).compute record
  less : ∀ t t' s, ((Node.unary .not (.binary .less left right t) t').compute record).Alike
    ((Node.binary .greaterEqual left right s).compute record)
  greater : ∀ t t' s, ((Node.unary .not (.binary .greater left right t) t').compute record).Alike
    ((Node.binary .lessEqual left right s).compute record)

/-- **The laws of negation hold for all trees and records**, whatever shapes their results have. -/
theorem negation_laws (left right : Node) (record : Value) : NegationLaws left right record where
  and t t' s s' s'' := by
    rw [Node.compute, eval_not_logical (by decide) t t' s s' s'']
    rfl
  or t t' s s' s'' := by
    rw [Node.compute, eval_not_logical (by decide) t t' s s' s'']
    rfl
  equal t t' s := by
    rw [Node.compute, eval_not_equal t t' s]
    rfl
  less t t' s := compute_not_comparison rfl t t' s
  greater t t' s := compute_not_comparison rfl t t' s

end RecordQuery

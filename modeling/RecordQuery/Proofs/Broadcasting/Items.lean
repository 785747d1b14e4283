import Mathlib.Data.List.Forall2
import RecordQuery.Proofs.Evaluation.Forcing

/-!
# Operators on items

An operator is defined on two values.  On results it works item by item: a scalar meets every item
of a sequence, and an item that failed, or that the operator does not fit, fails in its own place.
Two sequences meet by their values, so there an item that failed fails the whole; otherwise the
answers form a table, row by row.

* `FailsFirst` — an item fails, and none before it does;
* `Meets` — what an item and a scalar come to, whether or not the scalar settles the answer;
* `Tabulates` — the answers for all pairs of values, with their places;
* `Broadcasts` — what two results come to, one rule for each pair of shapes;
* `broadcast_eq_iff` — **an operator makes of two results what the rules say, and nothing else**.
-/

namespace RecordQuery

open Evaluated

variable {items results results' : List ResultItem} {item result : ResultItem}
  {as bs vs : List Value} {a b v : Value} {e : EvalError} {token : Token} {op : BinaryOp}

/-! ## Items that fail -/

/-- An item of the list fails with this error, and all items before it have values. -/
def FailsFirst (items : List ResultItem) (e : EvalError) : Prop :=
  ∃ front item rest, items = front ++ item :: rest ∧ (∀ i ∈ front, ∃ v, ItemShows i v) ∧
    forced item = .error e

theorem forced_eq_ok_iff : forced item = .ok v ↔ ItemShows item v := Except.bind_eq_ok_iff

theorem valuesOf_cons (item : ResultItem) (items : List ResultItem) :
    valuesOf (item :: items) = (do
      let v ← forced item
      let vs ← valuesOf items
      .ok (v :: vs)) := by
  cases item <;> rfl

theorem failsFirst_cons_iff :
    FailsFirst (item :: items) e ↔
      forced item = .error e ∨ (∃ v, ItemShows item v) ∧ FailsFirst items e := by
  constructor
  · rintro ⟨front, failing, rest, hsplit, hfront, he⟩
    cases front with
    | nil =>
      cases hsplit
      exact .inl he
    | cons _ front =>
      cases hsplit
      obtain ⟨hitem, hfront⟩ := List.forall_mem_cons.1 hfront
      exact .inr ⟨hitem, front, failing, rest, rfl, hfront, he⟩
  · rintro (he | ⟨hitem, front, failing, rest, rfl, hfront, he⟩)
    · exact ⟨[], item, items, rfl, List.forall_mem_nil _, he⟩
    · exact ⟨item :: front, failing, rest, rfl, List.forall_mem_cons.2 ⟨hitem, hfront⟩, he⟩

/-- Items have values just if each of them has one. -/
theorem valuesOf_eq_ok_iff : valuesOf items = .ok vs ↔ List.Forall₂ ItemShows items vs := by
  induction items generalizing vs with
  | nil => cases vs <;> simp [valuesOf]
  | cons item items ih =>
    rw [valuesOf_cons_eq_ok_iff, List.forall₂_cons_left_iff]
    simp only [ih, eq_comm]

/-- And they fail as the first of them that fails. -/
theorem valuesOf_eq_error_iff : valuesOf items = .error e ↔ FailsFirst items e := by
  induction items with
  | nil =>
    refine iff_of_false (fun h => by cases h) ?_
    rintro ⟨front, _, _, hsplit, _⟩
    cases front <;> cases hsplit
  | cons item items ih =>
    rw [valuesOf_cons, failsFirst_cons_iff, Except.bind_eq_error_iff, ← ih]
    simp only [Except.bind_eq_error_iff, forced_eq_ok_iff, reduceCtorEq, and_false, exists_false,
      or_false, exists_and_right]

/-! ## An item and a scalar -/

/-- What an item and a scalar come to: the error of an item that failed, and otherwise the answer
for its value.  Where the scalar settles the answer, an item need not have a value. -/
inductive Meets (settled : Option Bool) (apply : Value → Except EvalError Bool) :
    ResultItem → ResultItem → Prop
  | failed {e : EvalError} : Meets settled apply (.error e) (.error e)
  | applied {x : Evaluated} {v : Value} :
      x.toValue = .ok v → Meets settled apply (.ok x) ((apply v).map .ofBool)
  | stuck {x : Evaluated} {e : EvalError} :
      x.toValue = .error e → settled = none → Meets settled apply (.ok x) (.error e)
  | spared {x : Evaluated} {e : EvalError} {b : Bool} :
      x.toValue = .error e → settled = some b → Meets settled apply (.ok x) (.ok (.ofBool b))

variable {settled : Option Bool} {apply : Value → Except EvalError Bool}

theorem applyToItem_none {x : Evaluated} (h : x.toValue = .ok v) :
    applyToItem none apply (.ok x) = (apply v).map .ofBool := by
  simp only [applyToItem, bind, Except.bind, h]
  cases apply v <;> rfl

/-- If the answer is the same for all values, it does not matter whether the item is asked for. -/
theorem applyToItem_of_value {x : Evaluated}
    (hsettled : ∀ b, settled = some b → ∀ v, apply v = .ok b) (h : x.toValue = .ok v) :
    applyToItem settled apply (.ok x) = (apply v).map .ofBool := by
  cases settled with
  | none => exact applyToItem_none h
  | some b =>
    rw [hsettled b rfl v]
    rfl

/-- **To leave an item alone gives the answer for it**, if the answer is the same for all values. -/
theorem meets_iff (hsettled : ∀ b, settled = some b → ∀ v, apply v = .ok b) :
    Meets settled apply item result ↔ applyToItem settled apply item = result := by
  constructor
  · rintro (_ | hv | ⟨he, rfl⟩ | ⟨he, rfl⟩)
    · rfl
    · exact applyToItem_of_value hsettled hv
    · simp only [applyToItem, bind, Except.bind, he]
    · rfl
  · rintro rfl
    cases item with
    | error e => exact .failed
    | ok x =>
      cases hx : x.toValue with
      | ok v =>
        rw [applyToItem_of_value hsettled hx]
        exact .applied hx
      | error e =>
        cases settled with
        | none =>
          simp only [applyToItem, bind, Except.bind, hx]
          exact .stuck hx rfl
        | some b => exact .spared hx rfl

theorem forall₂_meets_iff (hsettled : ∀ b, settled = some b → ∀ v, apply v = .ok b) :
    List.Forall₂ (Meets settled apply) items results ↔
      items.map (applyToItem settled apply) = results := by
  have hmeets : Meets settled apply = fun item result => applyToItem settled apply item = result :=
    funext₂ fun _ _ => propext (meets_iff hsettled)
  rw [hmeets, ← List.forall₂_map_left_iff, List.forall₂_eq_eq_eq]

/-- What a scalar settles by itself is the answer for every other value, on either side of it. -/
theorem applyBinary_of_settled {r : Bool} (h : op.settled? b = some r) (v : Value) :
    applyBinary token op v b = .ok r ∧ applyBinary token op b v = .ok r := by
  cases hb : b.isTruthy <;> cases op <;>
    simp only [BinaryOp.settled?, hb, if_true, if_false, Bool.false_eq_true, reduceCtorEq] at h
  case false.and =>
    cases h
    simp [applyBinary, hb]
  case true.or =>
    cases h
    simp [applyBinary, hb]

/-! ## All pairs -/

/-- The answers for all pairs of values, row by row: with `m` values on the right, the answer for
the left value `i` and the right value `j` stands at `i * m + j`. -/
structure Tabulates (answer : Value → Value → Except EvalError Bool) (as bs : List Value)
    (results : List ResultItem) : Prop where
  length_eq : results.length = as.length * bs.length
  entry : ∀ i j a b, as[i]? = some a → bs[j]? = some b →
    results[i * bs.length + j]? = some ((answer a b).map .ofBool)

variable {answer : Value → Value → Except EvalError Bool}

theorem tabulates_nil : Tabulates answer [] bs [] where
  length_eq := (Nat.zero_mul _).symm
  entry i j a b ha := by cases ha

/-- One more value on the left is one more row in front. -/
theorem Tabulates.cons (h : Tabulates answer as bs results) (a : Value) :
    Tabulates answer (a :: as) bs ((bs.map fun b => (answer a b).map .ofBool) ++ results) where
  length_eq := by
    rw [List.length_append, List.length_map, h.length_eq, List.length_cons, Nat.succ_mul,
      Nat.add_comm]
  entry i j a' b ha hb := by
    have hj : j < bs.length := (List.getElem?_eq_some_iff.1 hb).1
    cases i with
    | zero =>
      cases ha
      rw [Nat.zero_mul, Nat.zero_add, List.getElem?_append_left (by rwa [List.length_map]),
        List.getElem?_map, hb]
      rfl
    | succ i =>
      have hplace : (i + 1) * bs.length + j = bs.length + (i * bs.length + j) := by
        rw [Nat.succ_mul]
        omega
      rw [hplace, List.getElem?_append_right (by rw [List.length_map]; omega), List.length_map,
        Nat.add_sub_cancel_left]
      exact h.entry i j a' b ha hb

theorem tabulates_applyToPairs (answer : Value → Value → Except EvalError Bool)
    (as bs : List Value) : Tabulates answer as bs (applyToPairs answer as bs) := by
  rw [applyToPairs_eq]
  induction as with
  | nil => exact tabulates_nil
  | cons a as ih => exact ih.cons a

/-- Every place of a table is that of a pair, so the pairs fix the table. -/
theorem Tabulates.unique (h : Tabulates answer as bs results)
    (h' : Tabulates answer as bs results') : results = results' := by
  apply List.ext_getElem?
  intro k
  by_cases hk : k < as.length * bs.length
  · -- the place `k` is in the row `k / m`
    have hm : 0 < bs.length := Nat.pos_of_lt_mul_left hk
    have hi : k / bs.length < as.length := Nat.div_lt_of_lt_mul (by rwa [Nat.mul_comm])
    have hj : k % bs.length < bs.length := Nat.mod_lt _ hm
    have ha := List.getElem?_eq_getElem hi
    have hb := List.getElem?_eq_getElem hj
    have hplace : k / bs.length * bs.length + k % bs.length = k := Nat.div_add_mod' _ _
    rw [← hplace, h.entry _ _ _ _ ha hb, h'.entry _ _ _ _ ha hb]
  · rw [List.getElem?_eq_none (by rw [h.length_eq]; omega),
      List.getElem?_eq_none (by rw [h'.length_eq]; omega)]

theorem tabulates_iff : Tabulates answer as bs results ↔ applyToPairs answer as bs = results := by
  constructor
  · exact fun h => (tabulates_applyToPairs answer as bs).unique h
  · rintro rfl
    exact tabulates_applyToPairs answer as bs

/-! ## Two results -/

/-- What an operator makes of two results, by what they look like: two scalars, items and a scalar
on either side, or items on both sides, of which the left ones are asked for first. -/
inductive Broadcasts (token : Token) (op : BinaryOp) :
    View → View → Except EvalError Evaluated → Prop
  | scalars {a b : Value} :
      Broadcasts token op (.scalar a) (.scalar b) ((applyBinary token op a b).map .ofBool)
  | scalar_right {items results : List ResultItem} {b : Value} :
      List.Forall₂ (Meets (op.settled? b) fun a => applyBinary token op a b) items results →
      Broadcasts token op (.items items) (.scalar b) (.ok (.sequence results))
  | scalar_left {a : Value} {items results : List ResultItem} :
      List.Forall₂ (Meets (op.settled? a) fun b => applyBinary token op a b) items results →
      Broadcasts token op (.scalar a) (.items items) (.ok (.sequence results))
  | fails_left {xs ys : List ResultItem} {e : EvalError} :
      FailsFirst xs e → Broadcasts token op (.items xs) (.items ys) (.error e)
  | fails_right {xs ys : List ResultItem} {as : List Value} {e : EvalError} :
      List.Forall₂ ItemShows xs as → FailsFirst ys e →
      Broadcasts token op (.items xs) (.items ys) (.error e)
  | pairs {xs ys results : List ResultItem} {as bs : List Value} :
      List.Forall₂ ItemShows xs as → List.Forall₂ ItemShows ys bs →
      Tabulates (applyBinary token op) as bs results →
      Broadcasts token op (.items xs) (.items ys) (.ok (.sequence results))

/-- **An operator makes of two results what the rules say, and nothing else.** -/
theorem broadcast_eq_iff (token : Token) (op : BinaryOp) (left right : Evaluated)
    (result : Except EvalError Evaluated) :
    broadcast token op left right = result ↔ Broadcasts token op left.view right.view result := by
  have hright : ∀ b r, op.settled? b = some r → ∀ v, applyBinary token op v b = .ok r :=
    fun b r h v => (applyBinary_of_settled h v).1
  have hleft : ∀ a r, op.settled? a = some r → ∀ v, applyBinary token op a v = .ok r :=
    fun a r h v => (applyBinary_of_settled h v).2
  rw [broadcast]
  cases left.view with
  | scalar a =>
    cases right.view with
    | scalar b =>
      constructor
      · rintro rfl
        exact .scalars
      · rintro ⟨⟩
        rfl
    | items ys =>
      constructor
      · rintro rfl
        exact .scalar_left ((forall₂_meets_iff (hleft a)).2 rfl)
      · rintro (_ | _ | h)
        rw [← (forall₂_meets_iff (hleft a)).1 h]
  | items xs =>
    cases right.view with
    | scalar b =>
      constructor
      · rintro rfl
        exact .scalar_right ((forall₂_meets_iff (hright b)).2 rfl)
      · rintro (_ | h)
        rw [← (forall₂_meets_iff (hright b)).1 h]
    | items ys =>
      dsimp only
      constructor
      · rintro rfl
        cases hx : valuesOf xs with
        | error e => exact .fails_left (valuesOf_eq_error_iff.1 hx)
        | ok as =>
          have hxs := valuesOf_eq_ok_iff.1 hx
          cases hy : valuesOf ys with
          | error e => exact .fails_right hxs (valuesOf_eq_error_iff.1 hy)
          | ok bs =>
            exact .pairs hxs (valuesOf_eq_ok_iff.1 hy) (tabulates_applyToPairs _ as bs)
      · rintro (_ | _ | _ | hx | ⟨hx, hy⟩ | ⟨hx, hy, ht⟩)
        · rw [valuesOf_eq_error_iff.2 hx]
          rfl
        · rw [valuesOf_eq_ok_iff.2 hx, valuesOf_eq_error_iff.2 hy]
          rfl
        · rw [valuesOf_eq_ok_iff.2 hx, valuesOf_eq_ok_iff.2 hy, ← tabulates_iff.1 ht]
          rfl

end RecordQuery

import RecordQuery.Eval.Compute
import RecordQuery.Proofs.Result

/-!
# Results and their values

A result that is a sequence becomes an array when all of its items are asked for, unless one of
them failed.  Operations never look further than they must, but where the value of an operand
exists, they respect it:

* `ItemShows`, `valuesOf_append_eq_ok_iff` — items and their values, row by row;
* `view_of_toValue` — a result and its value look alike: the same scalar, or items and their values;
* `forced_negate`, `forced_broadcast`, `forced_applyToTexts`, `forced_flatten` — **what an operation
  makes of the value of its operand, it makes of the operand itself**;
* `size_of_toValue`, `anyOf_of_toValue`, `allOf_of_toValue` — a decision about the value of an
  operand is the one about the operand.
-/

namespace RecordQuery

/-! ## Items and their values -/

open Evaluated

/-- The item did not fail, and has this value. -/
def ItemShows (item : ResultItem) (v : Value) : Prop := ∃ x, item = .ok x ∧ x.toValue = .ok v

variable {items : List ResultItem} {item : ResultItem} {vs ws : List Value} {v w : Value}
  {x y : Evaluated}

theorem valuesOf_cons_eq_ok_iff :
    valuesOf (item :: items) = .ok ws ↔
      ∃ v vs, ItemShows item v ∧ valuesOf items = .ok vs ∧ v :: vs = ws := by
  cases item with
  | error e =>
    rw [valuesOf]
    constructor
    · intro h
      cases h
    · rintro ⟨_, _, ⟨_, h, _⟩, _⟩
      cases h
  | ok x =>
    simp only [valuesOf, Except.bind_eq_ok_iff, Except.ok.injEq]
    constructor
    · rintro ⟨v, hv, vs, hvs, h⟩
      exact ⟨v, vs, ⟨x, rfl, hv⟩, hvs, h⟩
    · rintro ⟨v, vs, ⟨_, hx, hv⟩, hvs, h⟩
      cases hx
      exact ⟨v, hv, vs, hvs, h⟩

theorem toValue_value (v : Value) : (Evaluated.value v).toValue = .ok v := by rw [toValue]

theorem itemShows_value : ItemShows (.ok (.value v)) v := ⟨_, rfl, toValue_value v⟩

/-- Values as items have these values. -/
theorem valuesOf_ofValues (vs : List Value) : valuesOf (ofValues vs) = .ok vs := by
  induction vs with
  | nil => rfl
  | cons v vs ih => exact valuesOf_cons_eq_ok_iff.2 ⟨v, vs, itemShows_value, ih, rfl⟩

theorem valuesOf_append_eq_ok_iff {items' : List ResultItem} :
    valuesOf (items ++ items') = .ok ws ↔
      ∃ us vs, valuesOf items = .ok us ∧ valuesOf items' = .ok vs ∧ us ++ vs = ws := by
  induction items generalizing ws with
  | nil =>
    constructor
    · exact fun h => ⟨[], ws, rfl, h, rfl⟩
    · rintro ⟨us, vs, hu, hv, rfl⟩
      cases hu
      exact hv
  | cons item items ih =>
    rw [List.cons_append, valuesOf_cons_eq_ok_iff]
    constructor
    · rintro ⟨v, vs, hi, h, rfl⟩
      obtain ⟨us, vs, hu, hv, rfl⟩ := ih.1 h
      exact ⟨v :: us, vs, valuesOf_cons_eq_ok_iff.2 ⟨v, us, hi, hu, rfl⟩, hv, rfl⟩
    · rintro ⟨us, vs, hu, hv, rfl⟩
      obtain ⟨v, us, hi, hu', rfl⟩ := valuesOf_cons_eq_ok_iff.1 hu
      exact ⟨v, us ++ vs, hi, ih.2 ⟨us, vs, hu', hv, rfl⟩, rfl⟩

theorem toValue_sequence_eq_ok_iff :
    (Evaluated.sequence items).toValue = .ok v ↔ ∃ vs, valuesOf items = .ok vs ∧ .array vs = v := by
  rw [toValue, Except.map_eq_ok_iff]

/-- **A result and its value look alike**: they are the same scalar, or the items of the one have
the items of the other as values. -/
theorem view_of_toValue (h : x.toValue = .ok v) :
    (∃ s, x.view = .scalar s ∧ (Evaluated.value v).view = .scalar s) ∨
    (∃ items vs, x.view = .items items ∧ (Evaluated.value v).view = .items (ofValues vs) ∧
      valuesOf items = .ok vs) := by
  cases x with
  | sequence items =>
    obtain ⟨vs, hvs, rfl⟩ := toValue_sequence_eq_ok_iff.1 h
    exact .inr ⟨items, vs, rfl, rfl, hvs⟩
  | value u =>
    rw [toValue] at h
    cases h
    cases v with
    | array vs => exact .inr ⟨_, vs, rfl, rfl, valuesOf_ofValues vs⟩
    | mapping fields => exact .inr ⟨_, _, rfl, rfl, valuesOf_ofValues _⟩
    | _ => exact .inl ⟨_, rfl, rfl⟩

/-! ## Working item by item -/

/-- Where an operation on single items respects values, so does the operation on all items. -/
theorem valuesOf_flatMap {f : ResultItem → List ResultItem}
    (hf : ∀ x v ws, x.toValue = .ok v → valuesOf (f (.ok (.value v))) = .ok ws →
      valuesOf (f (.ok x)) = .ok ws)
    (hvs : valuesOf items = .ok vs) (h : valuesOf ((ofValues vs).flatMap f) = .ok ws) :
    valuesOf (items.flatMap f) = .ok ws := by
  induction items generalizing vs ws with
  | nil =>
    cases hvs
    exact h
  | cons item items ih =>
    obtain ⟨v, vs, ⟨x, rfl, hx⟩, hvs', rfl⟩ := valuesOf_cons_eq_ok_iff.1 hvs
    obtain ⟨us, us', hu, hu', rfl⟩ := valuesOf_append_eq_ok_iff.1 h
    exact valuesOf_append_eq_ok_iff.2 ⟨us, us', hf _ _ _ hx hu, ih hvs' hu', rfl⟩

/-- The value of what may have failed. -/
def forced (result : Except EvalError Evaluated) : Except EvalError Value := do
  let x ← result
  x.toValue

theorem forced_flatMap {f : ResultItem → List ResultItem}
    (hf : ∀ x v ws, x.toValue = .ok v → valuesOf (f (.ok (.value v))) = .ok ws →
      valuesOf (f (.ok x)) = .ok ws)
    (hvs : valuesOf items = .ok vs)
    (h : forced (.ok (.sequence ((ofValues vs).flatMap f))) = .ok w) :
    forced (.ok (.sequence (items.flatMap f))) = .ok w := by
  obtain ⟨ws, hws, hw⟩ := toValue_sequence_eq_ok_iff.1 h
  exact toValue_sequence_eq_ok_iff.2 ⟨ws, valuesOf_flatMap hf hvs hws, hw⟩

theorem forced_map {f : ResultItem → ResultItem}
    (hf : ∀ x v, x.toValue = .ok v → f (.ok x) = f (.ok (.value v)))
    (hvs : valuesOf items = .ok vs)
    (h : forced (.ok (.sequence ((ofValues vs).map f))) = .ok w) :
    forced (.ok (.sequence (items.map f))) = .ok w := by
  rw [List.map_eq_flatMap] at h ⊢
  refine forced_flatMap ?_ hvs h
  intro x v ws hx hws
  rwa [hf x v hx]

/-- A sequence and its value count as true alike. -/
theorem isTruthy_of_toValue (h : x.toValue = .ok v) : x.isTruthy = .ok v.isTruthy := by
  cases x with
  | value u =>
    rw [toValue] at h
    cases h
    rfl
  | sequence items =>
    obtain ⟨vs, hvs, rfl⟩ := toValue_sequence_eq_ok_iff.1 h
    cases items with
    | nil =>
      cases hvs
      rfl
    | cons item items =>
      obtain ⟨v, vs, ⟨_, rfl, _⟩, _, rfl⟩ := valuesOf_cons_eq_ok_iff.1 hvs
      rfl

/-! ## Operations on a result and on its value -/

theorem negateItem_of_toValue (h : x.toValue = .ok v) :
    negateItem (.ok x) = negateItem (.ok (.value v)) := by
  simp only [negateItem, bind, Except.bind, isTruthy_of_toValue h,
    isTruthy_of_toValue (toValue_value v)]

theorem forced_negate (h : x.toValue = .ok v) (hw : forced (.ok (negate (.value v))) = .ok w) :
    forced (.ok (negate x)) = .ok w := by
  rcases view_of_toValue h with ⟨s, hx, hv⟩ | ⟨items, vs, hx, hv, hvs⟩
  · rw [negate, hv] at hw
    rwa [negate, hx]
  · rw [negate, hv] at hw
    rw [negate, hx]
    exact forced_map (fun _ _ => negateItem_of_toValue) hvs hw

theorem applyToItem_of_toValue {settled : Option Bool} {apply : Value → Except EvalError Bool}
    (h : x.toValue = .ok v) :
    applyToItem settled apply (.ok x) = applyToItem settled apply (.ok (.value v)) := by
  simp only [applyToItem, bind, Except.bind, h, toValue]

theorem forced_broadcast {token : Token} {op : BinaryOp} {a b : Value} (ha : x.toValue = .ok a)
    (hb : y.toValue = .ok b)
    (hw : forced (broadcast token op (.value a) (.value b)) = .ok w) :
    forced (broadcast token op x y) = .ok w := by
  rcases view_of_toValue ha with ⟨s, hx, hsa⟩ | ⟨items, as, hx, hsa, has⟩ <;>
    rcases view_of_toValue hb with ⟨t, hy, hsb⟩ | ⟨items', bs, hy, hsb, hbs⟩
  · rw [broadcast, hsa, hsb] at hw
    rwa [broadcast, hx, hy]
  · rw [broadcast, hsa, hsb] at hw
    rw [broadcast, hx, hy]
    exact forced_map (fun _ _ => applyToItem_of_toValue) hbs hw
  · rw [broadcast, hsa, hsb] at hw
    rw [broadcast, hx, hy]
    exact forced_map (fun _ _ => applyToItem_of_toValue) has hw
  · -- two sequences are paired by their values, which are the same
    simp only [broadcast, hsa, hsb, valuesOf_ofValues] at hw
    simp only [broadcast, hx, hy, has, hbs]
    exact hw

theorem applyToTextItem_of_toValue {token : Token} {method : Method} {apply : String → Value}
    (h : x.toValue = .ok v) :
    applyToTextItem token method apply (.ok x) =
      applyToTextItem token method apply (.ok (.value v)) := by
  simp only [applyToTextItem, bind, Except.bind, h, toValue]

theorem forced_applyToTexts {token : Token} {method : Method} {apply : String → Value}
    (h : x.toValue = .ok v) (hw : forced (applyToTexts token method apply (.value v)) = .ok w) :
    forced (applyToTexts token method apply x) = .ok w := by
  rcases view_of_toValue h with ⟨s, hx, hv⟩ | ⟨items, vs, hx, hv, hvs⟩
  · rw [applyToTexts, hv] at hw
    rwa [applyToTexts, hx]
  · rw [applyToTexts, hv] at hw
    rw [applyToTexts, hx]
    exact forced_map (fun _ _ => applyToTextItem_of_toValue) hvs hw

theorem valuesOf_flattenItem {token : Token} (h : x.toValue = .ok v)
    (hw : valuesOf (flattenItem token (.ok (.value v))) = .ok ws) :
    valuesOf (flattenItem token (.ok x)) = .ok ws := by
  rcases view_of_toValue h with ⟨s, hs, hv⟩ | ⟨items, vs, hs, hv, hvs⟩
  · rw [flattenItem, hv] at hw
    rwa [flattenItem, hs]
  · rw [flattenItem, hv, valuesOf_ofValues] at hw
    rw [flattenItem, hs, hvs, hw]

theorem forced_flatten {token : Token} (h : x.toValue = .ok v)
    (hw : forced (flatten token (.value v)) = .ok w) : forced (flatten token x) = .ok w := by
  rcases view_of_toValue h with ⟨s, hx, hv⟩ | ⟨items, vs, hx, hv, hvs⟩
  · rw [flatten, hv] at hw
    rwa [flatten, hx]
  · rw [flatten, hv] at hw
    rw [flatten, hx]
    exact forced_flatMap (fun _ _ _ => valuesOf_flattenItem) hvs hw

/-! ## Decisions about a result and about its value -/

theorem countItems_of_valuesOf (h : valuesOf items = .ok vs) :
    countItems items = .ok vs.length := by
  induction items generalizing vs with
  | nil =>
    cases h
    rfl
  | cons item items ih =>
    obtain ⟨v, vs, ⟨_, rfl, _⟩, hvs, rfl⟩ := valuesOf_cons_eq_ok_iff.1 h
    rw [countItems, ih hvs]
    rfl

theorem size_of_toValue (h : x.toValue = .ok v) : size x = size (.value v) := by
  cases x with
  | value u =>
    rw [toValue] at h
    cases h
    rfl
  | sequence items =>
    obtain ⟨vs, hvs, rfl⟩ := toValue_sequence_eq_ok_iff.1 h
    exact countItems_of_valuesOf hvs

theorem anyTruthy_of_valuesOf (h : valuesOf items = .ok vs) :
    anyTruthy items = .ok (vs.any Value.isTruthy) := by
  induction items generalizing vs with
  | nil =>
    cases h
    rfl
  | cons item items ih =>
    obtain ⟨v, vs, ⟨x, rfl, hx⟩, hvs, rfl⟩ := valuesOf_cons_eq_ok_iff.1 h
    simp only [anyTruthy, bind, Except.bind, isTruthy_of_toValue hx, ih hvs, List.any_cons]
    cases v.isTruthy <;> rfl

theorem allTruthy_of_valuesOf (h : valuesOf items = .ok vs) :
    allTruthy items = .ok (vs.all Value.isTruthy) := by
  induction items generalizing vs with
  | nil =>
    cases h
    rfl
  | cons item items ih =>
    obtain ⟨v, vs, ⟨x, rfl, hx⟩, hvs, rfl⟩ := valuesOf_cons_eq_ok_iff.1 h
    simp only [allTruthy, bind, Except.bind, isTruthy_of_toValue hx, ih hvs, List.all_cons]
    cases v.isTruthy <;> rfl

theorem anyOf_of_toValue {token : Token} (h : x.toValue = .ok v) :
    anyOf token x = anyOf token (.value v) := by
  rcases view_of_toValue h with ⟨s, hx, hv⟩ | ⟨items, vs, hx, hv, hvs⟩
  · rw [anyOf, anyOf, hx, hv]
  · simp only [anyOf, hx, hv, anyTruthy_of_valuesOf hvs,
      anyTruthy_of_valuesOf (valuesOf_ofValues vs)]

theorem allOf_of_toValue {token : Token} (h : x.toValue = .ok v) :
    allOf token x = allOf token (.value v) := by
  rcases view_of_toValue h with ⟨s, hx, hv⟩ | ⟨items, vs, hx, hv, hvs⟩
  · rw [allOf, allOf, hx, hv]
  · simp only [allOf, hx, hv, allTruthy_of_valuesOf hvs,
      allTruthy_of_valuesOf (valuesOf_ofValues vs)]

end RecordQuery

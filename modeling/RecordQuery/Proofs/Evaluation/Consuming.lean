import RecordQuery.Proofs.Broadcasting.Items
import RecordQuery.Proofs.Broadcasting.Quantifiers

/-!
# Three ways to use a result

A result can be asked for its value, whether it is true, and whether it matches.  Each question
looks at another part of it: all of its leaves, its first item, or its leaves up to the first that
is true.  Where the parts meet, so do the answers.

* `Value.scalars`, `Evaluated.leaves` — the leaves of a value, and of a result with its failures, in
  depth-first order;
* `leafwise_toValue` — **the value of a result has its leaves, or the first failure among them**;
* `isMatch_eq_scanItems` — **a result matches if any of its leaves is true**;
* `isTruthy_of_isMatch`, `anyOf_of_isMatch` — what matches is true, and so is some item of it;
* `consumers_agree` — all of it together, for every result.
-/

namespace RecordQuery

open Evaluated

/-! ## Leaves -/

mutual

/-- The scalars inside of a value in depth-first order; inside of a mapping are its keys. -/
def Value.scalars : Value → List Value
  | .array items => Value.scalarsOf items
  | .mapping fields => fields.keys.map Key.toValue
  | v => [v]

/-- The scalars inside of values, one value after the other. -/
def Value.scalarsOf : List Value → List Value
  | [] => []
  | v :: vs => v.scalars ++ Value.scalarsOf vs

end

namespace Evaluated

mutual

/-- The leaves of a result in depth-first order: its scalars, and a failure where an item failed. -/
def leaves : Evaluated → List ResultItem
  | value v => ofValues v.scalars
  | sequence items => leavesOf items

/-- The leaves of items, one item after the other. -/
def leavesOf : List (Except EvalError Evaluated) → List ResultItem
  | [] => []
  | .error e :: rest => .error e :: leavesOf rest
  | .ok x :: rest => x.leaves ++ leavesOf rest

end

end Evaluated

variable {x : Evaluated} {items : List ResultItem} {v : Value} {vs : List Value} {e : EvalError}

theorem ofValues_append (vs ws : List Value) : ofValues (vs ++ ws) = ofValues vs ++ ofValues ws :=
  List.map_append

/-! ### The leaves of the value -/

/-- The leaves are these scalars; or else the first of them that failed did so with this error. -/
def Leafwise (leaves : List ResultItem) : Except EvalError (List Value) → Prop
  | .ok scalars => leaves = ofValues scalars
  | .error e => ∃ before behind, leaves = ofValues before ++ .error e :: behind

mutual

/-- **The value of a result has its leaves**, and there is none just if some leaf is a failure: the
first one is its error. -/
theorem leafwise_toValue : ∀ x : Evaluated, Leafwise x.leaves (x.toValue.map Value.scalars)
  | .value v => by
    rw [leaves, toValue]
    rfl
  | .sequence items => by
    have hitems := leafwise_valuesOf items
    rw [leaves, toValue]
    cases hvs : valuesOf items with
    | error e =>
      rw [hvs] at hitems
      exact hitems
    | ok vs =>
      rw [hvs] at hitems
      show leavesOf items = ofValues (Value.array vs).scalars
      rw [Value.scalars]
      exact hitems

/-- The same for the items of a sequence. -/
theorem leafwise_valuesOf :
    ∀ items : List ResultItem, Leafwise (leavesOf items) ((valuesOf items).map Value.scalarsOf)
  | [] => rfl
  | .error e :: rest => ⟨[], leavesOf rest, rfl⟩
  | .ok x :: rest => by
    have hx := leafwise_toValue x
    have hrest := leafwise_valuesOf rest
    rw [leavesOf, valuesOf]
    cases hv : x.toValue with
    | error e =>
      rw [hv] at hx
      obtain ⟨before, behind, hleaves⟩ := hx
      refine ⟨before, behind ++ leavesOf rest, ?_⟩
      rw [hleaves, List.append_assoc, List.cons_append]
    | ok v =>
      rw [hv] at hx
      have hleaves : x.leaves = ofValues v.scalars := hx
      cases hvs : valuesOf rest with
      | error e =>
        rw [hvs] at hrest
        obtain ⟨before, behind, hbehind⟩ := hrest
        refine ⟨v.scalars ++ before, behind, ?_⟩
        rw [hleaves, hbehind, ofValues_append, List.append_assoc]
      | ok vs =>
        rw [hvs] at hrest
        have hothers : leavesOf rest = ofValues (Value.scalarsOf vs) := hrest
        show x.leaves ++ leavesOf rest = ofValues (Value.scalarsOf (v :: vs))
        rw [Value.scalarsOf, ofValues_append, hleaves, hothers]

end

theorem leaves_of_toValue (h : x.toValue = .ok v) : x.leaves = ofValues v.scalars := by
  have hx := leafwise_toValue x
  rw [h] at hx
  exact hx

theorem leaves_of_toValue_eq_error (h : x.toValue = .error e) :
    ∃ before behind, x.leaves = ofValues before ++ .error e :: behind := by
  have hx := leafwise_toValue x
  rw [h] at hx
  exact hx

/-! ### Matching leaf by leaf -/

theorem scanItems_ofValues (vs : List Value) :
    scanItems false (ofValues vs) = .ok (vs.any Value.isTruthy) := by
  rw [← anyTruthy_eq_scanItems]
  exact anyTruthy_of_valuesOf (valuesOf_ofValues vs)

mutual

/-- A value matches if some scalar inside of it is true. -/
theorem Value.isMatch_eq_any : ∀ v : Value, v.isMatch = v.scalars.any Value.isTruthy
  | .array items => by
    rw [Value.isMatch, Value.scalars, Value.anyMatch_eq_any items]
  | .mapping fields => by
    rw [Value.isMatch, Value.scalars, List.any_map]
    rfl
  | .null | .boolean _ | .integer _ | .float _ | .text _ => by
    simp only [Value.isMatch, Value.scalars, List.any_cons, List.any_nil, Bool.or_false]

/-- The same for several values. -/
theorem Value.anyMatch_eq_any :
    ∀ vs : List Value, Value.anyMatch vs = (Value.scalarsOf vs).any Value.isTruthy
  | [] => rfl
  | v :: vs => by
    rw [Value.anyMatch, Value.scalarsOf, List.any_append, Value.isMatch_eq_any v,
      Value.anyMatch_eq_any vs]

end

mutual

/-- **A result matches if any of its leaves is true**, up to the first that is or failed. -/
theorem isMatch_eq_scanItems : ∀ x : Evaluated, x.isMatch = scanItems false x.leaves
  | .value v => by rw [isMatch, leaves, scanItems_ofValues, Value.isMatch_eq_any]
  | .sequence items => by rw [isMatch, leaves, someMatch_eq_scanItems items]

/-- The same for the items of a sequence. -/
theorem someMatch_eq_scanItems :
    ∀ items : List ResultItem, someMatch items = scanItems false (leavesOf items)
  | [] => rfl
  | .error e :: rest => by
    rw [someMatch, leavesOf]
    exact (scanItems_failed rfl).symm
  | .ok x :: rest => by
    rw [someMatch, leavesOf, scanItems_append_eq_bind, ← isMatch_eq_scanItems x,
      ← someMatch_eq_scanItems rest]
    cases x.isMatch with
    | error e => rfl
    | ok b => cases b <;> rfl

end

/-- **A result matches as its value does**, if it has one. -/
theorem isMatch_of_toValue (h : x.toValue = .ok v) : x.isMatch = .ok v.isMatch := by
  rw [isMatch_eq_scanItems, leaves_of_toValue h, scanItems_ofValues, Value.isMatch_eq_any]

/-- Up to the first failure among the leaves, a search ends at a leaf that is true, or else at the
failure. -/
theorem isMatch_of_leaves {before : List Value} {behind : List ResultItem}
    (h : x.leaves = ofValues before ++ .error e :: behind) :
    (x.isMatch = .ok true ∧ ∃ leaf ∈ before, leaf.isTruthy = true) ∨
      (x.isMatch = .error e ∧ ∀ leaf ∈ before, leaf.isTruthy = false) := by
  rw [isMatch_eq_scanItems, h, scanItems_append_eq_bind, scanItems_ofValues]
  cases hany : before.any Value.isTruthy with
  | true => exact .inl ⟨rfl, List.any_eq_true.1 hany⟩
  | false =>
    have hfailed : scanItems false (.error e :: behind) = .error e := scanItems_failed rfl
    refine .inr ⟨hfailed, fun leaf hleaf => ?_⟩
    simpa using List.any_eq_false.1 hany leaf hleaf

/-! ## The first item -/

/-- A result fails to be true or false just if its first item failed. -/
theorem isTruthy_eq_error_iff :
    x.isTruthy = .error e ↔ ∃ rest, x = .sequence (.error e :: rest) := by
  constructor
  · intro h
    cases x with
    | value v => cases h
    | sequence items =>
      cases items with
      | nil => cases h
      | cons item rest =>
        cases item with
        | error e' =>
          cases h
          exact ⟨rest, rfl⟩
        | ok y => cases h
  · rintro ⟨rest, rfl⟩
    rfl

/-- Then every other use of it fails in the same way. -/
theorem uses_of_isTruthy_eq_error (h : x.isTruthy = .error e) :
    x.toValue = .error e ∧ x.isMatch = .error e := by
  obtain ⟨rest, rfl⟩ := isTruthy_eq_error_iff.1 h
  rw [toValue, valuesOf, isMatch, someMatch]
  exact ⟨rfl, rfl⟩

/-- What is not true does not match: there is nothing inside of it. -/
theorem isMatch_of_isTruthy_eq_false (h : x.isTruthy = .ok false) : x.isMatch = .ok false := by
  cases x with
  | sequence items =>
    cases items with
    | nil => rfl
    | cons item rest => cases item <;> cases h
  | value v =>
    have hv : v.isTruthy = false := Except.ok.inj h
    rw [isMatch]
    cases v with
    | array vs =>
      cases vs with
      | nil => rfl
      | cons w vs => cases hv
    | mapping fields =>
      obtain ⟨entries⟩ := fields
      cases entries with
      | nil => rfl
      | cons entry entries => cases hv
    | _ => simpa only [Value.isMatch, Except.ok.injEq] using hv

/-- **What matches is true.** -/
theorem isTruthy_of_isMatch (h : x.isMatch = .ok true) : x.isTruthy = .ok true := by
  cases hx : x.isTruthy with
  | error e =>
    rw [(uses_of_isTruthy_eq_error hx).2] at h
    cases h
  | ok b =>
    cases b with
    | true => rfl
    | false =>
      rw [isMatch_of_isTruthy_eq_false hx] at h
      cases h

/-! ## The items -/

theorem someMatch_ofValues (vs : List Value) :
    someMatch (ofValues vs) = .ok (Value.anyMatch vs) := by
  induction vs with
  | nil => rfl
  | cons v vs ih =>
    show someMatch (.ok (.value v) :: ofValues vs) = _
    rw [someMatch, isMatch, ih, Value.anyMatch]
    cases v.isMatch <;> rfl

/-- The keys of a mapping are scalars. -/
theorem scalarsOf_keys (keys : List Key) :
    Value.scalarsOf (keys.map Key.toValue) = keys.map Key.toValue := by
  induction keys with
  | nil => rfl
  | cons k keys ih =>
    rw [List.map_cons, Value.scalarsOf, ih]
    cases k <;> rfl

/-- A result with items matches if one of them does. -/
theorem isMatch_of_view (h : x.view = .items items) : x.isMatch = someMatch items := by
  cases x with
  | sequence items' =>
    cases h
    rw [isMatch]
  | value v =>
    cases v with
    | array vs =>
      cases h
      rw [isMatch, Value.isMatch, someMatch_ofValues]
    | mapping fields =>
      cases h
      rw [isMatch, someMatch_ofValues, Value.isMatch_eq_any, Value.anyMatch_eq_any,
        scalarsOf_keys, Value.scalars]
    | _ => cases h

/-- If some item matches, then some item is true, and none in front of it failed. -/
theorem scanItems_of_someMatch (h : someMatch items = .ok true) :
    scanItems false items = .ok true := by
  induction items with
  | nil => cases h
  | cons item rest ih =>
    cases item with
    | error e => cases h
    | ok x =>
      rw [someMatch] at h
      cases hx : x.isTruthy with
      | error e =>
        rw [(uses_of_isTruthy_eq_error hx).2] at h
        cases h
      | ok b =>
        cases b with
        | true => exact scanItems_other hx
        | false =>
          rw [isMatch_of_isTruthy_eq_false hx] at h
          have hrest : someMatch rest = .ok true := h
          have hpassed : scanItems false (.ok x :: rest) = scanItems false rest :=
            scanItems_passed hx
          rw [hpassed, ih hrest]

/-- **Of what matches, some item is true**, if it has items. -/
theorem anyOf_of_isMatch (h : x.isMatch = .ok true) (hx : x.isSequence = true) (token : Token) :
    anyOf token x = .ok true := by
  rw [isSequence] at hx
  cases hview : x.view with
  | scalar v =>
    rw [hview] at hx
    cases hx
  | items items =>
    rw [isMatch_of_view hview] at h
    rw [anyOf, hview]
    dsimp only
    rw [anyTruthy_eq_scanItems, scanItems_of_someMatch h]

/-! ## All uses together -/

/-- The uses of a result agree with each other. -/
structure Evaluated.ConsumersAgree (x : Evaluated) : Prop where
  truthy_of_value : ∀ v, x.toValue = .ok v → x.isTruthy = .ok v.isTruthy
  match_of_value : ∀ v, x.toValue = .ok v → x.isMatch = .ok (v.scalars.any Value.isTruthy)
  items_of_value : ∀ items v, x = .sequence items → x.toValue = .ok v →
    ∃ vs, v = .array vs ∧ List.Forall₂ ItemShows items vs
  /-- A result without a value fails as the first of its leaves that failed; a search ends at a leaf
  in front of it that is true, or else there. -/
  failure : ∀ e, x.toValue = .error e →
    ∃ before behind, x.leaves = ofValues before ++ .error e :: behind ∧
      ((x.isMatch = .ok true ∧ ∃ leaf ∈ before, leaf.isTruthy = true) ∨
        (x.isMatch = .error e ∧ ∀ leaf ∈ before, leaf.isTruthy = false))
  truthy_failure : ∀ e, x.isTruthy = .error e ↔ ∃ rest, x = .sequence (.error e :: rest)
  failure_of_truthy : ∀ e, x.isTruthy = .error e → x.toValue = .error e
  truthy_of_match : x.isMatch = .ok true → x.isTruthy = .ok true
  any_of_match : x.isMatch = .ok true → x.isSequence = true → ∀ token, anyOf token x = .ok true

/-- **The uses of a result agree**, however deep its sequences are nested and wherever items
failed. -/
theorem consumers_agree (x : Evaluated) : x.ConsumersAgree where
  truthy_of_value _ h := isTruthy_of_toValue h
  match_of_value v h := by rw [isMatch_of_toValue h, Value.isMatch_eq_any]
  items_of_value items v hx h := by
    subst hx
    obtain ⟨vs, hvs, rfl⟩ := toValue_sequence_eq_ok_iff.1 h
    exact ⟨vs, rfl, valuesOf_eq_ok_iff.1 hvs⟩
  failure e h := by
    obtain ⟨before, behind, hleaves⟩ := leaves_of_toValue_eq_error h
    exact ⟨before, behind, hleaves, isMatch_of_leaves hleaves⟩
  truthy_failure _ := isTruthy_eq_error_iff
  failure_of_truthy _ h := (uses_of_isTruthy_eq_error h).1
  truthy_of_match := isTruthy_of_isMatch
  any_of_match := anyOf_of_isMatch

end RecordQuery

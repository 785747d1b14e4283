import RecordQuery.Proofs.Broadcasting.Negation

/-!
# Any and all

`any` asks the items of a sequence in order whether they are true, until one is; `all` asks until
one is not.  An item that failed ends both.  So the two are one scan that differs in the answer it
passes over, and to negate the items is to pass over the other answer.

* `truth`, `scanItems` — the answer of an item, and the scan for the first that says otherwise;
* `Decides`, `scanItems_eq_iff` — **the first item that says otherwise, or failed, decides**;
* `scanItems_behind` — the items behind it never matter;
* `scanItems_map_negateItem` — **negated items are scanned for the other answer**, and fail alike;
* `quantifier_laws` — `any` and `all` of a result and of its negation.
-/

namespace RecordQuery

open Evaluated

/-! ## One scan -/

/-- Whether an item is true, unless it failed, or the first item inside of it did. -/
def truth (item : ResultItem) : Except EvalError Bool := do
  let x ← item
  x.isTruthy

/-- Asks items in order whether they are true, and passes over those that give this answer. -/
def scanItems (passing : Bool) : List ResultItem → Except EvalError Bool
  | [] => .ok passing
  | item :: rest => do
    let answer ← truth item
    if answer = passing then scanItems passing rest else .ok answer

/-- What items come to if one answer is passed over: that answer, if all of them give it, and
otherwise the other answer or the error of the first item that does not. -/
inductive Decides (passing : Bool) : List ResultItem → Except EvalError Bool → Prop
  | passed {items : List ResultItem} :
      (∀ item ∈ items, truth item = .ok passing) → Decides passing items (.ok passing)
  | other {front rest : List ResultItem} {item : ResultItem} :
      (∀ i ∈ front, truth i = .ok passing) → truth item = .ok (!passing) →
      Decides passing (front ++ item :: rest) (.ok (!passing))
  | failed {front rest : List ResultItem} {item : ResultItem} {e : EvalError} :
      (∀ i ∈ front, truth i = .ok passing) → truth item = .error e →
      Decides passing (front ++ item :: rest) (.error e)

variable {passing : Bool} {items front rest rest' : List ResultItem} {item : ResultItem}
  {answer : Except EvalError Bool} {e : EvalError} {x : Evaluated}

theorem anyTruthy_eq_scanItems (items : List ResultItem) :
    anyTruthy items = scanItems false items := by
  induction items with
  | nil => rfl
  | cons item rest ih =>
    have hitem : anyTruthy (item :: rest) = (do
        let answer ← truth item
        if answer then .ok true else anyTruthy rest) := by
      cases item <;> rfl
    rw [hitem, scanItems, ih]
    cases truth item with
    | error e => rfl
    | ok b => cases b <;> rfl

theorem allTruthy_eq_scanItems (items : List ResultItem) :
    allTruthy items = scanItems true items := by
  induction items with
  | nil => rfl
  | cons item rest ih =>
    have hitem : allTruthy (item :: rest) = (do
        let answer ← truth item
        if answer then allTruthy rest else .ok false) := by
      cases item <;> rfl
    rw [hitem, scanItems, ih]
    cases truth item with
    | error e => rfl
    | ok b => cases b <;> rfl

/-! ### One item -/

theorem scanItems_passed (h : truth item = .ok passing) :
    scanItems passing (item :: rest) = scanItems passing rest := by
  rw [scanItems, h]
  exact if_pos rfl

theorem scanItems_other (h : truth item = .ok (!passing)) :
    scanItems passing (item :: rest) = .ok (!passing) := by
  rw [scanItems, h]
  exact if_neg (by simp)

theorem scanItems_failed (h : truth item = .error e) :
    scanItems passing (item :: rest) = .error e := by
  rw [scanItems, h]
  rfl

/-- An item gives the answer that is passed over, or the other one, or it failed. -/
theorem truth_cases (passing : Bool) (item : ResultItem) :
    truth item = .ok passing ∨ truth item = .ok (!passing) ∨ ∃ e, truth item = .error e := by
  cases h : truth item with
  | error e => exact .inr (.inr ⟨e, rfl⟩)
  | ok b =>
    by_cases hb : b = passing
    · exact .inl (by rw [hb])
    · exact .inr (.inl (by rw [Bool.eq_not.2 hb]))

/-! ### All items -/

theorem scanItems_append (h : ∀ i ∈ front, truth i = .ok passing) :
    scanItems passing (front ++ items) = scanItems passing items := by
  induction front with
  | nil => rfl
  | cons first front ih =>
    obtain ⟨hfirst, hfront⟩ := List.forall_mem_cons.1 h
    rw [List.cons_append, scanItems_passed hfirst, ih hfront]

/-- The items in front are asked first, and the others if none of them says otherwise. -/
theorem scanItems_append_eq_bind (passing : Bool) (front items : List ResultItem) :
    scanItems passing (front ++ items) = (do
      let answer ← scanItems passing front
      if answer = passing then scanItems passing items else .ok answer) := by
  induction front with
  | nil => exact (if_pos rfl).symm
  | cons first front ih =>
    rw [List.cons_append]
    rcases truth_cases passing first with h | h | ⟨e, h⟩
    · rw [scanItems_passed h, scanItems_passed h, ih]
    · rw [scanItems_other h, scanItems_other h]
      exact (if_neg (by simp)).symm
    · rw [scanItems_failed h, scanItems_failed h]
      rfl

theorem Decides.cons (h : truth item = .ok passing) (hrest : Decides passing rest answer) :
    Decides passing (item :: rest) answer := by
  cases hrest with
  | passed hitems => exact .passed (List.forall_mem_cons.2 ⟨h, hitems⟩)
  | @other front rest decisive hfront hdecisive =>
    have hfront' : ∀ i ∈ item :: front, truth i = .ok passing :=
      List.forall_mem_cons.2 ⟨h, hfront⟩
    exact .other hfront' hdecisive
  | @failed front rest decisive e hfront hdecisive =>
    have hfront' : ∀ i ∈ item :: front, truth i = .ok passing :=
      List.forall_mem_cons.2 ⟨h, hfront⟩
    exact .failed hfront' hdecisive

theorem decides_scanItems (passing : Bool) (items : List ResultItem) :
    Decides passing items (scanItems passing items) := by
  induction items with
  | nil => exact .passed nofun
  | cons item rest ih =>
    rcases truth_cases passing item with h | h | ⟨e, h⟩
    · rw [scanItems_passed h]
      exact ih.cons h
    · rw [scanItems_other h]
      exact @Decides.other passing [] rest item nofun h
    · rw [scanItems_failed h]
      exact @Decides.failed passing [] rest item e nofun h

/-- **The first item that says otherwise, or failed, decides.** -/
theorem scanItems_eq_iff : scanItems passing items = answer ↔ Decides passing items answer := by
  constructor
  · rintro rfl
    exact decides_scanItems passing items
  · intro h
    cases h with
    | passed h =>
      have hitems := @scanItems_append passing [] _ h
      rwa [List.append_nil] at hitems
    | other hfront hitem => rw [scanItems_append hfront, scanItems_other hitem]
    | failed hfront hitem => rw [scanItems_append hfront, scanItems_failed hitem]

/-- **Behind an item that says otherwise, or failed, no item matters.** -/
theorem scanItems_behind (h : truth item ≠ .ok passing) (front rest rest' : List ResultItem) :
    scanItems passing (front ++ item :: rest) = scanItems passing (front ++ item :: rest') := by
  induction front with
  | nil =>
    rcases truth_cases passing item with hitem | hitem | ⟨e, hitem⟩
    · exact absurd hitem h
    · rw [List.nil_append, List.nil_append, scanItems_other hitem, scanItems_other hitem]
    · rw [List.nil_append, List.nil_append, scanItems_failed hitem, scanItems_failed hitem]
  | cons first front ih => rw [List.cons_append, List.cons_append, scanItems, scanItems, ih]

/-! ### Negated items -/

theorem truth_negateItem (item : ResultItem) : truth (negateItem item) = (truth item).map (!·) := by
  cases item with
  | error e => rfl
  | ok x =>
    have htruth : truth (.ok x) = x.isTruthy := rfl
    have hnegated : negateItem (.ok x) = (x.isTruthy.map (!·)).map .ofBool := by
      simp only [negateItem, bind, Except.bind]
      cases x.isTruthy <;> rfl
    rw [hnegated, htruth]
    cases x.isTruthy <;> rfl

/-- **Negated items are scanned for the other answer**, and where they fail, they fail alike. -/
theorem scanItems_map_negateItem (passing : Bool) (items : List ResultItem) :
    scanItems passing (items.map negateItem) = (scanItems (!passing) items).map (!·) := by
  induction items with
  | nil =>
    show Except.ok passing = .ok (!!passing)
    rw [Bool.not_not]
  | cons item rest ih =>
    have hnegated := truth_negateItem item
    rw [List.map_cons]
    rcases truth_cases (!passing) item with h | h | ⟨e, h⟩
    · rw [h, Except.map, Bool.not_not] at hnegated
      rw [scanItems_passed hnegated, scanItems_passed h, ih]
    · rw [h, Except.map, Bool.not_not] at hnegated
      rw [scanItems_other hnegated, scanItems_other h, Except.map, Bool.not_not]
    · rw [h, Except.map] at hnegated
      rw [scanItems_failed hnegated, scanItems_failed h, Except.map]

/-! ## Results -/

theorem applyMethod_any (t : Token) (h : x.view = .items items) :
    applyMethod t .any x = orInterrupt ((scanItems false items).map .ofBool) := by
  rw [applyMethod, anyOf, h, ← anyTruthy_eq_scanItems]

theorem applyMethod_all (t : Token) (h : x.view = .items items) :
    applyMethod t .all x = orInterrupt ((scanItems true items).map .ofBool) := by
  rw [applyMethod, allOf, h, ← allTruthy_eq_scanItems]

theorem map_negate_orInterrupt (answer : Except EvalError Bool) :
    (orInterrupt (answer.map .ofBool)).map negate =
      orInterrupt ((answer.map (!·)).map .ofBool) := by
  cases answer <;> rfl

/-- To ask the negated items for any is to negate what all items say. -/
theorem any_negate (t t' : Token) (h : x.view = .items items) :
    applyMethod t .any (negate x) = (applyMethod t' .all x).map negate := by
  rw [applyMethod_any t (view_negate_items h), applyMethod_all t' h, map_negate_orInterrupt,
    scanItems_map_negateItem, Bool.not_false]

/-- To ask all negated items is to negate what any item says. -/
theorem all_negate (t t' : Token) (h : x.view = .items items) :
    applyMethod t .all (negate x) = (applyMethod t' .any x).map negate := by
  rw [applyMethod_all t (view_negate_items h), applyMethod_any t' h, map_negate_orInterrupt,
    scanItems_map_negateItem, Bool.not_true]

theorem eval_method_not (m : Method) (argument : Node) (record : Value) (t s : Token)
    (hx : argument.eval record = .ok x) :
    (Node.method m (.unary .not argument s) t).eval record = applyMethod t m (negate x) := by
  simp only [Node.eval, hx]
  rfl

theorem eval_not_method (m : Method) (argument : Node) (record : Value) (t s : Token)
    (hx : argument.eval record = .ok x) :
    (Node.unary .not (.method m argument t) s).eval record = (applyMethod t m x).map negate := by
  simp only [Node.eval, hx]
  dsimp only [bind, Except.bind]
  cases applyMethod t m x <;> rfl

/-- What `any` and `all` make of a result with items, whatever their tokens. -/
structure QuantifierLaws (x : Evaluated) (items : List ResultItem) : Prop where
  any_not : ∀ t t', applyMethod t .any (negate x) = (applyMethod t' .all x).map negate
  all_not : ∀ t t', applyMethod t .all (negate x) = (applyMethod t' .any x).map negate
  /-- So both sides of these laws are one outcome, for every tree that comes to the result. -/
  trees : ∀ argument record, argument.eval record = .ok x → ∀ t t' s s',
    (Node.method .any (.unary .not argument s) t).compute record =
      (Node.unary .not (.method .all argument t') s').compute record ∧
    (Node.method .all (.unary .not argument s) t).compute record =
      (Node.unary .not (.method .any argument t') s').compute record
  /-- The first item that is true or failed decides. -/
  any_decided : ∀ t result, applyMethod t .any x = result ↔
    ∃ answer, Decides false items answer ∧ orInterrupt (answer.map .ofBool) = result
  /-- The first item that is false or failed decides. -/
  all_decided : ∀ t result, applyMethod t .all x = result ↔
    ∃ answer, Decides true items answer ∧ orInterrupt (answer.map .ofBool) = result
  any_behind : ∀ front item rest rest' y, items = front ++ item :: rest →
    y.view = .items (front ++ item :: rest') → truth item ≠ .ok false →
    ∀ t, applyMethod t .any x = applyMethod t .any y
  all_behind : ∀ front item rest rest' y, items = front ++ item :: rest →
    y.view = .items (front ++ item :: rest') → truth item ≠ .ok true →
    ∀ t, applyMethod t .all x = applyMethod t .all y

/-- **Any and all are dual and stop alike**, for every result that has items: sequences, with items
that failed and sequences among them, arrays and mappings. -/
theorem quantifier_laws (h : x.view = .items items) : QuantifierLaws x items where
  any_not t t' := any_negate t t' h
  all_not t t' := all_negate t t' h
  trees argument record hx t t' s s' := by
    simp only [Node.compute, eval_method_not _ argument record _ _ hx,
      eval_not_method _ argument record _ _ hx, any_negate t t' h, all_negate t t' h, and_self]
  any_decided t result := by
    rw [applyMethod_any t h]
    simp only [← scanItems_eq_iff, exists_eq_left']
  all_decided t result := by
    rw [applyMethod_all t h]
    simp only [← scanItems_eq_iff, exists_eq_left']
  any_behind front item rest rest' y hitems hy hitem t := by
    rw [applyMethod_any t h, applyMethod_any t hy, hitems, scanItems_behind hitem front rest rest']
  all_behind front item rest rest' y hitems hy hitem t := by
    rw [applyMethod_all t h, applyMethod_all t hy, hitems, scanItems_behind hitem front rest rest']

/-- Behind a false and an empty item stands a sequence whose first item failed: it ends `any`, and
once negated it ends `all`, in front of an item that is true. -/
theorem quantifier_laws_failed_inside :
    let e : EvalError := ⟨.itemNotText .split "integer", "split", ⟨4, 5⟩⟩
    let items : List ResultItem := [.ok (.value (.integer 0)), .ok (.sequence []),
      .ok (.sequence [.error e]), .ok (.value (.integer 1))]
    (Evaluated.sequence items).view = .items items ∧ QuantifierLaws (.sequence items) items ∧
      ∀ t, applyMethod t .all (negate (.sequence items)) = .error (.failure e) := by
  intro e items
  have hview : (Evaluated.sequence items).view = .items items := rfl
  have hlaws := quantifier_laws hview
  exact ⟨hview, hlaws, fun t => (hlaws.all_not t t).trans rfl⟩

end RecordQuery

import RecordQuery.Proofs.Evaluation.Matching
import RecordQuery.Proofs.Evaluation.Order

/-!
# Where errors are reported

An error names the token of the node that found the fault, and keeps this token wherever it goes:
an item that failed may pass through any number of operations before somebody asks for it.  So the
errors of a result are said once, as a property that all of them have, and every operation adds
errors at its own token only.

* `Evaluated.Holds` — an error is among the items of a result, at any depth;
* `holds_of_toValue`, `holds_of_isTruthy`, `holds_of_isMatch` — whoever asks for items meets no
  other error;
* `Errs` — all errors of a result that may have failed have a property;
* `errs_negate`, `errs_broadcast`, `errs_flatten`, … — **each operation adds errors at its own token
  only**;
* `endsIn_eval` — **so all errors of a tree are reported at its nodes**.
-/

namespace RecordQuery

/-- The error is among the items of a result, or of results among its items. -/
inductive Evaluated.Holds (e : EvalError) : Evaluated → Prop
  | failed {items : List ResultItem} : .error e ∈ items → Holds e (.sequence items)
  | inside {items : List ResultItem} {x : Evaluated} :
      .ok x ∈ items → Holds e x → Holds e (.sequence items)

/-- All errors of a result that may have failed have a property. -/
def Errs (P : EvalError → Prop) : Except EvalError Evaluated → Prop
  | .error e => P e
  | .ok x => ∀ e, x.Holds e → P e

/-- A node at which errors are reported: a call, an operator between operands or a search. -/
def Node.operates : Node → Bool
  | method _ _ _ => true
  | binary _ _ _ _ => true
  | keyword _ _ _ _ => true
  | _ => false

variable {P : EvalError → Prop} {e : EvalError} {x y : Evaluated} {v : Value} {vs : List Value}
  {items : List ResultItem} {item : ResultItem} {token : Token} {method : Method}

open Evaluated

/-! ## Asking for items -/

theorem not_holds_value : ¬ (Evaluated.value v).Holds e := by
  intro h
  cases h

mutual

/-- **Only an error of the items stands in the way of a value.** -/
theorem holds_of_toValue : ∀ x : Evaluated, x.toValue = .error e → x.Holds e
  | .value v, h => by
    rw [toValue] at h
    cases h
  | .sequence items, h => by
    rw [toValue] at h
    cases hi : valuesOf items with
    | ok vs =>
      rw [hi] at h
      cases h
    | error e' =>
      rw [hi] at h
      cases h
      exact holds_of_valuesOf items hi

theorem holds_of_valuesOf : ∀ items : List ResultItem,
    valuesOf items = .error e → (Evaluated.sequence items).Holds e
  | [], h => by
    rw [valuesOf] at h
    cases h
  | .error e' :: rest, h => by
    rw [valuesOf] at h
    cases h
    exact .failed List.mem_cons_self
  | .ok x :: rest, h => by
    rw [valuesOf] at h
    rcases Except.bind_eq_error_iff.1 h with hx | ⟨v, _, h⟩
    · exact .inside List.mem_cons_self (holds_of_toValue x hx)
    · rcases Except.bind_eq_error_iff.1 h with hr | ⟨vs, _, h⟩
      · cases holds_of_valuesOf rest hr with
        | failed hmem => exact .failed (List.mem_cons_of_mem _ hmem)
        | inside hmem hy => exact .inside (List.mem_cons_of_mem _ hmem) hy
      · cases h

end

theorem holds_of_isTruthy (h : x.isTruthy = .error e) : x.Holds e := by
  unfold isTruthy at h
  split at h
  · cases h
  · cases h
  · cases h
    exact .failed List.mem_cons_self
  · cases h

theorem holds_of_isMatch (h : x.isMatch = .error e) : x.Holds e := by
  rcases looks_isMatch x with hl | ⟨hl, _⟩
  · refine holds_of_toValue x ?_
    rw [h] at hl
    cases hv : x.toValue with
    | ok v =>
      rw [hv] at hl
      cases hl
    | error e' =>
      rw [hv] at hl
      cases hl
      rfl
  · rw [h] at hl
    cases hl

/-! ## Items -/

theorem errs_value : Errs P (.ok (.value v)) := fun _ h => absurd h not_holds_value

theorem errs_ofBool {b : Bool} : Errs P (.ok (.ofBool b)) := errs_value

theorem errs_sequence_iff : Errs P (.ok (.sequence items)) ↔ ∀ item ∈ items, Errs P item := by
  constructor
  · intro h item hitem
    cases item with
    | error e => exact h e (.failed hitem)
    | ok x => exact fun e he => h e (.inside hitem he)
  · intro h e he
    cases he with
    | failed hmem => exact h _ hmem
    | inside hmem hy => exact h _ hmem e hy

theorem errs_ofValues : ∀ item ∈ ofValues vs, Errs P item := by
  intro item hitem
  obtain ⟨v, _, rfl⟩ := List.mem_map.1 hitem
  exact errs_value

/-- The items of a result have no errors but those of the result. -/
theorem errs_of_view (hx : Errs P (.ok x)) (h : x.view = .items items) :
    ∀ item ∈ items, Errs P item := by
  unfold view at h
  split at h
  · cases h
    exact errs_sequence_iff.1 hx
  · cases h
    exact errs_ofValues
  · cases h
    exact errs_ofValues
  · cases h

theorem errs_map {f : ResultItem → ResultItem} (hf : ∀ item, Errs P item → Errs P (f item))
    (h : ∀ item ∈ items, Errs P item) : Errs P (.ok (.sequence (items.map f))) := by
  rw [errs_sequence_iff]
  intro item hitem
  obtain ⟨item', hmem, rfl⟩ := List.mem_map.1 hitem
  exact hf item' (h item' hmem)

/-- What is done with an item that did not fail may fail once more. -/
theorem errs_bind {α : Type} {r : Except EvalError α} {f : α → Except EvalError Evaluated}
    (hr : ∀ e, r = .error e → P e) (hf : ∀ a, r = .ok a → Errs P (f a)) : Errs P (r >>= f) := by
  cases r with
  | error e => exact hr e rfl
  | ok a => exact hf a rfl

/-! ## Operators -/

theorem errs_negateItem (h : Errs P item) : Errs P (negateItem item) := by
  refine errs_bind (fun e he => by rwa [he] at h) fun x hx => ?_
  rw [hx] at h
  exact errs_bind (fun e he => h e (holds_of_isTruthy he)) fun b _ => errs_ofBool

theorem errs_negate (h : Errs P (.ok x)) : Errs P (.ok (negate x)) := by
  unfold negate
  split
  · rename_i items hitems
    exact errs_map (fun _ => errs_negateItem) (errs_of_view h hitems)
  · exact errs_ofBool

theorem applyBinary_eq_error {op : BinaryOp} {a b : Value}
    (h : applyBinary token op a b = .error e) : ∃ fault, e = .ofToken token fault := by
  unfold applyBinary at h
  split at h
  all_goals first
    | cases h
    | split at h
      · cases h
      · cases h
        exact ⟨_, rfl⟩

theorem errs_applyToItem {settled : Option Bool} {apply : Value → Except EvalError Bool}
    (happly : ∀ v e, apply v = .error e → P e) (h : Errs P item) :
    Errs P (applyToItem settled apply item) := by
  refine errs_bind (fun e he => by rwa [he] at h) fun x hx => ?_
  rw [hx] at h
  cases settled with
  | some b => exact errs_ofBool
  | none =>
    exact errs_bind (fun e he => h e (holds_of_toValue x he)) fun v _ =>
      errs_bind (happly v) fun b _ => errs_ofBool

theorem errs_applyToPairs {apply : Value → Value → Except EvalError Bool} {as bs : List Value}
    (happly : ∀ a b e, apply a b = .error e → P e) :
    Errs P (.ok (.sequence (applyToPairs apply as bs))) := by
  rw [errs_sequence_iff, applyToPairs_eq]
  intro item hitem
  obtain ⟨a, _, ha⟩ := List.mem_flatMap.1 hitem
  obtain ⟨b, _, rfl⟩ := List.mem_map.1 ha
  exact errs_bind (happly a b) fun b _ => errs_ofBool

section Site

-- what the operation itself reports has the property
variable (hsite : ∀ fault, P (.ofToken token fault))

include hsite

theorem errs_broadcast {op : BinaryOp} (hx : Errs P (.ok x)) (hy : Errs P (.ok y)) :
    Errs P (broadcast token op x y) := by
  have happly : ∀ a b e, applyBinary token op a b = .error e → P e := by
    intro a b e h
    obtain ⟨fault, rfl⟩ := applyBinary_eq_error h
    exact hsite fault
  unfold broadcast
  dsimp only
  split
  · exact errs_bind (happly _ _) fun b _ => errs_ofBool
  · rename_i items b hitems _
    exact errs_map (fun _ => errs_applyToItem fun a => happly a b) (errs_of_view hx hitems)
  · rename_i a items _ hitems
    exact errs_map (fun _ => errs_applyToItem (happly a)) (errs_of_view hy hitems)
  · rename_i lefts rights hlefts hrights
    have hl := errs_sequence_iff.2 (errs_of_view hx hlefts)
    have hr := errs_sequence_iff.2 (errs_of_view hy hrights)
    exact errs_bind (fun e he => hl e (holds_of_valuesOf _ he)) fun as _ =>
      errs_bind (fun e he => hr e (holds_of_valuesOf _ he)) fun bs _ => errs_applyToPairs happly

/-! ## Methods and searches -/

theorem errs_applyToTextItem {apply : String → Value} (h : Errs P item) :
    Errs P (applyToTextItem token method apply item) := by
  refine errs_bind (fun e he => by rwa [he] at h) fun x hx => ?_
  rw [hx] at h
  refine errs_bind (fun e he => h e (holds_of_toValue x he)) fun v _ => ?_
  split
  · exact errs_value
  · exact hsite _

theorem errs_applyToTexts {apply : String → Value} (h : Errs P (.ok x)) :
    Errs P (applyToTexts token method apply x) := by
  unfold applyToTexts
  split
  · exact errs_value
  · exact hsite _
  · rename_i items hitems
    exact errs_map (fun _ => errs_applyToTextItem hsite) (errs_of_view h hitems)

theorem errs_flattenItem (h : Errs P item) : ∀ inner ∈ flattenItem token item, Errs P inner := by
  cases item with
  | error e =>
    intro inner hinner
    obtain rfl := List.mem_singleton.1 hinner
    exact h
  | ok x =>
    rw [flattenItem]
    split
    · rename_i items hitems
      exact errs_of_view h hitems
    · intro inner hinner
      obtain rfl := List.mem_singleton.1 hinner
      exact hsite _

theorem errs_flatten (h : Errs P (.ok x)) : Errs P (flatten token x) := by
  unfold flatten
  split
  · rename_i items hitems
    rw [errs_sequence_iff]
    intro inner hinner
    obtain ⟨item, hitem, hin⟩ := List.mem_flatMap.1 hinner
    exact errs_flattenItem hsite (errs_of_view h hitems item hitem) inner hin
  · exact hsite _

omit hsite in
/-- An item that is asked for first. -/
theorem error_of_bind_item {α : Type} {f : Evaluated → Except EvalError α} (hitem : Errs P item)
    (hf : ∀ x, item = .ok x → f x = .error e → P e) (h : (item >>= f) = .error e) : P e := by
  rcases Except.bind_eq_error_iff.1 h with h | ⟨x, hx, h⟩
  · rwa [h] at hitem
  · exact hf x hx h

omit hsite in
theorem error_of_countItems (hitems : ∀ item ∈ items, Errs P item)
    (h : countItems items = .error e) : P e := by
  induction items with
  | nil => cases h
  | cons item rest ih =>
    obtain ⟨hitem, hrest⟩ := List.forall_mem_cons.1 hitems
    refine error_of_bind_item hitem (fun x _ hx => ?_) h
    rcases Except.bind_eq_error_iff.1 hx with hn | ⟨n, _, hn⟩
    · exact ih hrest hn
    · cases hn

omit hsite in
theorem error_of_size (hx : Errs P (.ok x)) (h : size x = .error e) : P e := by
  unfold size at h
  split at h
  all_goals first
    | cases h
    | exact error_of_countItems (errs_sequence_iff.1 hx) h

omit hsite in
theorem error_of_anyTruthy (hitems : ∀ item ∈ items, Errs P item)
    (h : anyTruthy items = .error e) : P e := by
  induction items with
  | nil => cases h
  | cons item rest ih =>
    obtain ⟨hitem, hrest⟩ := List.forall_mem_cons.1 hitems
    refine error_of_bind_item hitem (fun x hx hb => ?_) h
    rw [hx] at hitem
    rcases Except.bind_eq_error_iff.1 hb with hb | ⟨b, _, hb⟩
    · exact hitem e (holds_of_isTruthy hb)
    · split at hb
      · cases hb
      · exact ih hrest hb

omit hsite in
theorem error_of_allTruthy (hitems : ∀ item ∈ items, Errs P item)
    (h : allTruthy items = .error e) : P e := by
  induction items with
  | nil => cases h
  | cons item rest ih =>
    obtain ⟨hitem, hrest⟩ := List.forall_mem_cons.1 hitems
    refine error_of_bind_item hitem (fun x hx hb => ?_) h
    rw [hx] at hitem
    rcases Except.bind_eq_error_iff.1 hb with hb | ⟨b, _, hb⟩
    · exact hitem e (holds_of_isTruthy hb)
    · split at hb
      · exact ih hrest hb
      · cases hb

theorem error_of_anyOf (hx : Errs P (.ok x)) (h : anyOf token x = .error e) : P e := by
  unfold anyOf at h
  split at h
  · rename_i items hitems
    exact error_of_anyTruthy (errs_of_view hx hitems) h
  · cases h
  · cases h
    exact hsite _

theorem error_of_allOf (hx : Errs P (.ok x)) (h : allOf token x = .error e) : P e := by
  unfold allOf at h
  split at h
  · rename_i items hitems
    exact error_of_allTruthy (errs_of_view hx hitems) h
  · cases h
  · cases h
    exact hsite _

theorem error_of_textsOf (hitems : ∀ item ∈ items, Errs P item)
    (h : textsOf token items = .error e) : P e := by
  induction items with
  | nil => cases h
  | cons item rest ih =>
    obtain ⟨hitem, hrest⟩ := List.forall_mem_cons.1 hitems
    refine error_of_bind_item hitem (fun x hx hv => ?_) h
    rw [hx] at hitem
    rcases Except.bind_eq_error_iff.1 hv with hv | ⟨v, _, hv⟩
    · exact hitem e (holds_of_toValue x hv)
    · split at hv
      · rcases Except.bind_eq_error_iff.1 hv with ht | ⟨texts, _, ht⟩
        · exact ih hrest ht
        · cases ht
      · cases hv
        exact hsite _

theorem error_of_searchIn {pattern : Pattern} (hx : Errs P (.ok x))
    (h : searchIn token pattern x = .error e) : P e := by
  unfold searchIn at h
  split at h
  · cases h
  · cases h
  · cases h
    exact hsite _
  · rename_i items hitems
    rcases Except.bind_eq_error_iff.1 h with ht | ⟨texts, _, ht⟩
    · exact error_of_textsOf hsite (errs_of_view hx hitems) ht
    · cases ht

end Site

/-! ## Trees -/

/-- All errors of a computation have a property. -/
def EndsIn (P : EvalError → Prop) : Except Interrupt Evaluated → Prop
  | .error (.failure e) => P e
  | .error (.print _) => True
  | .ok x => Errs P (.ok x)

theorem endsIn_orInterrupt {r : Except EvalError Evaluated} (h : Errs P r) :
    EndsIn P (orInterrupt r) := by
  cases r <;> exact h

theorem endsIn_orInterrupt_map {α : Type} {r : Except EvalError α} {f : α → Evaluated}
    (hf : ∀ a, Errs P (.ok (f a))) (h : ∀ e, r = .error e → P e) :
    EndsIn P (orInterrupt (r.map f)) := by
  cases r with
  | error e => exact h e rfl
  | ok a => exact hf a

theorem endsIn_applyMethod (hsite : ∀ fault, P (.ofToken token fault)) (hx : Errs P (.ok x)) :
    EndsIn P (applyMethod token method x) := by
  cases method with
  | len =>
    refine endsIn_orInterrupt_map (fun _ => errs_value) fun e he => ?_
    -- the size becomes an integer before it becomes a result
    rcases Except.bind_eq_error_iff.1 he with he | ⟨n, _, hn⟩
    · exact error_of_size hx he
    · cases hn
  | split => exact endsIn_orInterrupt (errs_applyToTexts hsite hx)
  | lower => exact endsIn_orInterrupt (errs_applyToTexts hsite hx)
  | upper => exact endsIn_orInterrupt (errs_applyToTexts hsite hx)
  | any => exact endsIn_orInterrupt_map (fun _ => errs_ofBool) fun e => error_of_anyOf hsite hx
  | all => exact endsIn_orInterrupt_map (fun _ => errs_ofBool) fun e => error_of_allOf hsite hx
  | reduce => exact endsIn_orInterrupt (errs_flatten hsite hx)
  | print =>
    rw [applyMethod]
    cases hv : x.toValue with
    | ok v => trivial
    | error e => exact hx e (holds_of_toValue x hv)

theorem endsIn_bind {r : Except Interrupt Evaluated} {f : Evaluated → Except Interrupt Evaluated}
    (hr : EndsIn P r) (hf : ∀ x, Errs P (.ok x) → EndsIn P (f x)) : EndsIn P (r >>= f) := by
  cases r with
  | error i => exact hr
  | ok x => exact hf x hr

/-- **All errors of a tree are reported at its nodes**, by recursion on the tree. -/
theorem endsIn_eval {tree : Node} (record : Value)
    (h : ∀ node ∈ tree.postorder, node.operates → ∀ fault, P (.ofToken node.token fault)) :
    EndsIn P (tree.eval record) := by
  induction tree with
  | operand leaf token => cases leaf <;> exact errs_value
  | method m argument token ih =>
    simp only [Node.postorder, List.forall_mem_append, List.forall_mem_singleton] at h
    exact endsIn_bind (ih h.1) fun x hx => endsIn_applyMethod (h.2 rfl) hx
  | unary op inner token ih =>
    cases op
    simp only [Node.postorder, List.forall_mem_append] at h
    exact endsIn_bind (ih h.1) fun x hx => errs_negate hx
  | binary op left right token ihl ihr =>
    simp only [Node.postorder, List.forall_mem_append, List.forall_mem_singleton] at h
    exact endsIn_bind (ihl h.1) fun x hx => endsIn_bind (ihr h.2.1) fun y hy =>
      endsIn_orInterrupt (errs_broadcast (h.2.2 rfl) hx hy)
  | keyword k pattern field token =>
    cases k
    simp only [Node.postorder, List.forall_mem_singleton] at h
    have hfield : Errs P (.ok (field.eval record)) := by cases field <;> exact errs_value
    exact endsIn_orInterrupt_map (fun _ => errs_ofBool) fun e => error_of_searchIn (h rfl) hfield

theorem hasPrint_eq_false {tree : Node} (h : ∀ node ∈ tree.postorder, node.operates = false) :
    tree.hasPrint = false := by
  induction tree with
  | operand leaf token => rfl
  | method m argument token ih =>
    simp only [Node.postorder, List.forall_mem_append, List.forall_mem_singleton] at h
    cases h.2
  | unary op inner token ih =>
    simp only [Node.postorder, List.forall_mem_append] at h
    exact ih h.1
  | binary op left right token ihl ihr =>
    simp only [Node.postorder, List.forall_mem_append, List.forall_mem_singleton] at h
    cases h.2.2
  | keyword k pattern field token => rfl

/-- **A tree without calls, operators between operands and searches never fails**, and neither does
any item of its result. -/
theorem exists_value_of_not_operates {tree : Node} (record : Value)
    (h : ∀ node ∈ tree.postorder, node.operates = false) :
    ∃ x, tree.compute record = .value x ∧ ∀ e, ¬ x.Holds e := by
  have hends : EndsIn (fun _ => False) (tree.eval record) :=
    endsIn_eval record fun node hnode ho => by simp [h node hnode] at ho
  cases he : tree.eval record with
  | ok x =>
    rw [he] at hends
    exact ⟨x, compute_eq_value_iff.2 he, hends⟩
  | error i =>
    rw [he] at hends
    cases i with
    | print v => exact absurd he (eval_ne_print (hasPrint_eq_false h))
    | failure e => exact hends.elim

end RecordQuery

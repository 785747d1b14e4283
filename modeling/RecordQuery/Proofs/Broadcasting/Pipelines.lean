import RecordQuery.Eval.Compute

/-!
# Pipelines

Some operations treat a sequence item by item: `not`, the methods on texts, `reduce`, and a binary
operator one side of which is a fixed scalar.  A **pipeline** is any number of them in a row.

* `Stage`, `Pipeline` — such operations, and what a row of them computes;
* `eval_wrap` — a pipeline computes what a tree of these operations does;
* `ActsByItem` — each item gives its own items, whatever stands around it, and an item that failed
  stays as it is;
* `actsByItem_stage`, `ActsByItem.comp` — every stage acts so, and so do two such operations in a
  row;
* `Pipeline.separates` — **a pipeline makes of two lists together what it makes of each of them**.
-/

namespace RecordQuery

/-! ## Stages -/

/-- A value without items. -/
structure Scalar where
  value : Value
  view_eq : (Evaluated.value value).view = .scalar value

/-- Whether a method treats a sequence item by item. -/
def Method.treatsItems : Method → Bool
  | split => true
  | lower => true
  | upper => true
  | reduce => true
  | _ => false

/-- An operation that treats a sequence item by item, with the token of its errors. -/
inductive Stage where
  | not (token : Token)
  | call (token : Token) (method : Method) (treatsItems : method.treatsItems = true)
  | scalarLeft (token : Token) (op : BinaryOp) (scalar : Scalar)
  | scalarRight (token : Token) (op : BinaryOp) (scalar : Scalar)

namespace Stage

/-- What a stage makes of a result. -/
def run (x : Evaluated) : Stage → Except Interrupt Evaluated
  | not _ => .ok (negate x)
  | call token method _ => applyMethod token method x
  | scalarLeft token op scalar => orInterrupt (broadcast token op (.value scalar.value) x)
  | scalarRight token op scalar => orInterrupt (broadcast token op x (.value scalar.value))

/-- The tree with a stage at its root. -/
def wrap (inner : Node) : Stage → Node
  | not token => .unary .not inner token
  | call token method _ => .method method inner token
  | scalarLeft token op scalar => .binary op (.operand (.number scalar.value) token) inner token
  | scalarRight token op scalar => .binary op inner (.operand (.number scalar.value) token) token

/-- Whether a stage may give other than one item for an item. -/
def splices : Stage → Bool
  | call _ method _ => decide (method = .reduce)
  | _ => false

end Stage

/-- Stages in a row, the first one being run first. -/
abbrev Pipeline := List Stage

namespace Pipeline

/-- What a pipeline makes of a result. -/
def run : Pipeline → Evaluated → Except Interrupt Evaluated
  | [], x => .ok x
  | stage :: rest, x => do
    let y ← stage.run x
    run rest y

/-- The tree of a pipeline over a tree. -/
def wrap : Pipeline → Node → Node
  | [], inner => inner
  | stage :: rest, inner => wrap rest (stage.wrap inner)

end Pipeline

variable {items : List ResultItem} {token : Token} {r s : Evaluated → Except Interrupt Evaluated}
  {f g : ResultItem → List ResultItem}

theorem eval_stage_wrap (stage : Stage) (inner : Node) (record : Value) :
    (stage.wrap inner).eval record = inner.eval record >>= fun x => stage.run x := by
  cases stage <;> rfl

/-- **A pipeline computes what the tree of its stages does.** -/
theorem eval_wrap (pipeline : Pipeline) (inner : Node) (record : Value) :
    (pipeline.wrap inner).eval record = inner.eval record >>= pipeline.run := by
  induction pipeline generalizing inner with
  | nil => cases h : inner.eval record <;> rw [Pipeline.wrap, h] <;> rfl
  | cons stage rest ih =>
    rw [Pipeline.wrap, ih, eval_stage_wrap, bind_assoc]
    rfl

/-! ## Acting item by item -/

/-- The computation came to a result with these items. -/
def Drains (result : Except Interrupt Evaluated) (items : List ResultItem) : Prop :=
  ∃ x, result = .ok x ∧ x.view = .items items

theorem drains_sequence : Drains (.ok (.sequence items)) items := ⟨_, rfl, rfl⟩

/-- Each item gives its own items, whatever stands around it; an item that failed stays as it is. -/
structure ActsByItem (run : Evaluated → Except Interrupt Evaluated)
    (onItem : ResultItem → List ResultItem) : Prop where
  drains : ∀ x items, x.view = .items items → Drains (run x) (items.flatMap onItem)
  failed : ∀ e, onItem (.error e) = [.error e]

/-- Whether each item gives one item. -/
def KeepsCount (onItem : ResultItem → List ResultItem) : Prop := ∀ item, (onItem item).length = 1

/-- What an operation does to one item after the other. -/
theorem actsByItem_map {h : ResultItem → ResultItem}
    (hrun : ∀ x items, x.view = .items items → r x = .ok (.sequence (items.map h)))
    (hfailed : ∀ e, h (.error e) = .error e) : ActsByItem r fun item => [h item] where
  drains x items hx := by
    rw [hrun x items hx, ← List.map_eq_flatMap]
    exact drains_sequence
  failed e := by rw [hfailed]

theorem actsByItem_negate : ActsByItem (fun x => .ok (negate x)) fun item => [negateItem item] :=
  actsByItem_map (fun x items hx => by rw [negate, hx]) fun _ => rfl

theorem actsByItem_texts {method : Method} {apply : String → Value} :
    ActsByItem (fun x => orInterrupt (applyToTexts token method apply x))
      fun item => [applyToTextItem token method apply item] :=
  actsByItem_map (fun x items hx => by rw [applyToTexts, hx, orInterrupt]) fun _ => rfl

theorem actsByItem_flatten :
    ActsByItem (fun x => orInterrupt (flatten token x)) (flattenItem token) where
  drains x items hx := by
    rw [flatten, hx]
    exact drains_sequence
  failed _ := rfl

theorem actsByItem_scalarLeft {op : BinaryOp} (scalar : Scalar) :
    ActsByItem (fun x => orInterrupt (broadcast token op (.value scalar.value) x)) fun item =>
      [applyToItem (op.settled? scalar.value) (applyBinary token op scalar.value) item] :=
  actsByItem_map (fun x items hx => by rw [broadcast, scalar.view_eq, hx, orInterrupt]) fun _ => rfl

theorem actsByItem_scalarRight {op : BinaryOp} (scalar : Scalar) :
    ActsByItem (fun x => orInterrupt (broadcast token op x (.value scalar.value))) fun item =>
      [applyToItem (op.settled? scalar.value) (applyBinary token op · scalar.value) item] :=
  actsByItem_map (fun x items hx => by rw [broadcast, scalar.view_eq, hx, orInterrupt]) fun _ => rfl

/-- **Every stage acts item by item**, and only `reduce` changes the number of items. -/
theorem actsByItem_stage (stage : Stage) :
    ∃ onItem, ActsByItem (fun x => stage.run x) onItem ∧
      (stage.splices = false → KeepsCount onItem) := by
  cases stage with
  | not token => exact ⟨_, actsByItem_negate, fun _ _ => rfl⟩
  | scalarLeft token op scalar => exact ⟨_, actsByItem_scalarLeft scalar, fun _ _ => rfl⟩
  | scalarRight token op scalar => exact ⟨_, actsByItem_scalarRight scalar, fun _ _ => rfl⟩
  | call token method htreats =>
    cases method with
    | split => exact ⟨_, actsByItem_texts, fun _ _ => rfl⟩
    | lower => exact ⟨_, actsByItem_texts, fun _ _ => rfl⟩
    | upper => exact ⟨_, actsByItem_texts, fun _ _ => rfl⟩
    | reduce => exact ⟨_, actsByItem_flatten, fun h => by cases h⟩
    | _ => cases htreats

/-- Two operations in a row: the items of an item are treated one by one again. -/
theorem ActsByItem.comp (hr : ActsByItem r f) (hs : ActsByItem s g) :
    ActsByItem (fun x => r x >>= s) fun item => (f item).flatMap g where
  drains x items hx := by
    obtain ⟨y, hy, hitems⟩ := hr.drains x items hx
    rw [hy, ← List.flatMap_assoc]
    exact hs.drains y _ hitems
  failed e := by rw [hr.failed, List.flatMap_singleton, hs.failed]

theorem KeepsCount.comp (hf : KeepsCount f) (hg : KeepsCount g) :
    KeepsCount fun item => (f item).flatMap g := by
  intro item
  obtain ⟨y, hy⟩ := List.length_eq_one_iff.1 (hf item)
  show ((f item).flatMap g).length = 1
  rw [hy, List.flatMap_singleton, hg]

theorem KeepsCount.length_flatMap (hf : KeepsCount f) (items : List ResultItem) :
    (items.flatMap f).length = items.length := by
  induction items with
  | nil => rfl
  | cons item items ih =>
    rw [List.flatMap_cons, List.length_append, hf, ih, List.length_cons, Nat.add_comm]

/-! ## Pipelines -/

namespace Pipeline

/-- **Every pipeline acts item by item**, by induction on its stages. -/
theorem actsByItem (pipeline : Pipeline) :
    ∃ onItem, ActsByItem pipeline.run onItem ∧
      ((∀ stage ∈ pipeline, stage.splices = false) → KeepsCount onItem) := by
  induction pipeline with
  | nil =>
    refine ⟨fun item => [item], ⟨fun x items hx => ?_, fun _ => rfl⟩, fun _ _ => rfl⟩
    rw [List.flatMap_singleton']
    exact ⟨x, rfl, hx⟩
  | cons stage rest ih =>
    obtain ⟨f, hstage, hone⟩ := actsByItem_stage stage
    obtain ⟨g, hrest, hall⟩ := ih
    refine ⟨fun item => (f item).flatMap g, hstage.comp hrest, fun h => ?_⟩
    obtain ⟨hs, hr⟩ := List.forall_mem_cons.1 h
    exact (hone hs).comp (hall hr)

/-- A pipeline keeps lists of items apart. -/
structure Separates (pipeline : Pipeline) : Prop where
  /-- What comes of two lists together is what comes of the one and then what comes of the other. -/
  append : ∀ xs ys, ∃ us vs, Drains (pipeline.run (.sequence xs)) us ∧
    Drains (pipeline.run (.sequence ys)) vs ∧
    Drains (pipeline.run (.sequence (xs ++ ys))) (us ++ vs)
  /-- What comes of an item hangs on this item alone. -/
  item : ∃ onItem : ResultItem → List ResultItem,
    (∀ item, Drains (pipeline.run (.sequence [item])) (onItem item)) ∧
    ∀ x items, x.view = .items items → Drains (pipeline.run x) (items.flatMap onItem)
  /-- An item that failed fails in its own place only. -/
  failed : ∀ xs e ys, ∃ us vs, Drains (pipeline.run (.sequence xs)) us ∧
    Drains (pipeline.run (.sequence ys)) vs ∧
    Drains (pipeline.run (.sequence (xs ++ .error e :: ys))) (us ++ .error e :: vs)
  /-- Without `reduce` there are as many items as before. -/
  length : (∀ stage ∈ pipeline, stage.splices = false) → ∀ xs, ∃ us,
    Drains (pipeline.run (.sequence xs)) us ∧ us.length = xs.length
  /-- And all of this is what trees of such operations compute. -/
  tree : ∀ inner record, (pipeline.wrap inner).eval record = inner.eval record >>= pipeline.run

/-- **A pipeline makes of two lists together what it makes of each of them.** -/
theorem separates (pipeline : Pipeline) : pipeline.Separates := by
  obtain ⟨onItem, hacts, hcount⟩ := pipeline.actsByItem
  have hdrains : ∀ xs, Drains (pipeline.run (.sequence xs)) (xs.flatMap onItem) :=
    fun xs => hacts.drains _ xs rfl
  exact {
    append := fun xs ys => ⟨_, _, hdrains xs, hdrains ys, List.flatMap_append ▸ hdrains (xs ++ ys)⟩
    item := by
      refine ⟨onItem, fun item => ?_, hacts.drains⟩
      rw [← List.flatMap_singleton onItem item]
      exact hdrains [item]
    failed := fun xs e ys => by
      refine ⟨_, _, hdrains xs, hdrains ys, ?_⟩
      have hall := hdrains (xs ++ .error e :: ys)
      rwa [List.flatMap_append, List.flatMap_cons, hacts.failed] at hall
    length := fun h xs => ⟨_, hdrains xs, (hcount h).length_flatMap xs⟩
    tree := eval_wrap pipeline }

end Pipeline

end RecordQuery

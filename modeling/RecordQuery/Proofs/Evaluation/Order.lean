import RecordQuery.Proofs.Evaluation.Printing
import RecordQuery.Proofs.Filtering.Policies

/-!
# The order of a computation

A tree is computed in post-order: the operands of a node before the node, the left one before the
right one.  No node is passed over, so the first node at which something goes wrong decides what
the tree comes to, and if it is a call of `print`, this is the value of its operand.

* `Node.postorder` — the nodes of a tree in this order;
* `Node.interrupt?` — what interrupts the computation at a node itself, its operands having results;
* `interruption?_eval` — **a tree is interrupted by the first of its nodes that interrupts**;
* `interrupt?_eq_print_iff` — a call of `print` interrupts with the value of its operand;
* `prints_in_order` — what comes of a tree with calls of `print`, and of a filter with such a tree.
-/

namespace RecordQuery

/-! ## What interrupts a computation -/

/-- What interrupted a computation, if anything did. -/
def interruption? {α : Type} : Except Interrupt α → Option Interrupt
  | .ok _ => none
  | .error i => some i

/-- The outcome of a computation that was interrupted. -/
def Interrupt.outcome : Interrupt → Outcome
  | print v => .print v
  | failure e => .failure e

namespace Node

/-- The nodes of a tree, operands in front of their node and the left one in front of the right. -/
def postorder : Node → List Node
  | operand leaf token => [operand leaf token]
  | method m argument token => argument.postorder ++ [method m argument token]
  | unary op inner token => inner.postorder ++ [unary op inner token]
  | binary op left right token =>
    left.postorder ++ (right.postorder ++ [binary op left right token])
  | keyword k pattern field token => [keyword k pattern field token]

/-- What interrupts a computation at a node itself: nothing does while an operand has no result. -/
def interrupt? (record : Value) : Node → Option Interrupt
  | operand _ _ => none
  | method m argument token =>
    match argument.eval record with
    | .ok x => interruption? (applyMethod token m x)
    | .error _ => none
  | unary _ _ _ => none
  | binary op left right token =>
    match left.eval record, right.eval record with
    | .ok x, .ok y => interruption? (orInterrupt (broadcast token op x y))
    | _, _ => none
  | keyword .foundIn pattern field token =>
    interruption? (orInterrupt (searchIn token pattern (field.eval record)))

/-- The node is a call of `print`, and its operand has a result with this value. -/
def Prints (record : Value) (node : Node) (v : Value) : Prop :=
  ∃ argument token x, node = .method .print argument token ∧ argument.eval record = .ok x ∧
    x.toValue = .ok v

/-- The first node, in post-order, that interrupts the computation of a tree. -/
def firstInterrupting? (tree : Node) (record : Value) : Option Node :=
  tree.postorder.find? fun node => (node.interrupt? record).isSome

variable {tree node argument : Node} {record v : Value} {x : Evaluated} {i : Interrupt}
  {token : Token} {method : Method}

/-! ## The first node that interrupts -/

theorem interruption?_map {α β : Type} (r : Except EvalError α) (f : α → β) :
    interruption? (orInterrupt (r.map f)) = interruption? (orInterrupt r) := by
  cases r <;> rfl

/-- **A tree is interrupted by the first of its nodes that interrupts**, in post-order. -/
theorem interruption?_eval (tree : Node) (record : Value) :
    interruption? (tree.eval record) = tree.postorder.findSome? (interrupt? record) := by
  induction tree with
  | operand leaf token => rfl
  | method m argument token ih =>
    rw [eval, postorder, List.findSome?_append, ← ih, List.findSome?_singleton, interrupt?]
    cases argument.eval record <;> rfl
  | unary op inner token ih =>
    cases op
    rw [eval, postorder, List.findSome?_append, ← ih, List.findSome?_singleton, interrupt?]
    cases inner.eval record <;> rfl
  | binary op left right token ihl ihr =>
    rw [eval, postorder, List.findSome?_append, List.findSome?_append, ← ihl, ← ihr,
      List.findSome?_singleton, interrupt?]
    cases left.eval record with
    | error i => rfl
    | ok x => cases right.eval record <;> rfl
  | keyword k pattern field token =>
    cases k
    rw [eval, postorder, List.findSome?_singleton, interrupt?]
    exact interruption?_map _ _

theorem interruption?_of_first (h : tree.firstInterrupting? record = some node) :
    ∃ i, node.interrupt? record = some i ∧ interruption? (tree.eval record) = some i := by
  obtain ⟨hnode, before, behind, hsplit, hbefore⟩ := List.find?_eq_some_iff_append.1 h
  obtain ⟨i, hi⟩ := Option.isSome_iff_exists.1 hnode
  have hquiet : ∀ n ∈ before, n.interrupt? record = none := fun n hn => by simpa using hbefore n hn
  rw [interruption?_eval]
  exact ⟨i, hi, List.findSome?_eq_some_iff.2 ⟨before, node, behind, hsplit, hi, hquiet⟩⟩

theorem interruption?_of_first_none (h : tree.firstInterrupting? record = none) :
    interruption? (tree.eval record) = none := by
  rw [interruption?_eval, List.findSome?_eq_none_iff]
  exact fun n hn => by simpa using List.find?_eq_none.1 h n hn

/-! ## Calls of `print` -/

theorem interruption?_eq_some_iff {α : Type} {r : Except Interrupt α} :
    interruption? r = some i ↔ r = .error i := by
  cases r <;> simp [interruption?]

/-- **Only a call of `print` interrupts with a value**, and then with that of its operand. -/
theorem interrupt?_eq_print_iff :
    node.interrupt? record = some (.print v) ↔ node.Prints record v := by
  cases node with
  | operand leaf token => simp [interrupt?, Prints]
  | method m argument token =>
    rw [interrupt?]
    constructor
    · intro h
      cases hx : argument.eval record with
      | error i =>
        rw [hx] at h
        cases h
      | ok x =>
        rw [hx] at h
        obtain ⟨rfl, hv⟩ := applyMethod_eq_print_iff.1 (interruption?_eq_some_iff.1 h)
        exact ⟨argument, token, x, rfl, hx, hv⟩
    · rintro ⟨_, _, x, hnode, hx, hv⟩
      cases hnode
      rw [hx]
      exact interruption?_eq_some_iff.2 (applyMethod_eq_print_iff.2 ⟨rfl, hv⟩)
  | unary op inner token => simp [interrupt?, Prints]
  | binary op left right token =>
    rw [interrupt?]
    cases left.eval record with
    | error i => simp [Prints]
    | ok x =>
      cases right.eval record <;>
        simp [Prints, interruption?_eq_some_iff, orInterrupt_ne_print]
  | keyword k pattern field token =>
    cases k
    simp [interrupt?, Prints, interruption?_eq_some_iff, orInterrupt_ne_print]

/-! ## Outcomes -/

theorem compute_of_interruption (h : interruption? (tree.eval record) = some i) :
    tree.compute record = i.outcome := by
  rw [compute, interruption?_eq_some_iff.1 h]
  cases i <;> rfl

end Node

/-- What calls of `print` do to a tree, and to a filter with this tree. -/
structure Node.PrintsInOrder (tree : Node) : Prop where
  /-- A tree with such a call has no value on any record: some node interrupts. -/
  interrupted : tree.hasPrint = true → ∀ record,
    (∃ node, tree.firstInterrupting? record = some node) ∧ ∀ x, tree.compute record ≠ .value x
  /-- The first node that interrupts decides: what it prints is printed, and otherwise the failure
  is its own. -/
  decided : ∀ record node, tree.firstInterrupting? record = some node →
    (∀ v, node.Prints record v → tree.compute record = .print v) ∧
      ((∀ v, ¬ node.Prints record v) →
        ∃ e, node.interrupt? record = some (.failure e) ∧ tree.compute record = .failure e)
  /-- So no later call supplies what is printed. -/
  supplied : ∀ record v, tree.compute record = .print v →
    ∃ node, tree.firstInterrupting? record = some node ∧ node.Prints record v
  /-- No operator passes over a call in one of its operands. -/
  operands : ∀ op left right token, tree = .binary op left right token →
    left.hasPrint = true ∨ right.hasPrint = true → ∀ record x, tree.compute record ≠ .value x
  silent : tree.hasPrint = false → ∀ record v, tree.compute record ≠ .print v
  /-- A filter with such a call keeps no record, whatever its policy. -/
  filter : tree.hasPrint = true → ∀ source policy records kept,
    Query.filter ⟨source, some tree⟩ policy records = .ok kept → kept = []

namespace Node

variable {tree node : Node} {record v : Value} {records : List Value} {policy : ErrorPolicy}
  {source : String} {kept : List (ℕ × Value)}

/-- What has no result was interrupted somewhere. -/
theorem exists_first (h : ∀ x, tree.eval record ≠ .ok x) :
    ∃ node, tree.firstInterrupting? record = some node := by
  cases hf : tree.firstInterrupting? record with
  | some node => exact ⟨node, rfl⟩
  | none =>
    have hnone := interruption?_of_first_none hf
    cases he : tree.eval record with
    | ok x => exact absurd he (h x)
    | error i =>
      rw [he] at hnone
      cases hnone

theorem compute_of_first (h : tree.firstInterrupting? record = some node) :
    (∀ v, node.Prints record v → tree.compute record = .print v) ∧
      ((∀ v, ¬ node.Prints record v) →
        ∃ e, node.interrupt? record = some (.failure e) ∧ tree.compute record = .failure e) := by
  obtain ⟨i, hi, hinterrupted⟩ := interruption?_of_first h
  have hcompute := compute_of_interruption hinterrupted
  constructor
  · intro v hv
    cases hi.symm.trans (interrupt?_eq_print_iff.2 hv)
    exact hcompute
  · intro hnot
    cases i with
    | print v => exact absurd (interrupt?_eq_print_iff.1 hi) (hnot v)
    | failure e => exact ⟨e, hi, hcompute⟩

theorem exists_first_of_print (h : tree.compute record = .print v) :
    ∃ node, tree.firstInterrupting? record = some node ∧ node.Prints record v := by
  have hresult : ∀ x, tree.eval record ≠ .ok x := by
    intro x he
    cases h.symm.trans (compute_eq_value_iff.2 he)
  obtain ⟨node, hf⟩ := exists_first hresult
  obtain ⟨hprint, hfail⟩ := compute_of_first hf
  by_cases hp : ∃ w, node.Prints record w
  · obtain ⟨w, hw⟩ := hp
    cases h.symm.trans (hprint w hw)
    exact ⟨node, hf, hw⟩
  · obtain ⟨e, _, he⟩ := hfail fun w hw => hp ⟨w, hw⟩
    cases h.symm.trans he

/-- A filter keeps no record of which the query never comes to a value. -/
theorem filter_eq_nil (h : ∀ record x, tree.compute record ≠ .value x)
    (hk : Query.filter ⟨source, some tree⟩ policy records = .ok kept) : kept = [] := by
  have hnever : ∀ record, Query.keeps ⟨source, some tree⟩ record = false := by
    intro record
    rw [Bool.eq_false_iff, ne_eq, Query.keeps_eq_true_iff]
    simp only [Query.isMatch, Query.check, Query.evaluate]
    cases hc : tree.compute record with
    | value x => exact absurd hc (h record x)
    | print v => simp
    | failure e => simp
  obtain ⟨_, rfl⟩ := Query.filterFrom_eq_ok_iff.1 hk
  simp [Query.keptFrom, hnever]

/-- **`print` is never skipped.**  The first node in post-order that interrupts decides what a tree
comes to, and with a call of `print` some node does. -/
theorem prints_in_order (tree : Node) : tree.PrintsInOrder where
  interrupted h record := ⟨exists_first fun _ => eval_ne_ok h, fun _ => compute_ne_value h⟩
  decided _ _ h := compute_of_first h
  supplied _ _ h := exists_first_of_print h
  operands _ _ _ _ htree h record x := by
    subst htree
    exact compute_ne_value (Bool.or_eq_true_iff.2 h)
  silent h _ _ := compute_ne_print h
  filter h _ _ _ _ hk := filter_eq_nil (fun _ _ => compute_ne_value h) hk

end Node

end RecordQuery

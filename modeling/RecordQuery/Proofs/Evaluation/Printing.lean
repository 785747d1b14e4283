import RecordQuery.Proofs.Evaluation.Strict

/-!
# Trees that print

Every node of a tree is computed, so a call of `print` is always reached unless something failed
before it.

* `Node.hasPrint` — some node of the tree is a call of `print`;
* `compute_ne_value` — **a tree with such a node never comes to a value**;
* `compute_ne_print` — all other trees never print.
-/

namespace RecordQuery

/-- Whether some node of a tree is a call of `print`. -/
def Node.hasPrint : Node → Bool
  | operand _ _ => false
  | method m argument _ => decide (m = .print) || argument.hasPrint
  | unary _ inner _ => inner.hasPrint
  | binary _ left right _ => left.hasPrint || right.hasPrint
  | keyword _ _ _ _ => false

variable {tree : Node} {record v : Value} {x y : Evaluated} {token : Token} {method : Method}

theorem applyMethod_print_ne_ok : applyMethod token .print x ≠ .ok y := by
  rw [applyMethod]
  cases x.toValue <;> intro h <;> cases h

/-- Only `print` itself prints. -/
theorem applyMethod_ne_print (hm : method ≠ .print) :
    applyMethod token method x ≠ .error (.print v) := by
  cases method with
  | print => exact absurd rfl hm
  | _ => exact orInterrupt_ne_print

/-- And `print` prints the value of its operand, if there is one. -/
theorem applyMethod_eq_print_iff :
    applyMethod token method x = .error (.print v) ↔ method = .print ∧ x.toValue = .ok v := by
  by_cases hm : method = .print
  · rw [hm, applyMethod]
    cases x.toValue <;> simp
  · simp [hm, applyMethod_ne_print hm]

theorem eval_ne_ok (h : tree.hasPrint = true) : tree.eval record ≠ .ok x := by
  induction tree generalizing x with
  | operand leaf token => cases h
  | method m argument token ih =>
    rw [Node.eval]
    intro he
    obtain ⟨y, hy, he⟩ := Except.bind_eq_ok_iff.1 he
    rcases Bool.or_eq_true_iff.1 h with hm | ha
    · rw [of_decide_eq_true hm] at he
      exact applyMethod_print_ne_ok he
    · exact ih ha hy
  | unary op inner token ih =>
    cases op
    rw [Node.eval]
    intro he
    obtain ⟨y, hy, _⟩ := Except.bind_eq_ok_iff.1 he
    exact ih h hy
  | binary op left right token ihl ihr =>
    rw [Node.eval]
    intro he
    obtain ⟨y, hy, he⟩ := Except.bind_eq_ok_iff.1 he
    obtain ⟨z, hz, _⟩ := Except.bind_eq_ok_iff.1 he
    rcases Bool.or_eq_true_iff.1 h with hl | hr
    · exact ihl hl hy
    · exact ihr hr hz
  | keyword k pattern field token => cases h

theorem eval_ne_print (h : tree.hasPrint = false) : tree.eval record ≠ .error (.print v) := by
  induction tree with
  | operand leaf token => exact fun he => by cases he
  | method m argument token ih =>
    obtain ⟨hm, ha⟩ := Bool.or_eq_false_iff.1 h
    rw [Node.eval]
    intro he
    rcases Except.bind_eq_error_iff.1 he with he | ⟨x, _, he⟩
    · exact ih ha he
    · exact applyMethod_ne_print (of_decide_eq_false hm) he
  | unary op inner token ih =>
    cases op
    rw [Node.eval]
    intro he
    rcases Except.bind_eq_error_iff.1 he with he | ⟨x, _, he⟩
    · exact ih h he
    · cases he
  | binary op left right token ihl ihr =>
    obtain ⟨hl, hr⟩ := Bool.or_eq_false_iff.1 h
    rw [Node.eval]
    intro he
    rcases Except.bind_eq_error_iff.1 he with he | ⟨x, _, he⟩
    · exact ihl hl he
    rcases Except.bind_eq_error_iff.1 he with he | ⟨y, _, he⟩
    · exact ihr hr he
    · exact orInterrupt_ne_print he
  | keyword k pattern field token =>
    cases k
    exact orInterrupt_ne_print

theorem compute_eq_value_iff : tree.compute record = .value x ↔ tree.eval record = .ok x := by
  unfold Node.compute
  rcases tree.eval record with (v | e) | y <;> simp

theorem compute_eq_print_iff :
    tree.compute record = .print v ↔ tree.eval record = .error (.print v) := by
  unfold Node.compute
  rcases tree.eval record with (w | e) | y <;> simp

/-- **A tree with a call of `print` never comes to a value.** -/
theorem compute_ne_value (h : tree.hasPrint = true) : tree.compute record ≠ .value x :=
  fun hc => eval_ne_ok h (compute_eq_value_iff.1 hc)

/-- A tree without a call of `print` never prints. -/
theorem compute_ne_print (h : tree.hasPrint = false) : tree.compute record ≠ .print v :=
  fun hc => eval_ne_print h (compute_eq_print_iff.1 hc)

end RecordQuery

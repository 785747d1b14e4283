import RecordQuery.Proofs.Evaluation.Forcing

/-!
# Strict evaluation

The results of trees are sequences whose items may have failed, and an item that nobody asks for
does no harm.  A **strict** evaluator asks for every item at once: it turns the result of each
node into a value, and fails where that fails.

* `Node.evalStrict` — the strict evaluator;
* `Agrees`, `agrees_bind` — what is kept from the strict evaluator, and that steps compose;
* `agrees_eval` — every tree agrees with its strict form;
* `compute_of_evalStrict` — **what the strict evaluator returns or prints, a tree comes to**.

So to leave items alone never changes an answer; it only avoids failures.
-/

namespace RecordQuery

/-! ## The strict evaluator -/

/-- The value of what was computed. -/
def settle (result : Except Interrupt Evaluated) : Except Interrupt Value := do
  let x ← result
  orInterrupt x.toValue

/-- The value of a tree on a record, every node of it being turned into a value at once. -/
def Node.evalStrict (record : Value) : Node → Except Interrupt Value
  | operand leaf _ => settle (.ok (leaf.eval record))
  | method m argument token => do
    let v ← evalStrict record argument
    settle (applyMethod token m (.value v))
  | unary .not inner _ => do
    let v ← evalStrict record inner
    settle (.ok (negate (.value v)))
  | binary op left right token => do
    let a ← evalStrict record left
    let b ← evalStrict record right
    settle (orInterrupt (broadcast token op (.value a) (.value b)))
  | keyword .foundIn pattern field token =>
    settle (orInterrupt ((searchIn token pattern (field.eval record)).map .ofBool))

variable {v w : Value} {x y : Evaluated}

/-! ## Trees -/

/-- What the strict computation returns, the other one returns too, once its items are asked for;
and what the strict one prints, the other one prints. -/
def Agrees (strict : Except Interrupt Value) (result : Except Interrupt Evaluated) : Prop :=
  (∀ v, strict = .ok v → ∃ x, result = .ok x ∧ x.toValue = .ok v) ∧
  (∀ v, strict = .error (.print v) → result = .error (.print v))

theorem orInterrupt_ne_print {α : Type} {r : Except EvalError α} :
    orInterrupt r ≠ .error (.print v) := by
  cases r <;> intro h <;> cases h

theorem agrees_bind {strict : Except Interrupt Value} {result : Except Interrupt Evaluated}
    {f : Value → Except Interrupt Value} {g : Evaluated → Except Interrupt Evaluated}
    (h : Agrees strict result) (hf : ∀ v x, x.toValue = .ok v → Agrees (f v) (g x)) :
    Agrees (strict >>= f) (result >>= g) := by
  cases strict with
  | ok v =>
    obtain ⟨x, rfl, hx⟩ := h.1 v rfl
    exact hf v x hx
  | error i =>
    refine ⟨?_, ?_⟩
    · intro v hv
      cases hv
    · intro v hv
      cases hv
      rw [h.2 v rfl]
      rfl

/-- A step that never prints agrees with its strict form as soon as it keeps the value. -/
theorem agrees_orInterrupt {strict result : Except EvalError Evaluated}
    (h : ∀ w, forced strict = .ok w → forced result = .ok w) :
    Agrees (settle (orInterrupt strict)) (orInterrupt result) := by
  cases strict with
  | error e =>
    refine ⟨?_, ?_⟩ <;> intro v hv <;> cases hv
  | ok y =>
    refine ⟨?_, fun v hv => absurd hv orInterrupt_ne_print⟩
    intro v hv
    have hy : y.toValue = .ok v := by
      change orInterrupt y.toValue = .ok v at hv
      cases hy : y.toValue with
      | ok u =>
        rw [hy] at hv
        cases hv
        rfl
      | error e =>
        rw [hy] at hv
        cases hv
    obtain ⟨x, rfl, hx⟩ := Except.bind_eq_ok_iff.1 (h v hy)
    exact ⟨x, rfl, hx⟩

theorem agrees_applyMethod {token : Token} (method : Method) (h : x.toValue = .ok v) :
    Agrees (settle (applyMethod token method (.value v))) (applyMethod token method x) := by
  cases method with
  | len => exact agrees_orInterrupt fun w hw => by rwa [size_of_toValue h]
  | split => exact agrees_orInterrupt fun w hw => forced_applyToTexts h hw
  | any => exact agrees_orInterrupt fun w hw => by rwa [anyOf_of_toValue h]
  | all => exact agrees_orInterrupt fun w hw => by rwa [allOf_of_toValue h]
  | lower => exact agrees_orInterrupt fun w hw => forced_applyToTexts h hw
  | upper => exact agrees_orInterrupt fun w hw => forced_applyToTexts h hw
  | reduce => exact agrees_orInterrupt fun w hw => forced_flatten h hw
  | print =>
    rw [applyMethod, applyMethod, toValue_value, h]
    refine ⟨?_, ?_⟩
    · intro w hw
      cases hw
    · intro w hw
      cases hw
      rfl

/-- **Evaluation agrees with strict evaluation**, by recursion on the tree. -/
theorem agrees_eval (record : Value) (tree : Node) :
    Agrees (tree.evalStrict record) (tree.eval record) := by
  induction tree with
  | operand leaf token =>
    show Agrees (settle (orInterrupt (.ok (leaf.eval record)))) (orInterrupt (.ok _))
    exact agrees_orInterrupt fun w hw => hw
  | method m argument token ih =>
    exact agrees_bind ih fun v x hx => agrees_applyMethod m hx
  | unary op inner token ih =>
    cases op
    exact agrees_bind ih fun v x hx => agrees_orInterrupt fun w hw => forced_negate hx hw
  | binary op left right token ihl ihr =>
    refine agrees_bind ihl fun a x hx => agrees_bind ihr fun b y hy => ?_
    exact agrees_orInterrupt fun w hw => forced_broadcast hx hy hw
  | keyword k pattern field token =>
    cases k
    exact agrees_orInterrupt fun w hw => hw

/-- **To leave items alone never changes an answer.**  Where the strict evaluator returns a value,
the tree comes to a result with this value; where it prints, the tree prints the same; and where
the tree comes to a result that has a value, the strict evaluator returns it or fails. -/
theorem compute_of_evalStrict (tree : Node) (record : Value) :
    (∀ v, tree.evalStrict record = .ok v →
      ∃ x, tree.compute record = .value x ∧ x.toValue = .ok v) ∧
    (∀ v, tree.evalStrict record = .error (.print v) → tree.compute record = .print v) ∧
    (∀ x v, tree.compute record = .value x → x.toValue = .ok v →
      tree.evalStrict record = .ok v ∨ ∃ e, tree.evalStrict record = .error (.failure e)) := by
  obtain ⟨hvalue, hprint⟩ := agrees_eval record tree
  have hcompute : ∀ v, tree.evalStrict record = .ok v →
      ∃ x, tree.compute record = .value x ∧ x.toValue = .ok v := by
    intro v hv
    obtain ⟨x, he, hx⟩ := hvalue v hv
    exact ⟨x, by rw [Node.compute, he], hx⟩
  have hprinted : ∀ v, tree.evalStrict record = .error (.print v) →
      tree.compute record = .print v := by
    intro v hv
    rw [Node.compute, hprint v hv]
  refine ⟨hcompute, hprinted, ?_⟩
  intro x v hx hv
  cases hs : tree.evalStrict record with
  | ok w =>
    obtain ⟨y, hy, hw⟩ := hcompute w hs
    cases hx.symm.trans hy
    cases hv.symm.trans hw
    exact .inl rfl
  | error i =>
    cases i with
    | print w => cases hx.symm.trans (hprinted w hs)
    | failure e => exact .inr ⟨e, rfl⟩

end RecordQuery

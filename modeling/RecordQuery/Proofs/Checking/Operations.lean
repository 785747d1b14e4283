import Mathlib.Data.Nat.Notation

/-!
# Operations with a condition

Work on one list with indices takes operations that are not defined everywhere: an index must lie in
its list, and what is subtracted must not be larger than what it is subtracted from.  A **checked**
operation tests its condition and has no result where it fails.  So a computation from checked
operations has a result just if every one of them is defined where it is used.

* `Checked` — computations from checked operations, which may also fail with an error of their own;
* `minus?`, `slice?`, `insert?` — the checked operations; `xs[i]?` is one already;
* `slice?_append`, `insert?_append`, … — what they give between two parts of a list.
-/

namespace RecordQuery

/-- A computation from checked operations, which may also fail with an error. -/
abbrev Checked (ε α : Type) := ExceptT ε Option α

namespace Checked

variable {ε ε' α β : Type} {a b start : ℕ}

/-- The difference of two numbers. -/
def minus? (a b : ℕ) : Option ℕ := if b ≤ a then some (a - b) else none

/-- The part of a list from a place up to another one. -/
def slice? (xs : List α) (start stop : ℕ) : Option (List α) :=
  if start ≤ stop ∧ stop ≤ xs.length then some ((xs.drop start).take (stop - start)) else none

/-- The list with an item put in front of a place. -/
def insert? (xs : List α) (index : ℕ) (x : α) : Option (List α) :=
  if index ≤ xs.length then some (xs.take index ++ x :: xs.drop index) else none

/-! ## Computations in which every operation is defined -/

/-- The computation with this result: none of its operations fails. -/
def of (result : Except ε α) : Checked ε α := ExceptT.mk (some result)

/-- The result of an operation that must be defined. -/
def need (result : Option α) : Checked ε α := ExceptT.mk (result.map .ok)

/-- Goes on behind a computation, with its result or with its error. -/
def settle (computation : Checked ε α) (next : Except ε α → Checked ε' β) : Checked ε' β :=
  match computation.run with
  | some result => next result
  | none => need none

@[simp] theorem run_of (result : Except ε α) : (of result).run = some result := rfl

@[simp] theorem need_some_bind (x : α) (next : α → Checked ε β) :
    (need (some x) >>= next) = next x := rfl

@[simp] theorem settle_of (result : Except ε α) (next : Except ε α → Checked ε' β) :
    (of result).settle next = next result := rfl

theorem of_bind {result : Except ε α} {next : α → Checked ε β} {follow : α → Except ε β}
    (h : ∀ x, next x = of (follow x)) : (of result >>= next) = of (result >>= follow) := by
  cases result with
  | ok x => exact h x
  | error e => rfl

/-! ## What the operations give -/

theorem minus?_of_le (h : b ≤ a) : minus? a b = some (a - b) := if_pos h

theorem minus?_add (a b : ℕ) : minus? (a + b) b = some a := by
  rw [minus?_of_le (Nat.le_add_left b a), Nat.add_sub_cancel]

variable {xs : List α}

theorem slice?_append (before word behind : List α) :
    slice? (before ++ (word ++ behind)) before.length (before.length + word.length) =
      some word := by
  rw [slice?, if_pos]
  · rw [Nat.add_sub_cancel_left, List.drop_left, List.take_left]
  · simp only [List.length_append]
    omega

/-- What is left of a list from a place on. -/
theorem slice?_drop (h : start ≤ xs.length) : slice? xs start xs.length = some (xs.drop start) := by
  rw [slice?, if_pos ⟨h, Nat.le_refl _⟩, ← List.length_drop, List.take_length]

theorem slice?_take (h : start ≤ xs.length) : slice? xs 0 start = some (xs.take start) := by
  rw [slice?, if_pos ⟨Nat.zero_le _, h⟩]
  rfl

theorem getElem?_between (before behind : List α) (x : α) :
    (before ++ x :: behind)[before.length]? = some x := by
  rw [List.getElem?_append_right (Nat.le_refl _), Nat.sub_self, List.getElem?_cons_zero]

theorem eraseIdx_between (before behind : List α) (x : α) :
    (before ++ x :: behind).eraseIdx before.length = before ++ behind := by
  rw [List.eraseIdx_append_of_length_le (Nat.le_refl _), Nat.sub_self, List.eraseIdx_cons_zero]

theorem insert?_append (before behind : List α) (x : α) :
    insert? (before ++ behind) before.length x = some (before ++ x :: behind) := by
  rw [insert?, if_pos (by rw [List.length_append]; exact Nat.le_add_right _ _), List.take_left,
    List.drop_left]

theorem length_insert? {ys : List α} {index : ℕ} {x : α} (h : insert? xs index x = some ys) :
    ys.length = xs.length + 1 := by
  unfold insert? at h
  split at h
  · cases h
    simp only [List.length_append, List.length_cons, List.length_take, List.length_drop]
    omega
  · cases h

end Checked

end RecordQuery

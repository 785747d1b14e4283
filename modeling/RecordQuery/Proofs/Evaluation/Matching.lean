import RecordQuery.Proofs.Evaluation.Consuming

/-!
# Matching and forcing

To ask whether a result matches is to look at its items in order, up to the first that matches or
failed; to ask for its value is to look at all of them, up to the first that failed.  So the two
meet the same error, unless the first item that matches comes before it.

* `Looks` — what a search may find, where forcing finds a value or an error;
* `looks_isMatch` — **a search finds the answer for the value, the error, or a match before it**.
-/

namespace RecordQuery

open Evaluated

/-- A search finds what forcing finds, or else a match in front of an error. -/
def Looks (found : Except EvalError Bool) (forced : Except EvalError Bool) : Prop :=
  found = forced ∨ (found = .ok true ∧ ∃ e, forced = .error e)

/-- **A search finds the answer for the value of a result, or its error, or a match before it.** -/
theorem looks_isMatch (x : Evaluated) : Looks x.isMatch (x.toValue.map Value.isMatch) := by
  cases h : x.toValue with
  | ok v => exact .inl (isMatch_of_toValue h)
  | error e =>
    obtain ⟨before, behind, hleaves⟩ := leaves_of_toValue_eq_error h
    rcases isMatch_of_leaves hleaves with ⟨hmatch, _⟩ | ⟨hmatch, _⟩
    · exact .inr ⟨hmatch, e, rfl⟩
    · exact .inl hmatch

end RecordQuery

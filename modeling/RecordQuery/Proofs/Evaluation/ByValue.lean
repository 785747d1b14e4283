import RecordQuery.Proofs.Evaluation.Comparing
import RecordQuery.Proofs.Records.Transitivity

/-!
# What comparisons compare

Equality and order have a case of their own for two integers, which they compare exactly.  Where
rounding keeps the two apart this case makes no difference: numbers of all kinds are compared as
doubles.

* `looselyEquals_iff` — **equality compares numbers as doubles**, sequences item by item, and
  everything else strictly;
* `compare?_iff` — **the order compares numbers as doubles**, texts, and sequences.
-/

namespace RecordQuery

open Double (Separates)

namespace Value

variable {S : Set ℤ} {a b : Value} {as bs : List Value}

/-- Two integers are one if they become equal doubles. -/
def Apart (a b : Value) : Prop :=
  ∀ m n, a = integer m → b = integer n → (Double.ofInt m == Double.ofInt n) = true → m = n

theorem IntegersIn.apart (hS : Separates S) (ha : a.IntegersIn S) (hb : b.IntegersIn S) :
    Apart a b := by
  rintro m n rfl rfl
  cases ha with
  | integer hm =>
    cases hb with
    | integer hn => exact hS m hm n hn

/-- What equality compares in two values: numbers as doubles, sequences item by item, and everything
else strictly. -/
inductive LooselySame : Value → Value → Prop
  | number {a b : Value} {x y : Double} (ha : a.number? = some x) (hb : b.number? = some y)
      (hxy : (x == y) = true) : LooselySame a b
  | array {as bs : List Value} (hitems : List.Forall₂ (fun a b => a.looselyEquals b = true) as bs) :
      LooselySame (array as) (array bs)
  | other {a b : Value} (ha : a.number? = none) (hnot : ∀ as bs, ¬ (a = array as ∧ b = array bs))
      (hab : (a == b) = true) : LooselySame a b

theorem SameValue.number?_eq_none_iff (h : SameValue a b) :
    a.number? = none ↔ b.number? = none := by
  cases h <;> simp [number?]

theorem SameValue.array_iff (h : SameValue a b) :
    (∃ as, a = .array as) ↔ ∃ bs, b = .array bs := by
  cases h <;> simp

theorem looselyEqualsList_eq_true_iff : looselyEqualsList as bs = true ↔
    List.Forall₂ (fun a b => a.looselyEquals b = true) as bs := by
  induction as generalizing bs with
  | nil => cases bs <;> simp [looselyEqualsList]
  | cons a as ih =>
    cases bs with
    | nil => simp [looselyEqualsList]
    | cons b bs => rw [looselyEqualsList, Bool.and_eq_true, ih, List.forall₂_cons]

theorem numericEquality_eq_true_iff (hnot : ∀ as bs, ¬ (a = array as ∧ b = array bs)) :
    numericEquality a b = true ↔ LooselySame a b := by
  unfold numericEquality
  constructor
  · intro h
    cases ha : a.number? with
    | none =>
      rw [ha] at h
      exact .other ha hnot h
    | some x =>
      cases hb : b.number? with
      | none =>
        rw [ha, hb] at h
        rw [(beq_iff_sameValue.1 h).number?_eq_none_iff.2 hb] at ha
        cases ha
      | some y =>
        rw [ha, hb] at h
        exact .number ha hb h
  · intro h
    cases h with
    | number ha hb hxy =>
      rw [ha, hb]
      exact hxy
    | array _ => exact absurd ⟨rfl, rfl⟩ (hnot _ _)
    | other ha _ hab =>
      rw [ha]
      exact hab

/-- Where rounding keeps two integers apart, numbers are compared as doubles. -/
theorem looselyEquals_iff (h : Apart a b) : a.looselyEquals b = true ↔ LooselySame a b := by
  rcases looselyEquals_cases a b with ⟨m, n, rfl, rfl⟩ | ⟨as, bs, rfl, rfl⟩ | ⟨hnot, hab, _⟩
  · rw [← numericEquality_eq_true_iff (by simp), looselyEquals, beq_iff_eq]
    show m = n ↔ (Double.ofInt m == Double.ofInt n) = true
    constructor
    · rintro rfl
      exact Double.beq_ofInt_iff.2 rfl
    · exact h m n rfl rfl
  · rw [looselyEquals, looselyEqualsList_eq_true_iff]
    constructor
    · exact .array
    · intro hsame
      cases hsame with
      | array hitems => exact hitems
      | number ha => cases ha
      | other _ hnot => exact absurd ⟨rfl, rfl⟩ (hnot as bs)
  · rw [hab]
    exact numericEquality_eq_true_iff hnot

/-! ## Order -/

/-- What the order compares in two values: numbers as doubles, texts, and sequences. -/
inductive Ordered : Value → Value → Ordering → Prop
  | number {a b : Value} {x y : Double} {order : Ordering} (ha : a.number? = some x)
      (hb : b.number? = some y) (hxy : x.compare? y = some order) : Ordered a b order
  | text (s t : String) : Ordered (text s) (text t) (compare s t)
  | array {as bs : List Value} {order : Ordering} (hitems : compareList? as bs = some order) :
      Ordered (array as) (array bs) order

theorem numericOrder?_eq_some_iff {order : Ordering} : numericOrder? a b = some order ↔
    ∃ x y, a.number? = some x ∧ b.number? = some y ∧ x.compare? y = some order := by
  unfold numericOrder?
  cases a.number? with
  | none => simp
  | some x => cases b.number? <;> simp

theorem compare?_eq_numericOrder? (h : Apart a b) (ha : a.number? ≠ none) :
    a.compare? b = numericOrder? a b := by
  cases a <;> cases b
  case integer.integer m n =>
    rw [compare?]
    exact (Double.compare?_ofInt (h m n rfl rfl)).symm
  case text.text => exact absurd rfl ha
  case array.array => exact absurd rfl ha
  all_goals
    simp only [compare?]
    rfl

/-- Where rounding keeps two integers apart, numbers are ordered as doubles. -/
theorem compare?_iff {order : Ordering} (h : Apart a b) :
    a.compare? b = some order ↔ Ordered a b order := by
  constructor
  · intro hab
    by_cases ha : a.number? = none
    · cases a <;> cases b
      case integer.integer m n => cases ha
      case text.text s t =>
        rw [compare?] at hab
        cases hab
        exact .text s t
      case array.array as bs =>
        rw [compare?] at hab
        exact .array hab
      all_goals
        simp only [compare?, ha] at hab
        cases hab
    · rw [compare?_eq_numericOrder? h ha] at hab
      obtain ⟨x, y, hx, hy, hxy⟩ := numericOrder?_eq_some_iff.1 hab
      exact .number hx hy hxy
  · intro hab
    cases hab with
    | text s t => rw [compare?]
    | array hitems => rw [compare?, hitems]
    | number hx hy hxy =>
      rw [compare?_eq_numericOrder? h (by simp [hx])]
      exact numericOrder?_eq_some_iff.2 ⟨_, _, hx, hy, hxy⟩

end Value

end RecordQuery

import RecordQuery.Eval.Broadcast
import RecordQuery.Proofs.Records.Equality
import RecordQuery.Proofs.Records.TextKeys

/-!
# Comparisons agree with each other

Equality and order are two functions, each with its own cases: the order of sequences stops at the
first difference and needs no equal length, equality looks at all items of sequences of one length.
Still they never contradict each other.

* `compare?_swap` — **to exchange two values turns their order round**;
* `looselyEquals_of_compare?` — **where there is an order, it says whether the values are equal**;
* `looselyEquals_comm` — equality is symmetric where there is no mapping;
* `comparisons_coherent` — **the comparison operators are coherent**.
-/

namespace RecordQuery

namespace Value

variable {a b : Value} {as bs : List Value} {order : Ordering}

/-- The order of two values as numbers. -/
def numericOrder? (a b : Value) : Option Ordering := do
  let x ← a.number?
  let y ← b.number?
  x.compare? y

/-- There is no mapping in the value. -/
def MappingFree (v : Value) : Prop := v.Throughout (fun _ => True) fun _ => False

/-! ## Order -/

theorem numericOrder?_swap (a b : Value) :
    (numericOrder? a b).map Ordering.swap = numericOrder? b a := by
  unfold numericOrder?
  cases a.number? with
  | none => cases b.number? <;> rfl
  | some x =>
    cases b.number? with
    | none => rfl
    | some y => exact Double.compare?_swap x y

theorem compareList?_swap
    (h : ∀ a ∈ as, ∀ b, (a.compare? b).map Ordering.swap = b.compare? a) (bs : List Value) :
    (compareList? as bs).map Ordering.swap = compareList? bs as := by
  induction as generalizing bs with
  | nil => cases bs <;> simp [compareList?]
  | cons a as ih =>
    obtain ⟨hfirst, hrest⟩ := List.forall_mem_cons.1 h
    cases bs with
    | nil => simp [compareList?]
    | cons b bs =>
      have hlist := ih hrest bs
      rw [compareList?, compareList?, ← hfirst b]
      cases a.compare? b with
      | none => rfl
      | some order =>
        cases order with
        | eq => exact hlist
        | lt => rfl
        | gt => rfl

/-- **To exchange two values turns their order round.** -/
theorem compare?_swap (a b : Value) : (a.compare? b).map Ordering.swap = b.compare? a := by
  induction a using children_induction generalizing b with
  | step a ih =>
    cases a <;> cases b
    case integer.integer m n => simp [compare?, ← Std.OrientedOrd.eq_swap]
    case text.text s t => simp [compare?, ← Std.OrientedOrd.eq_swap]
    case array.array as bs =>
      simp only [compare?]
      exact compareList?_swap ih bs
    all_goals
      simp only [compare?]
      exact numericOrder?_swap _ _

/-! ## Order and equality -/

/-- Equality of two values as numbers, and strict equality if one of them is none. -/
def numericEquality (a b : Value) : Bool :=
  match a.number?, b.number? with
  | some x, some y => x == y
  | _, _ => a == b

theorem numericEquality_of_order (h : numericOrder? a b = some order) :
    numericEquality a b = (order == .eq) := by
  obtain ⟨x, hx, h⟩ := Option.bind_eq_some_iff.1 h
  obtain ⟨y, hy, h⟩ := Option.bind_eq_some_iff.1 h
  simp [numericEquality, hx, hy, Double.beq_eq, h]

theorem looselyEqualsList_of_compareList?
    (hitems : ∀ a ∈ as, ∀ b order, a.compare? b = some order → a.looselyEquals b = (order == .eq))
    (h : compareList? as bs = some order) : looselyEqualsList as bs = (order == .eq) := by
  induction as generalizing bs with
  | nil =>
    cases bs
    all_goals
      simp only [compareList?, Option.some.injEq] at h
      subst h
      simp [looselyEqualsList]
  | cons a as ih =>
    obtain ⟨hfirst, hrest⟩ := List.forall_mem_cons.1 hitems
    cases bs with
    | nil =>
      simp only [compareList?, Option.some.injEq] at h
      subst h
      simp [looselyEqualsList]
    | cons b bs =>
      rw [compareList?] at h
      rw [looselyEqualsList]
      cases hab : a.compare? b with
      | none =>
        rw [hab] at h
        cases h
      | some first =>
        rw [hab] at h
        rw [hfirst b first hab]
        cases first with
        | eq => exact ih hrest h
        | lt | gt =>
          cases h
          rfl

/-- **Where there is an order, it says whether the values are equal.** -/
theorem looselyEquals_of_compare? (h : a.compare? b = some order) :
    a.looselyEquals b = (order == .eq) := by
  induction a using children_induction generalizing b order with
  | step a ih =>
    cases a <;> cases b
    case integer.integer m n =>
      simp only [compare?, Option.some.injEq] at h
      subst h
      rw [looselyEquals, Bool.eq_iff_iff]
      simp
    case text.text s t =>
      simp only [compare?, Option.some.injEq] at h
      subst h
      have hequal : (text s).looselyEquals (text t) = (s == t) := by
        simp only [looselyEquals]
        show (text s).equals (text t) = _
        simp only [equals]
      rw [hequal, Bool.eq_iff_iff]
      simp
    case array.array as bs =>
      simp only [compare?] at h
      simp only [looselyEquals]
      exact looselyEqualsList_of_compareList? (fun a ha b order => ih a ha) h
    all_goals
      simp only [compare?] at h
      simp only [looselyEquals]
      exact numericEquality_of_order h

/-! ## Equality from either side -/

/-- Equality compares integers, sequences, or else numbers and strictly. -/
theorem looselyEquals_cases (a b : Value) :
    (∃ m n, a = integer m ∧ b = integer n) ∨ (∃ as bs, a = array as ∧ b = array bs) ∨
      ((∀ as bs, ¬ (a = array as ∧ b = array bs)) ∧ a.looselyEquals b = numericEquality a b ∧
        b.looselyEquals a = numericEquality b a) := by
  cases a <;> cases b
  case integer.integer m n => exact .inl ⟨m, n, rfl, rfl⟩
  case array.array as bs => exact .inr (.inl ⟨as, bs, rfl, rfl⟩)
  all_goals
    right
    right
    simp only [looselyEquals]
    exact ⟨by simp, rfl, rfl⟩

/-- Strict equality of scalars may change sides. -/
theorem beq_comm_of_not_arrays (ha : a.MappingFree)
    (h : ∀ as bs, ¬ (a = array as ∧ b = array bs)) : (a == b) = (b == a) := by
  show a.equals b = b.equals a
  cases a <;> cases b
  case array.array as bs => exact absurd ⟨rfl, rfl⟩ (h as bs)
  case mapping.mapping as bs =>
    cases ha with
    | mapping hkeys _ => exact hkeys.elim
  case float.float x y =>
    simp only [equals]
    exact Double.beq_comm x y
  all_goals simp only [equals, BEq.comm]

theorem numericEquality_comm (h : (a == b) = (b == a)) :
    numericEquality a b = numericEquality b a := by
  unfold numericEquality
  cases a.number? with
  | none => cases b.number? <;> exact h
  | some x =>
    cases b.number? with
    | none => exact h
    | some y => exact Double.beq_comm x y

theorem looselyEqualsList_comm (h : ∀ a ∈ as, ∀ b ∈ bs, a.looselyEquals b = b.looselyEquals a) :
    looselyEqualsList as bs = looselyEqualsList bs as := by
  induction as generalizing bs with
  | nil => cases bs <;> simp [looselyEqualsList]
  | cons a as ih =>
    cases bs with
    | nil => simp [looselyEqualsList]
    | cons b bs =>
      have hfirst := h a List.mem_cons_self b List.mem_cons_self
      have hrest := ih fun a ha b hb => h a (List.mem_cons_of_mem _ ha) b (List.mem_cons_of_mem _ hb)
      rw [looselyEqualsList, looselyEqualsList, hfirst, hrest]

/-- Equality is symmetric where there is no mapping. -/
theorem looselyEquals_comm (ha : a.MappingFree) (hb : b.MappingFree) :
    a.looselyEquals b = b.looselyEquals a := by
  induction a using children_induction generalizing b with
  | step a ih =>
    rcases looselyEquals_cases a b with ⟨m, n, rfl, rfl⟩ | ⟨as, bs, rfl, rfl⟩ | ⟨hnot, hab, hba⟩
    · simp only [looselyEquals]
      exact BEq.comm
    · simp only [looselyEquals]
      exact looselyEqualsList_comm fun a hmem b hmem' =>
        ih a hmem (ha.child hmem) (hb.child hmem')
    · rw [hab, hba]
      exact numericEquality_comm (beq_comm_of_not_arrays ha hnot)

end Value

/-- The operators that ask for an order. -/
def BinaryOp.orderings : List BinaryOp := [less, greater, lessEqual, greaterEqual]

/-- The answers of all comparisons of two values, of which the first is below the second one, or is
the same, or is above it, and just one of these. -/
structure Compared (token : Token) (a b : Value) (below same above : Bool) : Prop where
  less : applyBinary token .less a b = .ok below
  equal : applyBinary token .equal a b = .ok same
  greater : applyBinary token .greater a b = .ok above
  lessEqual : applyBinary token .lessEqual a b = .ok (below || same)
  greaterEqual : applyBinary token .greaterEqual a b = .ok (above || same)
  one : [below, same, above].count true = 1

theorem compared_of_compare? {token : Token} {a b : Value} {order : Ordering}
    (h : a.compare? b = some order) :
    Compared token a b (order == .lt) (order == .eq) (order == .gt) := by
  have hequal := Value.looselyEquals_of_compare? h
  cases order
  all_goals exact {
    less := by simp [applyBinary, h, BinaryOp.holds]
    equal := by simp [applyBinary, hequal]
    greater := by simp [applyBinary, h, BinaryOp.holds]
    lessEqual := by simp [applyBinary, h, BinaryOp.holds]
    greaterEqual := by simp [applyBinary, h, BinaryOp.holds]
    one := rfl }

theorem applyBinary_of_not_compare? {token : Token} {a b : Value} {op : BinaryOp}
    (h : a.compare? b = none) (hop : op ∈ BinaryOp.orderings) :
    ∃ e, applyBinary token op a b = .error e := by
  simp only [BinaryOp.orderings, List.mem_cons, List.not_mem_nil, or_false] at hop
  rcases hop with rfl | rfl | rfl | rfl
  all_goals exact ⟨_, by rw [applyBinary, h]⟩

/-- **The comparison operators are coherent.**  They all answer or they all fail, whichever value
stands on the left.  If they answer, just one of less, equal and greater is the case, from the other
side the same with less and greater exchanged, and the other two operators say what their signs say.
Unequal is always the negation of equal, and without a mapping equal values may change sides. -/
theorem comparisons_coherent (token : Token) (a b : Value) :
    ((∃ below same above, Compared token a b below same above ∧
        Compared token b a above same below) ∨
      ∀ op ∈ BinaryOp.orderings, (∃ e, applyBinary token op a b = .error e) ∧
        ∃ e, applyBinary token op b a = .error e) ∧
    (∃ same, applyBinary token .equal a b = .ok same ∧
      applyBinary token .notEqual a b = .ok !same) ∧
    (a.MappingFree → b.MappingFree →
      applyBinary token .equal a b = applyBinary token .equal b a) := by
  refine ⟨?_, ⟨_, rfl, rfl⟩, fun ha hb => ?_⟩
  · have hswap := Value.compare?_swap a b
    cases h : a.compare? b with
    | none =>
      right
      rw [h] at hswap
      intro op hop
      exact ⟨applyBinary_of_not_compare? h hop, applyBinary_of_not_compare? hswap.symm hop⟩
    | some order =>
      left
      rw [h] at hswap
      have hback : Compared token b a _ _ _ := compared_of_compare? hswap.symm
      refine ⟨_, _, _, compared_of_compare? h, ?_⟩
      cases order <;> exact hback
  · show Except.ok _ = Except.ok _
    rw [Value.looselyEquals_comm ha hb]

end RecordQuery

import Mathlib.Algebra.Group.Int.Even
import Mathlib.Data.Int.Notation
import Mathlib.Data.Nat.Log
import Mathlib.Data.Prod.Lex
import Mathlib.Data.Set.Basic
import RecordQuery.Number.Double

/-!
# Integers as doubles

An integer becomes a double by rounding to 53 binary digits.  Rounding keeps the order, but it may
bring neighbours together.  Where it does not, integers and doubles stand on one number line.

* `roundUnits_mono` — **rounding keeps the order**, also where the number of digits changes;
* `roundUnits_of_le` — up to `2 ^ 53` nothing is lost;
* `position?` — the place of a double on the number line, as one ordered type;
* `compare?_ofInt` — **integers that rounding keeps apart are compared as doubles**.
-/

namespace RecordQuery

/-- Of two steps up an order the first one that leads on decides. -/
theorem compare_then {α : Type} [Ord α] [Std.TransOrd α] {x y z : α}
    (hxy : (compare x y).isLE = true) (hyz : (compare y z).isLE = true) :
    compare x z = (compare x y).then (compare y z) := by
  cases hfirst : compare x y with
  | lt => exact Std.TransCmp.lt_of_lt_of_isLE hfirst hyz
  | eq => exact Std.TransCmp.congr_left hfirst
  | gt =>
    rw [hfirst] at hxy
    cases hxy

namespace Double

variable {num num' den : ℕ} {m n : ℤ} {x y z : Double} {order order' : Ordering}

/-! ## Rounding -/

theorem nearestEven_bounds (num den : ℕ) :
    num / den ≤ nearestEven num den ∧ nearestEven num den ≤ num / den + 1 := by
  unfold nearestEven
  dsimp only
  split_ifs <;> omega

theorem nearestEven_mono (den : ℕ) (h : num ≤ num') :
    nearestEven num den ≤ nearestEven num' den := by
  have hquotient : num / den ≤ num' / den := Nat.div_le_div_right h
  rcases Nat.eq_or_lt_of_le hquotient with heq | hlt
  · have hrest : num % den ≤ num' % den := by
      have hnum := Nat.div_add_mod num den
      have hnum' := Nat.div_add_mod num' den
      rw [heq] at hnum
      omega
    unfold nearestEven
    dsimp only
    rw [heq]
    split_ifs <;> omega
  · have hupper := (nearestEven_bounds num den).2
    have hlower := (nearestEven_bounds num' den).1
    omega

theorem nearestEven_of_dvd (hden : 0 < den) (h : den ∣ num) : nearestEven num den = num / den := by
  have hrest : num % den = 0 := Nat.mod_eq_zero_of_dvd h
  unfold nearestEven
  rw [hrest]
  exact if_pos hden

/-- The number of binary digits that rounding drops. -/
def dropped (num den : ℕ) : ℕ := Nat.log2 (num / den) - 52

theorem roundUnits_eq (num den : ℕ) :
    roundUnits num den = nearestEven num (den * 2 ^ dropped num den) * 2 ^ dropped num den := rfl

theorem le_roundUnits (h : 2 ^ (52 + dropped num den) ≤ num / den) :
    2 ^ (52 + dropped num den) ≤ roundUnits num den := by
  have hfloor : 2 ^ 52 ≤ num / (den * 2 ^ dropped num den) := by
    rw [← Nat.div_div_eq_div_mul, Nat.le_div_iff_mul_le (Nat.two_pow_pos _), ← Nat.pow_add]
    exact h
  rw [roundUnits_eq, Nat.pow_add]
  exact Nat.mul_le_mul_right _ (hfloor.trans (nearestEven_bounds _ _).1)

theorem roundUnits_le {digits : ℕ} (hdigits : dropped num den ≤ digits)
    (h : num / den < 2 ^ digits) : roundUnits num den ≤ 2 ^ digits := by
  have hsplit : 2 ^ digits = 2 ^ (digits - dropped num den) * 2 ^ dropped num den := by
    rw [← Nat.pow_add, Nat.sub_add_cancel hdigits]
  have hfloor : num / (den * 2 ^ dropped num den) < 2 ^ (digits - dropped num den) := by
    rw [← Nat.div_div_eq_div_mul, Nat.div_lt_iff_lt_mul (Nat.two_pow_pos _), ← hsplit]
    exact h
  have hupper := (nearestEven_bounds num (den * 2 ^ dropped num den)).2
  rw [roundUnits_eq, hsplit]
  exact Nat.mul_le_mul_right _ (by omega)

/-- **Rounding keeps the order.**  Where the larger number drops more digits, there is a power of
two between the two numbers, and rounding crosses it from neither side. -/
theorem roundUnits_mono (den : ℕ) (h : num ≤ num') : roundUnits num den ≤ roundUnits num' den := by
  have hquotient : num / den ≤ num' / den := Nat.div_le_div_right h
  have hlog : Nat.log2 (num / den) ≤ Nat.log2 (num' / den) := by
    rw [Nat.log2_eq_log_two, Nat.log2_eq_log_two]
    exact Nat.log_mono_right hquotient
  have hdropped : dropped num den ≤ dropped num' den := Nat.sub_le_sub_right hlog 52
  rcases Nat.eq_or_lt_of_le hdropped with heq | hlt
  · rw [roundUnits_eq, roundUnits_eq, heq]
    exact Nat.mul_le_mul_right _ (nearestEven_mono _ h)
  · have htop : Nat.log2 (num' / den) = 52 + dropped num' den := by
      unfold dropped at hlt ⊢
      omega
    have hbelow : num / den < 2 ^ (52 + dropped num' den) := by
      refine Nat.lt_log2_self.trans_le (Nat.pow_le_pow_right Nat.two_pos ?_)
      unfold dropped at hlt ⊢
      omega
    have habove : 2 ^ (52 + dropped num' den) ≤ num' / den := by
      rw [← htop]
      refine Nat.log2_self_le fun hzero => ?_
      rw [hzero, Nat.log2_zero] at htop
      omega
    exact (roundUnits_le (by omega) hbelow).trans (le_roundUnits habove)

/-- Up to `2 ^ 53` a number has no digit to drop. -/
theorem roundUnits_of_le (digits : ℕ) (h : num ≤ 2 ^ 53) :
    roundUnits (num * Nat.pow 2 digits) 1 = num * Nat.pow 2 digits := by
  show roundUnits (num * 2 ^ digits) 1 = num * 2 ^ digits
  have hdvd : 2 ^ dropped (num * 2 ^ digits) 1 ∣ num * 2 ^ digits := by
    rcases Nat.eq_or_lt_of_le h with rfl | hlt
    · rw [← Nat.pow_add]
      refine Nat.pow_dvd_pow 2 ?_
      rw [dropped, Nat.div_one, Nat.log2_two_pow]
      exact Nat.sub_le _ _
    · refine Nat.dvd_mul_left_of_dvd (Nat.pow_dvd_pow 2 ?_) num
      have hbelow : num * 2 ^ digits < 2 ^ (53 + digits) := by
        rw [Nat.pow_add]
        exact Nat.mul_lt_mul_of_pos_right hlt (Nat.two_pow_pos _)
      rw [dropped, Nat.div_one]
      rcases Nat.eq_zero_or_pos (num * 2 ^ digits) with hzero | hpos
      · rw [hzero, Nat.log2_zero]
        exact Nat.zero_le _
      · have hlog := (Nat.log2_lt hpos.ne').2 hbelow
        omega
  rw [roundUnits_eq, Nat.one_mul, nearestEven_of_dvd (Nat.two_pow_pos _) hdvd,
    Nat.div_mul_cancel hdvd]

/-! ## The number line -/

/-- The place on the number line, with the infinities outside of all the rest. -/
def position? (x : Double) : Option (ℤ ×ₗ ℤ) := x.place?.map toLex

theorem compare?_eq_some_iff : x.compare? y = some order ↔
    ∃ p q, x.position? = some p ∧ y.position? = some q ∧ compare p q = order := by
  unfold compare? position?
  cases x.place? with
  | none => simp
  | some p =>
    cases y.place? with
    | none => simp
    | some q =>
      have hlex : compare (toLex p) (toLex q) = (compare p.1 q.1).then (compare p.2 q.2) := rfl
      simp [← hlex]

theorem beq_iff_position? : (x == y) = true ↔ x.position? ≠ none ∧ x.position? = y.position? := by
  have hequal : (x == y) = true ↔ x.compare? y = some .eq := by
    rw [beq_eq]
    exact beq_iff_eq
  rw [hequal, compare?_eq_some_iff]
  constructor
  · rintro ⟨p, q, hp, hq, hpq⟩
    rw [hp, hq, compare_eq_iff_eq.1 hpq]
    exact ⟨nofun, rfl⟩
  · rintro ⟨hsome, hxy⟩
    obtain ⟨p, hp⟩ := Option.ne_none_iff_exists'.1 hsome
    exact ⟨p, p, hp, hxy ▸ hp, compare_eq_iff_eq.2 rfl⟩

theorem beq_trans (hxy : (x == y) = true) (hyz : (y == z) = true) : (x == z) = true := by
  rw [beq_iff_position?] at hxy hyz ⊢
  exact ⟨hxy.1, hxy.2.trans hyz.2⟩

/-- Of two steps up the number line the first one that leads on decides. -/
theorem compare?_then (hxy : x.compare? y = some order) (hyz : y.compare? z = some order')
    (h : order.isLE = true) (h' : order'.isLE = true) :
    x.compare? z = some (order.then order') := by
  obtain ⟨p, q, hp, hq, rfl⟩ := compare?_eq_some_iff.1 hxy
  obtain ⟨q', r, hq', hr, rfl⟩ := compare?_eq_some_iff.1 hyz
  cases hq.symm.trans hq'
  exact compare?_eq_some_iff.2 ⟨p, r, hp, hr, compare_then h h'⟩

/-! ## Integers -/

/-- The magnitude of an integer in units of `2 ^ -scale`, rounded. -/
def unitsOf (scale : ℕ) (n : ℤ) : ℕ := roundUnits (n.natAbs * Nat.pow 2 scale) 1

theorem unitsOf_mono (scale : ℕ) (h : m.natAbs ≤ n.natAbs) : unitsOf scale m ≤ unitsOf scale n :=
  roundUnits_mono 1 (Nat.mul_le_mul_right _ h)

theorem unitsOf_of_natAbs_le (scale : ℕ) (h : n.natAbs ≤ 2 ^ 53) :
    unitsOf scale n = n.natAbs * Nat.pow 2 scale := roundUnits_of_le scale h

theorem unitsOf_lt {scale limit : ℕ} (h : n.natAbs ≤ 2 ^ 53) (hlimit : 53 + scale < limit) :
    unitsOf scale n < Nat.pow 2 limit :=
  calc
    unitsOf scale n = n.natAbs * 2 ^ scale := unitsOf_of_natAbs_le scale h
    _ ≤ 2 ^ 53 * 2 ^ scale := Nat.mul_le_mul_right _ h
    _ = 2 ^ (53 + scale) := (Nat.pow_add 2 53 scale).symm
    _ < 2 ^ limit := Nat.pow_lt_pow_right Nat.one_lt_two hlimit

/-- The shortcut for few digits makes no difference. -/
theorem ofInt_eq (n : ℤ) : ofInt n = ofUnits (decide (n < 0)) (unitsOf 1074 n) := by
  unfold ofInt ofRatio
  -- the large powers are not to be computed
  generalize hscale : 1074 = scale
  split_ifs with h
  · unfold ofUnits
    generalize hlimit : 2098 = limit
    have hle : n.natAbs ≤ 2 ^ 53 := Nat.le_of_lt h
    have hlt : unitsOf scale n < Nat.pow 2 limit := unitsOf_lt hle (by omega)
    rw [if_pos hlt, unitsOf_of_natAbs_le scale hle]
  · rfl

/-- The place of a magnitude, of which those from the limit on are infinite. -/
def positionOf (limit : ℕ) (negative : Bool) (units : ℕ) : ℤ ×ₗ ℤ :=
  if units < limit then toLex (0, if negative then -(units : ℤ) else units)
  else toLex (if negative then -1 else 1, 0)

theorem position?_ofUnits (negative : Bool) (units : ℕ) :
    (ofUnits negative units).position? = some (positionOf (Nat.pow 2 2098) negative units) := by
  unfold ofUnits positionOf
  by_cases hlimit : units < Nat.pow 2 2098
  · rw [if_pos hlimit, if_pos hlimit]
    cases negative <;> rfl
  · rw [if_neg hlimit, if_neg hlimit]
    cases negative <;> rfl

/-- Above zero places go up with their magnitudes. -/
theorem positionOf_false_mono (limit : ℕ) {units units' : ℕ} (h : units ≤ units') :
    positionOf limit false units ≤ positionOf limit false units' := by
  simp only [positionOf, Bool.false_eq_true, if_false]
  split_ifs <;> simp [Prod.Lex.toLex_le_toLex] <;> omega

/-- Below zero they go down. -/
theorem positionOf_true_mono (limit : ℕ) {units units' : ℕ} (h : units ≤ units') :
    positionOf limit true units' ≤ positionOf limit true units := by
  simp only [positionOf, if_true]
  split_ifs <;> simp [Prod.Lex.toLex_le_toLex] <;> omega

theorem positionOf_true_le_false (limit units units' : ℕ) :
    positionOf limit true units ≤ positionOf limit false units' := by
  simp only [positionOf, Bool.false_eq_true, if_true, if_false]
  split_ifs <;> simp [Prod.Lex.toLex_le_toLex]

/-- The place of an integer that became a double. -/
def integerPosition (n : ℤ) : ℤ ×ₗ ℤ :=
  positionOf (Nat.pow 2 2098) (decide (n < 0)) (unitsOf 1074 n)

theorem position?_ofInt (n : ℤ) : (ofInt n).position? = some (integerPosition n) := by
  rw [ofInt_eq]
  exact position?_ofUnits _ _

/-- **Integers become doubles in their order.** -/
theorem integerPosition_mono (h : m ≤ n) : integerPosition m ≤ integerPosition n := by
  unfold integerPosition
  by_cases hm : m < 0
  · by_cases hn : n < 0
    · rw [decide_eq_true hm, decide_eq_true hn]
      exact positionOf_true_mono _ (unitsOf_mono _ (by omega))
    · rw [decide_eq_true hm, decide_eq_false hn]
      exact positionOf_true_le_false _ _ _
  · rw [decide_eq_false hm, decide_eq_false (by omega)]
    exact positionOf_false_mono _ (unitsOf_mono _ (by omega))

theorem beq_ofInt_iff : (ofInt m == ofInt n) = true ↔ integerPosition m = integerPosition n := by
  rw [beq_iff_position?, position?_ofInt, position?_ofInt]
  simp

/-! ## Integers that rounding keeps apart -/

/-- No two of the integers become equal doubles. -/
def Separates (S : Set ℤ) : Prop := ∀ m ∈ S, ∀ n ∈ S, (ofInt m == ofInt n) = true → m = n

/-- **Integers that rounding keeps apart are compared as doubles.** -/
theorem compare?_ofInt (h : (ofInt m == ofInt n) = true → m = n) :
    (ofInt m).compare? (ofInt n) = some (compare m n) := by
  rw [compare?_eq_some_iff]
  refine ⟨integerPosition m, integerPosition n, position?_ofInt m, position?_ofInt n, ?_⟩
  have hne : m ≠ n → integerPosition m ≠ integerPosition n := fun hmn heq =>
    hmn (h (beq_ofInt_iff.2 heq))
  rcases lt_trichotomy m n with hlt | rfl | hgt
  · rw [compare_lt_iff_lt.2 hlt]
    exact compare_lt_iff_lt.2 ((integerPosition_mono hlt.le).lt_of_ne (hne hlt.ne))
  · rw [compare_eq_iff_eq.2 (rfl : m = m)]
    exact compare_eq_iff_eq.2 rfl
  · rw [compare_gt_iff_gt.2 hgt]
    exact compare_gt_iff_gt.2 ((integerPosition_mono hgt.le).lt_of_ne (hne hgt.ne').symm)

theorem signed_natAbs_mul (n : ℤ) (k : ℕ) :
    (if decide (n < 0) then -((n.natAbs * k : ℕ) : ℤ) else (n.natAbs * k : ℕ)) = n * k := by
  by_cases hsign : n < 0
  · rw [decide_eq_true hsign, if_pos rfl, Int.natCast_mul, Int.ofNat_natAbs_of_nonpos hsign.le,
      Int.neg_mul, Int.neg_neg]
  · rw [decide_eq_false hsign, if_neg Bool.false_ne_true, Int.natCast_mul,
      Int.natAbs_of_nonneg (not_lt.1 hsign)]

theorem eq_of_positionOf {scale limit : ℕ} (hm : m.natAbs ≤ 2 ^ 53) (hn : n.natAbs ≤ 2 ^ 53)
    (hlimit : 53 + scale < limit)
    (h : positionOf (Nat.pow 2 limit) (decide (m < 0)) (unitsOf scale m) =
      positionOf (Nat.pow 2 limit) (decide (n < 0)) (unitsOf scale n)) : m = n := by
  have hpos : 0 < Nat.pow 2 scale := Nat.two_pow_pos scale
  unfold positionOf at h
  rw [if_pos (unitsOf_lt hm hlimit), if_pos (unitsOf_lt hn hlimit), unitsOf_of_natAbs_le scale hm,
    unitsOf_of_natAbs_le scale hn] at h
  have hplace := congrArg Prod.snd (toLex.injective h)
  dsimp only at hplace
  rw [signed_natAbs_mul, signed_natAbs_mul] at hplace
  exact Int.eq_of_mul_eq_mul_right (by omega) hplace

/-- Up to `2 ^ 53` all integers are kept apart. -/
theorem separates_le : Separates {n | n.natAbs ≤ 2 ^ 53} := by
  intro m hm n hn h
  rw [beq_ofInt_iff] at h
  exact eq_of_positionOf hm hn (by decide) h

/-- Below `2 ^ 53` an integer is kept apart from all others. -/
theorem eq_of_beq_ofInt (hn : n.natAbs < 2 ^ 53) (h : (ofInt m == ofInt n) = true) : m = n := by
  have hseparates : ∀ k : ℤ, k.natAbs ≤ 2 ^ 53 → integerPosition k = integerPosition n → k = n :=
    fun k hk heq => separates_le k hk n (Nat.le_of_lt hn) (beq_ofInt_iff.2 heq)
  rw [beq_ofInt_iff] at h
  by_cases hm : m.natAbs ≤ 2 ^ 53
  · exact hseparates m hm h
  · exfalso
    -- the border lies between the two integers
    by_cases hsign : 0 ≤ m
    · have hupper : integerPosition (2 ^ 53) ≤ integerPosition n := by
        rw [← h]
        exact integerPosition_mono (by omega)
      have hlower : integerPosition n ≤ integerPosition (2 ^ 53) := integerPosition_mono (by omega)
      have hborder := hseparates (2 ^ 53) (by decide) (le_antisymm hupper hlower)
      omega
    · have hlower : integerPosition n ≤ integerPosition (-2 ^ 53) := by
        rw [← h]
        exact integerPosition_mono (by omega)
      have hupper : integerPosition (-2 ^ 53) ≤ integerPosition n := integerPosition_mono (by omega)
      have hborder := hseparates (-2 ^ 53) (by decide) (le_antisymm hupper hlower)
      omega

end Double

end RecordQuery

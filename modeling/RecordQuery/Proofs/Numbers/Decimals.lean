import RecordQuery.Proofs.Numbers.Rounding

/-!
# Decimal numbers as doubles

A decimal number is a natural number and a power of ten.  Where the number of its digits shows that
it is too large or too small for a double, it is not computed at all, and this changes nothing.

* `ofRatio_of_large`, `ofRatio_of_small` — what is rounded to an infinity and to zero;
* `large_of_digits`, `small_of_digits` — the number of digits shows it;
* `ofDecimal_eq` — **a decimal number becomes the double nearest to it**;
* `ofDecimal_natAbs` — and an integer the same one as without its digits.
-/

namespace RecordQuery.Double

variable {num den significand : ℕ} {exponent : ℤ}

/-! ## Out of reach -/

/-- What needs more than 53 binary digits keeps its first one. -/
theorem pow_le_roundUnits {digits : ℕ} (hdigits : 52 ≤ digits) (h : 2 ^ digits ≤ num / den) :
    2 ^ digits ≤ roundUnits num den := by
  have hne : num / den ≠ 0 := (Nat.two_pow_pos digits |>.trans_le h).ne'
  have hlog : digits ≤ Nat.log2 (num / den) := (Nat.le_log2 hne).2 h
  have hdropped : 52 + dropped num den = Nat.log2 (num / den) := by
    unfold dropped
    omega
  calc
    2 ^ digits ≤ 2 ^ Nat.log2 (num / den) := Nat.pow_le_pow_right Nat.two_pos hlog
    _ = 2 ^ (52 + dropped num den) := by rw [hdropped]
    _ ≤ roundUnits num den := le_roundUnits (by rw [hdropped]; exact Nat.log2_self_le hne)

/-- Less than a half is nothing. -/
theorem roundUnits_of_lt (h : 2 * num < den) : roundUnits num den = 0 := by
  have hquotient : num / den = 0 := Nat.div_eq_of_lt (by omega)
  have hdropped : dropped num den = 0 := by rw [dropped, hquotient, Nat.log2_zero, Nat.zero_sub]
  have hnearest : nearestEven num den = 0 := by
    unfold nearestEven
    dsimp only
    rw [hquotient, Nat.mod_eq_of_lt (by omega), if_pos h]
  rw [roundUnits_eq, hdropped, Nat.pow_zero, Nat.mul_one, Nat.mul_one, hnearest]

theorem pow_le_roundUnits_scaled {limit : ℕ} (scale : ℕ) (hlimit : 52 ≤ limit) (hden : 0 < den)
    (h : Nat.pow 2 limit * den ≤ num) :
    Nat.pow 2 (limit + scale) ≤ roundUnits (num * Nat.pow 2 scale) den := by
  refine pow_le_roundUnits (by omega) ?_
  show 2 ^ (limit + scale) ≤ num * 2 ^ scale / den
  rw [Nat.le_div_iff_mul_le hden, Nat.pow_add, Nat.mul_right_comm]
  exact Nat.mul_le_mul_right _ h

theorem ofRatio_of_large {limit : ℕ} (negative : Bool) (hlimit : 2098 = limit + 1074)
    (hden : 0 < den) (h : Nat.pow 2 limit * den ≤ num) :
    ofRatio negative num den = infinite negative := by
  have hunits := pow_le_roundUnits_scaled 1074 (by omega) hden h
  unfold ofRatio ofUnits
  rw [hlimit]
  -- the large powers are not to be computed
  generalize 1074 = scale at hunits ⊢
  exact if_neg hunits.not_gt

theorem roundUnits_scaled_of_lt (scale : ℕ) (h : num * Nat.pow 2 (scale + 1) < den) :
    roundUnits (num * Nat.pow 2 scale) den = 0 := by
  refine roundUnits_of_lt ?_
  calc
    2 * (num * 2 ^ scale) = num * (2 ^ scale * 2) := by
      rw [Nat.mul_comm, Nat.mul_assoc]
    _ < den := h

theorem ofRatio_of_small {limit : ℕ} (negative : Bool) (hlimit : limit = 1074 + 1)
    (h : num * Nat.pow 2 limit < den) : ofRatio negative num den = finite negative 0 := by
  rw [hlimit] at h
  unfold ofRatio ofUnits
  generalize 1074 = scale at h ⊢
  generalize 2098 = limit
  rw [roundUnits_scaled_of_lt scale h]
  exact if_pos (Nat.two_pow_pos limit)

theorem ofRatio_zero (negative : Bool) (hden : 0 < den) :
    ofRatio negative 0 den = finite negative 0 := by
  obtain ⟨limit, hlimit⟩ : ∃ limit, limit = 1074 + 1 := ⟨_, rfl⟩
  exact ofRatio_of_small negative hlimit (by rwa [Nat.zero_mul])

/-! ## Powers of ten -/

/-- Some powers of two, by powers of ten that are not much larger. -/
theorem two_pow_le_ten_pow {r s : ℕ} (k : ℕ) (h : 2 ^ r ≤ 10 ^ s) :
    Nat.pow 2 (93 * k + r) ≤ Nat.pow 10 (28 * k + s) := by
  calc
    2 ^ (93 * k + r) = (2 ^ 93) ^ k * 2 ^ r := by rw [Nat.pow_add, Nat.pow_mul]
    _ ≤ (10 ^ 28) ^ k * 10 ^ s := Nat.mul_le_mul (Nat.pow_le_pow_left (by decide) k) h
    _ = 10 ^ (28 * k + s) := by rw [Nat.pow_add, Nat.pow_mul]

/-- The number of digits tells between which powers of ten a number lies. -/
theorem digits_bounds (h : significand ≠ 0) :
    10 ^ ((Nat.toDigits 10 significand).length - 1) ≤ significand ∧
      significand < 10 ^ (Nat.toDigits 10 significand).length := by
  have hpos : 0 < (Nat.toDigits 10 significand).length :=
    List.length_pos_iff.2 Nat.toDigits_ne_nil
  refine ⟨?_, (Nat.length_toDigits_le_iff (by decide) hpos).1 (Nat.le_refl _)⟩
  by_cases hone : (Nat.toDigits 10 significand).length = 1
  · rw [hone]
    exact Nat.pos_of_ne_zero h
  · have hlt : ¬ significand < 10 ^ ((Nat.toDigits 10 significand).length - 1) := by
      rw [← Nat.length_toDigits_le_iff (by decide) (by omega)]
      omega
    exact not_lt.1 hlt

/-- So many digits are too many, also where some of them are behind the point. -/
theorem large_of_digits {limit reach : ℕ} (hreach : Nat.pow 2 limit ≤ Nat.pow 10 reach)
    (h : significand ≠ 0) (htop : reach < exponent + (Nat.toDigits 10 significand).length) :
    Nat.pow 2 limit * 10 ^ (-exponent).toNat ≤ significand * 10 ^ exponent.toNat := by
  have hlower := (digits_bounds h).1
  generalize (Nat.toDigits 10 significand).length = length at htop hlower
  calc
    Nat.pow 2 limit * 10 ^ (-exponent).toNat ≤ 10 ^ reach * 10 ^ (-exponent).toNat :=
      Nat.mul_le_mul_right _ hreach
    _ = 10 ^ (reach + (-exponent).toNat) := (Nat.pow_add _ _ _).symm
    _ ≤ 10 ^ (length - 1 + exponent.toNat) := Nat.pow_le_pow_right (by decide) (by omega)
    _ = 10 ^ (length - 1) * 10 ^ exponent.toNat := Nat.pow_add _ _ _
    _ ≤ significand * 10 ^ exponent.toNat := Nat.mul_le_mul_right _ hlower

/-- So few digits are too few. -/
theorem small_of_digits {limit reach : ℕ} (hreach : Nat.pow 2 limit ≤ Nat.pow 10 reach)
    (h : significand ≠ 0) (htop : exponent + (Nat.toDigits 10 significand).length ≤ -reach) :
    significand * 10 ^ exponent.toNat * Nat.pow 2 limit < 10 ^ (-exponent).toNat := by
  have hupper := (digits_bounds h).2
  generalize (Nat.toDigits 10 significand).length = length at htop hupper
  have hpos : 0 < 10 ^ exponent.toNat * 10 ^ reach :=
    Nat.mul_pos (Nat.pow_pos (by decide)) (Nat.pow_pos (by decide))
  calc
    significand * 10 ^ exponent.toNat * Nat.pow 2 limit
      ≤ significand * 10 ^ exponent.toNat * 10 ^ reach := Nat.mul_le_mul_left _ hreach
    _ = significand * (10 ^ exponent.toNat * 10 ^ reach) := Nat.mul_assoc _ _ _
    _ < 10 ^ length * (10 ^ exponent.toNat * 10 ^ reach) := Nat.mul_lt_mul_of_pos_right hupper hpos
    _ = 10 ^ (length + (exponent.toNat + reach)) := by rw [Nat.pow_add, Nat.pow_add]
    _ ≤ 10 ^ (-exponent).toNat := Nat.pow_le_pow_right (by decide) (by omega)

/-- **A decimal number becomes the double nearest to it**, also where the number of its digits alone
decides. -/
theorem ofDecimal_eq (negative : Bool) (significand : ℕ) (exponent : ℤ) :
    ofDecimal negative significand exponent =
      ofRatio negative (significand * 10 ^ exponent.toNat) (10 ^ (-exponent).toNat) := by
  have hden : 0 < 10 ^ (-exponent).toNat := Nat.pow_pos (by decide)
  unfold ofDecimal
  dsimp only
  by_cases hzero : significand = 0
  · rw [if_pos hzero, hzero, Nat.zero_mul, ofRatio_zero negative hden]
  · rw [if_neg hzero]
    by_cases hlarge : 310 < exponent + (Nat.toDigits 10 significand).length
    · have hreach := two_pow_le_ten_pow (r := 1) (s := 2) 11 (by decide)
      have hover := large_of_digits hreach hzero hlarge
      rw [if_pos hlarge, ofRatio_of_large negative (by rfl) hden hover]
    · rw [if_neg hlarge]
      by_cases hsmall : exponent + (Nat.toDigits 10 significand).length < -330
      · have hreach := two_pow_le_ten_pow (r := 52) (s := 23) 11 (by decide)
        have htop : exponent + (Nat.toDigits 10 significand).length ≤
            -((28 * 11 + 23 : ℕ) : ℤ) := by omega
        have hunder := small_of_digits hreach hzero htop
        rw [if_pos hsmall, ofRatio_of_small negative (by rfl) hunder]
      · rw [if_neg hsmall]
        by_cases hsign : 0 ≤ exponent
        · have hnone : (-exponent).toNat = 0 := by omega
          rw [if_pos hsign, hnone]
          rfl
        · have hnone : exponent.toNat = 0 := by omega
          rw [if_neg hsign, hnone, Nat.pow_zero, Nat.mul_one]
          rfl

/-- An integer is a ratio with nothing below. -/
theorem ofRatio_natAbs (z : ℤ) : ofRatio (decide (z < 0)) z.natAbs 1 = ofInt z := by
  unfold ofRatio
  rw [ofInt_eq]
  generalize 1074 = scale
  rfl

/-- With no power of ten behind it, an integer is rounded as it is. -/
theorem ofDecimal_natAbs (z : ℤ) : ofDecimal (decide (z < 0)) z.natAbs 0 = ofInt z := by
  have hnone : (0 : ℤ).toNat = 0 := rfl
  rw [ofDecimal_eq, Int.neg_zero, hnone, Nat.pow_zero, Nat.mul_one, ofRatio_natAbs]

end RecordQuery.Double

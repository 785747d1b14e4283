/-!
# Doubles, exactly

A **double** is a binary number of 53 significant digits.  It is kept here as the exact number
it stands for, so that every comparison and every rounding is integer arithmetic:

* `Double` — not a number, an infinity, or `± units · 2⁻¹⁰⁷⁴`;
* `Double.compare?` — the numeric order, in which the two zeros are equal and `nan` compares
  with nothing;
* `Double.ofRatio` — the double nearest to a ratio of natural numbers, a half going to the even
  neighbour and what is too large to an infinity;
* `Double.ofBits` and `Double.toBits` — the 64-bit interchange form.
-/

namespace RecordQuery

/-- A double: not a number, an infinity, or a multiple of the smallest positive double. -/
inductive Double where
  | nan
  | infinite (negative : Bool)
  | finite (negative : Bool) (units : Nat)
  deriving DecidableEq

namespace Double

/-- The zero without a sign. -/
def zero : Double := finite false 0

/-- The number one. -/
def one : Double := finite false (Nat.pow 2 1074)

/-- Changes the sign. -/
def negate : Double → Double
  | nan => nan
  | infinite negative => infinite !negative
  | finite negative units => finite (!negative) units

/-! ## Order -/

/-- The place on the number line: the infinities stand outside of all the rest, and `nan`
stands nowhere. -/
def place? : Double → Option (Int × Int)
  | nan => none
  | infinite negative => some (if negative then -1 else 1, 0)
  | finite negative units => some (0, if negative then -(units : Int) else units)

/-- Compares by place on the number line. -/
def compare? (x y : Double) : Option Ordering :=
  match x.place?, y.place? with
  | some p, some q => some ((compare p.1 q.1).then (compare p.2 q.2))
  | _, _ => none

/-- Numbers are equal when they have one place: the zeros are equal, `nan` equals nothing. -/
instance : BEq Double where
  beq x y := x.compare? y == some .eq

/-- To exchange two numbers turns their order round. -/
theorem compare?_swap (x y : Double) : (x.compare? y).map Ordering.swap = y.compare? x := by
  unfold compare?
  cases x.place? with
  | none => cases y.place? <;> rfl
  | some p =>
    cases y.place? with
    | none => rfl
    | some q =>
      show some ((compare p.1 q.1).then (compare p.2 q.2)).swap = _
      rw [Ordering.swap_then, ← Std.OrientedOrd.eq_swap, ← Std.OrientedOrd.eq_swap]

theorem beq_eq (x y : Double) : (x == y) = (x.compare? y == some .eq) := rfl

theorem beq_comm (x y : Double) : (x == y) = (y == x) := by
  rw [beq_eq, beq_eq, ← compare?_swap x y]
  cases x.compare? y with
  | none => rfl
  | some order => cases order <;> rfl

/-! ## Rounding -/

/-- The natural number nearest to `num / den`, a half going to the even one. -/
def nearestEven (num den : Nat) : Nat :=
  let quotient := num / den
  let twice := 2 * (num % den)
  if twice < den then quotient
  else if den < twice then quotient + 1
  else quotient + quotient % 2

/-- Rounds `num / den` units to 53 significant binary digits. -/
def roundUnits (num den : Nat) : Nat :=
  let step := Nat.pow 2 (Nat.log2 (num / den) - 52)
  nearestEven num (den * step) * step

/-- A magnitude already rounded, given its place below the first one that is too large. -/
def ofUnits (negative : Bool) (units : Nat) : Double :=
  if units < Nat.pow 2 2098 then finite negative units else infinite negative

/-- The double nearest to `± num / den`. -/
def ofRatio (negative : Bool) (num den : Nat) : Double :=
  ofUnits negative (roundUnits (num * Nat.pow 2 1074) den)

/-- The double nearest to an integer.  What has no more than 53 binary digits is a double
itself. -/
def ofInt (n : Int) : Double :=
  if n.natAbs < Nat.pow 2 53 then finite (decide (n < 0)) (n.natAbs * Nat.pow 2 1074)
  else ofRatio (decide (n < 0)) n.natAbs 1

/-- The double nearest to `± significand · 10 ^ exponent`.  Exponents that are out of reach
are settled by the number of digits alone. -/
def ofDecimal (negative : Bool) (significand : Nat) (exponent : Int) : Double :=
  let top := exponent + (Nat.toDigits 10 significand).length
  if significand = 0 then finite negative 0
  else if 310 < top then infinite negative
  else if top < -330 then finite negative 0
  else if 0 ≤ exponent then ofRatio negative (significand * Nat.pow 10 exponent.toNat) 1
  else ofRatio negative significand (Nat.pow 10 (-exponent).toNat)

/-! ## Arithmetic -/

/-- The rounded product. -/
def mul : Double → Double → Double
  | finite s m, finite t n => ofRatio (s != t) (m * n) (Nat.pow 2 2148)
  | infinite s, infinite t => infinite (s != t)
  | infinite s, finite t n => if n = 0 then nan else infinite (s != t)
  | finite s m, infinite t => if m = 0 then nan else infinite (s != t)
  | _, _ => nan

/-- The rounded quotient. -/
def div : Double → Double → Double
  | finite s m, finite t n =>
    if n = 0 then (if m = 0 then nan else infinite (s != t)) else ofRatio (s != t) m n
  | infinite s, finite t _ => infinite (s != t)
  | finite s _, infinite t => finite (s != t) 0
  | _, _ => nan

/-! ## Interchange form -/

/-- Reads the 64 bits: a sign, eleven bits of exponent, 52 bits of fraction. -/
def ofBits (bits : Nat) : Double :=
  let negative := bits / Nat.pow 2 63 % 2 == 1
  let exponent := bits / Nat.pow 2 52 % Nat.pow 2 11
  let fraction := bits % Nat.pow 2 52
  if exponent = 2047 then
    if fraction = 0 then infinite negative else nan
  else if exponent = 0 then finite negative fraction
  else finite negative ((Nat.pow 2 52 + fraction) * Nat.pow 2 (exponent - 1))

/-- The bits of a magnitude: below `2 ^ 52` units there is no hidden digit. -/
def magnitudeBits (units : Nat) : Nat :=
  if units < Nat.pow 2 52 then units
  else
    let exponent := Nat.log2 units - 51
    exponent * Nat.pow 2 52 + (units / Nat.pow 2 (exponent - 1) - Nat.pow 2 52)

/-- Writes the 64 bits; `nan` is written as the quiet one without a sign. -/
def toBits : Double → Nat
  | nan => 2047 * Nat.pow 2 52 + Nat.pow 2 51
  | infinite negative => (if negative then Nat.pow 2 63 else 0) + 2047 * Nat.pow 2 52
  | finite negative units => (if negative then Nat.pow 2 63 else 0) + magnitudeBits units

end Double

end RecordQuery

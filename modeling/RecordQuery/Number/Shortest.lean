import RecordQuery.Number.Double

/-!
# The shortest decimal

Of all decimals that read back as a given double, the **shortest** has the fewest digits and,
among those, lies nearest to the double.  For one digit, two digits and so on the two
neighbours of the double on that decimal grid are tried in exact arithmetic; if any decimal of
so many digits reads back, one of the two neighbours does.

* `Decimal` — digits behind a decimal point, and a power of ten;
* `Double.shortest` — the shortest decimal of a magnitude, with a rule for the case that both
  neighbours are equally near.
-/

namespace RecordQuery

/-- A decimal `0.d₁d₂…dₙ · 10 ^ point`. -/
structure Decimal where
  digits : List Char
  point : Int
  deriving DecidableEq

/-- Which of two equally near decimals is taken. -/
inductive Tie where
  | away
  | even
  deriving DecidableEq

namespace Double

/-- The distance between a magnitude and the next larger one, in units. -/
def spacing (units : Nat) : Nat := Nat.pow 2 (Nat.log2 units - 52)

/-- The distance to the next smaller magnitude, in half units: just above a power of two
the numbers below stand twice as close. -/
def halfSpacingBelow (units : Nat) : Nat :=
  if units = Nat.pow 2 52 * spacing units && spacing units ≠ 1 then spacing units
  else 2 * spacing units

/-- Whether `num / den` units read back as `units`: they lie within half the spacing, and an
end itself belongs to the number whose last digit is even. -/
def readsBack (units num den : Nat) : Bool :=
  let low := (4 * units - halfSpacingBelow units) * den
  let high := (4 * units + 2 * spacing units) * den
  if units / spacing units % 2 = 0 then low ≤ 4 * num && 4 * num ≤ high
  else low < 4 * num && 4 * num < high

/-- The power of ten just above a magnitude, as an exponent. -/
def decimalPoint (units : Nat) : Int :=
  (Nat.toDigits 10 (units * Nat.pow 10 400 / Nat.pow 2 1074)).length - 400

/-- The nearest decimal of `count` digits that reads back, if there is one; `point` is the
decimal point of the magnitude. -/
def shortestOf? (tie : Tie) (units : Nat) (point : Int) (count : Nat) : Option Nat :=
  let shift : Int := point - count
  -- one step of the grid is `stepNum / stepDen` units
  let stepNum := Nat.pow 2 1074 * Nat.pow 10 shift.toNat
  let stepDen := Nat.pow 10 (-shift).toNat
  let below := units * stepDen / stepNum
  let hit := fun c => readsBack units (c * stepNum) stepDen
  let rest := 2 * (units * stepDen - below * stepNum)
  let upward : Bool := match tie with
    | .away => stepNum ≤ rest
    | .even => stepNum < rest || (rest == stepNum && below % 2 == 1)
  match hit below, hit (below + 1) with
  | true, true => some (if upward then below + 1 else below)
  | true, false => some below
  | false, true => some (below + 1)
  | false, false => none

/-- Drops the zeros at the end. -/
def dropTrailingZeros (cs : List Char) : List Char :=
  (cs.reverse.dropWhile (· == '0')).reverse

/-- The shortest decimal of a positive magnitude; seventeen digits always suffice. -/
def shortest (tie : Tie) (units : Nat) : Decimal :=
  let point := decimalPoint units
  let found := (List.range 17).findSome? fun i =>
    (shortestOf? tie units point (i + 1)).map fun c => (c, i + 1)
  let (significand, count) := found.getD (0, 1)
  let written := Nat.toDigits 10 significand
  ⟨dropTrailingZeros written, point + written.length - count⟩

end Double

end RecordQuery

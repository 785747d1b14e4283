import RecordQuery.Json.Basic
import RecordQuery.Number.Numeral

/-!
# Numbers in JSON

A number without point and exponent is an integer if it fits 64 bits; the zero with a sign and
any other number is a double.  A double is computed from at most as many digits as fit 64 bits,
by one multiplication with a power of ten or one division by it, so it may differ from the
nearest double in its last place.

* `Json.NumberParts` — the digits of a number;
* `Json.readNumber` — the number at the front of a text.
-/

namespace RecordQuery.Json

/-- The digits of a number: the exponent has a sign of its own. -/
structure NumberParts where
  negative : Bool
  whole : List Char
  fraction : List Char
  exponent : Option (Bool × List Char)

/-- The largest significand. -/
def maxSignificand : Nat := Nat.pow 2 64 - 1

/-- The largest exponent; beyond it the exponent is out of any bounds. -/
def maxExponent : Int := 2147483647

/-- Takes digits into a significand as long as it fits, and gives the digits that are left. -/
def takeSignificand (significand : Nat) : List Char → Nat × List Char
  | [] => (significand, [])
  | c :: cs =>
    let next := 10 * significand + Numeral.value [c]
    if next ≤ maxSignificand then takeSignificand next cs else (significand, c :: cs)

/-- A power of ten, rounded. -/
def powerOfTen (n : Nat) : Double := Double.ofRatio false (Nat.pow 10 n) 1

/-- Divides by a power of ten in steps that are doubles. -/
def divideByPower (x : Double) (n : Nat) : Double :=
  if n ≤ 308 then x.div (powerOfTen n)
  else if x == Double.zero then x
  else divideByPower (x.div (powerOfTen 308)) (n - 308)
termination_by n

/-- The magnitude of a significand and a power of ten, unless it is too large. -/
def magnitude? (significand : Nat) (exponent : Int) : Option Double :=
  let x := Double.ofRatio false significand 1
  if 0 ≤ exponent then
    if 308 < exponent then
      if significand = 0 then some x else none
    else
      match x.mul (powerOfTen exponent.toNat) with
      | .infinite _ => none
      | product => some product
  else some (divideByPower x (-exponent).toNat)

/-- Keeps an exponent within the bounds of 32 bits. -/
def clampExponent (n : Int) : Int := max (-maxExponent - 1) (min maxExponent n)

namespace NumberParts

/-- The significand and the exponent before the written exponent is added. -/
def scaled (parts : NumberParts) : Nat × Int :=
  let (significand, dropped) := takeSignificand 0 parts.whole
  let (significand, unused) := takeSignificand significand parts.fraction
  (significand, (dropped.length : Int) - (parts.fraction.length - unused.length : Nat))

/-- Whether the number is written like an integer and its digits fit. -/
def isInteger (parts : NumberParts) : Bool :=
  parts.fraction.isEmpty && parts.exponent.isNone && (takeSignificand 0 parts.whole).2.isEmpty

/-- The double that the digits stand for, unless it is too large. -/
def magnitude? (parts : NumberParts) : Option Double :=
  let (significand, exponent) := parts.scaled
  match parts.exponent with
  | none => Json.magnitude? significand exponent
  | some (negative, digits) =>
    let written : Int := Numeral.value digits
    if maxExponent < written then
      if significand ≠ 0 ∧ !negative then none else some Double.zero
    else
      let total := if negative then exponent - written else exponent + written
      Json.magnitude? significand (clampExponent total)

/-- The number that the digits stand for. -/
def toJson? (parts : NumberParts) : Option Json :=
  let value := Numeral.value parts.whole
  let n : Int := if parts.negative then -(value : Int) else value
  if parts.isInteger && Numeral.fits n && !(parts.negative && value == 0) then some (.integer n)
  else
    parts.magnitude?.map fun x => .float (if parts.negative then x.negate else x)

end NumberParts

/-- Reads one or more digits. -/
def readDigits? (cs : List Char) : Option (List Char × List Char) :=
  match Numeral.digits cs with
  | ([], _) => none
  | run => some run

/-- Reads digits without a zero in front of others. -/
def readWhole? (cs : List Char) : Option (List Char × List Char) :=
  match readDigits? cs with
  | some ('0' :: _ :: _, _) => none
  | other => other

/-- Reads the fraction, if there is a point. -/
def readFraction? : List Char → Option (List Char × List Char)
  | '.' :: cs => readDigits? cs
  | cs => some ([], cs)

/-- Reads the exponent, if there is one. -/
def readExponent? : List Char → Option (Option (Bool × List Char) × List Char)
  | [] => some (none, [])
  | c :: cs =>
    if c = 'e' ∨ c = 'E' then do
      let (negative, body) := Numeral.sign cs
      let (digits, rest) ← readDigits? body
      some (some (negative, digits), rest)
    else some (none, c :: cs)

/-- Reads the number at the front of a text. -/
def readNumber (cs : List Char) : Option (Json × List Char) := do
  let (negative, body) := match cs with
    | '-' :: rest => (true, rest)
    | rest => (false, rest)
  let (whole, rest) ← readWhole? body
  let (fraction, rest) ← readFraction? rest
  let (exponent, rest) ← readExponent? rest
  let value ← NumberParts.toJson? ⟨negative, whole, fraction, exponent⟩
  some (value, rest)

end RecordQuery.Json

import RecordQuery.Number.Double

/-!
# Numerals

Texts that stand for numbers:

* `Numeral.integer?` — an optional sign and digits, for a number of 64 bits;
* `Numeral.double?` — an optional sign, digits with at most one point, an optional exponent; or
  one of the words for an infinity and for no number;
* `Numeral.isDecimal` — the literals of the query language, which know neither a plus sign nor
  an exponent.

Digits are the ten ASCII digits everywhere.
-/

namespace RecordQuery.Numeral

/-- The smallest integer of 64 bits. -/
def minInteger : Int := -9223372036854775808

/-- The largest integer of 64 bits. -/
def maxInteger : Int := 9223372036854775807

/-- Whether an integer fits 64 bits. -/
def fits (n : Int) : Bool := minInteger ≤ n && n ≤ maxInteger

/-- Splits off a sign: whether it is a minus, and the text after it. -/
def sign : List Char → Bool × List Char
  | '-' :: cs => (true, cs)
  | '+' :: cs => (false, cs)
  | cs => (false, cs)

/-- The digits at the front and what follows them. -/
def digits (cs : List Char) : List Char × List Char :=
  (cs.takeWhile Char.isDigit, cs.dropWhile Char.isDigit)

/-- The number that digits denote. -/
def value (cs : List Char) : Nat := Nat.ofDigitChars 10 cs 0

/-- Reads a text of one or more digits. -/
def natural? (cs : List Char) : Option Nat :=
  if cs.isEmpty || !cs.all Char.isDigit then none else some (value cs)

/-- Reads a signed integer that fits 64 bits. -/
def integer? (cs : List Char) : Option Int := do
  let (negative, body) := sign cs
  let n ← natural? body
  let z : Int := if negative then -(n : Int) else n
  if fits z then some z else none

/-- Reads what may follow the digits: nothing, or an `e` and a signed integer. -/
def exponent? : List Char → Option Int
  | [] => some 0
  | c :: cs =>
    if c = 'e' ∨ c = 'E' then do
      let (negative, body) := sign cs
      let n ← natural? body
      some (if negative then -(n : Int) else n)
    else none

/-- Reads digits with at most one point and an optional exponent. -/
def magnitude? (negative : Bool) (cs : List Char) : Option Double := do
  let (whole, rest) := digits cs
  let (fraction, rest) := match rest with
    | '.' :: tail => digits tail
    | other => ([], other)
  if whole.isEmpty && fraction.isEmpty then none
  let exponent ← exponent? rest
  some (Double.ofDecimal negative (value (whole ++ fraction)) (exponent - fraction.length))

/-- Reads a double; the words are read in any case of their letters. -/
def double? (cs : List Char) : Option Double :=
  let (negative, body) := sign cs
  match String.ofList (body.map Char.toLower) with
  | "inf" | "infinity" => some (.infinite negative)
  | "nan" => some .nan
  | _ => magnitude? negative body

/-- Whether a text is a decimal literal: an optional minus, then digits with at most one point
and at least one digit. -/
def isDecimal (cs : List Char) : Bool :=
  let body := match cs with
    | '-' :: tail => tail
    | other => other
  match digits body with
  | (whole, []) => !whole.isEmpty
  | (whole, c :: fraction) =>
    c == '.' && fraction.all Char.isDigit && !(whole.isEmpty && fraction.isEmpty)

end RecordQuery.Numeral

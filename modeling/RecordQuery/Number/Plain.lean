import RecordQuery.Number.Shortest

/-!
# Plain notation

Numbers as they appear in the text of keys and paths: the shortest digits, never an exponent,
and no point behind a whole number.
-/

namespace RecordQuery

namespace Decimal

/-- Writes a decimal without an exponent; a whole number has no point. -/
def positional (d : Decimal) : List Char :=
  if d.point ≤ 0 then '0' :: '.' :: List.replicate (-d.point).toNat '0' ++ d.digits
  else if d.digits.length ≤ d.point.toNat then
    d.digits ++ List.replicate (d.point.toNat - d.digits.length) '0'
  else d.digits.take d.point.toNat ++ '.' :: d.digits.drop d.point.toNat

end Decimal

/-- An integer in decimal digits. -/
def integerText (n : Int) : String :=
  let magnitude := Nat.toDigits 10 n.natAbs
  String.ofList (if n < 0 then '-' :: magnitude else magnitude)

/-- A double in plain notation. -/
def Double.plainText : Double → String
  | .nan => "NaN"
  | .infinite negative => if negative then "-inf" else "inf"
  | .finite negative units =>
    let magnitude := if units = 0 then ['0'] else (Double.shortest .away units).positional
    String.ofList (if negative then '-' :: magnitude else magnitude)

end RecordQuery

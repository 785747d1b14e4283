import RecordQuery.Json.Basic
import RecordQuery.Number.Plain

/-!
# Writing JSON

* `Json.compact` — without any blanks;
* `Json.pretty` — every item and member on a line of its own, indented by two spaces a level;
* `Json.doubleText` — the shortest digits of a double that read back: with a point and without
  an exponent from `0.00001` on and below `1e16`, and otherwise with an exponent that has a sign.
-/

namespace RecordQuery.Json

/-! ## Scalars -/

/-- A decimal with at least one digit on both sides of its point. -/
def withPoint (d : Decimal) : List Char :=
  if d.digits.length ≤ d.point.toNat then d.positional ++ ['.', '0'] else d.positional

/-- A decimal with one digit in front of its point, and an exponent. -/
def withExponent (d : Decimal) : List Char :=
  let exponent := d.point - 1
  let mantissa := match d.digits with
    | [] => ['0']
    | [c] => [c]
    | c :: cs => c :: '.' :: cs
  mantissa ++ 'e' :: (if exponent < 0 then '-' else '+') :: Nat.toDigits 10 exponent.natAbs

/-- The text of a double; what is no number has none. -/
def doubleText : Double → String
  | .nan | .infinite _ => "null"
  | .finite negative units =>
    let magnitude :=
      if units = 0 then "0.0".toList
      else
        let d := Double.shortest .even units
        if -4 ≤ d.point ∧ d.point ≤ 16 then withPoint d else withExponent d
    String.ofList (if negative then '-' :: magnitude else magnitude)

/-- A hexadecimal digit in lower case. -/
def hexDigitChar (n : Nat) : Char := Nat.digitChar (n % 16)

/-- A character in a text in quotes: only what has to be escaped is. -/
def escapeChar (c : Char) : List Char :=
  match c with
  | '"' => ['\\', '"']
  | '\\' => ['\\', '\\']
  | '\x08' => ['\\', 'b']
  | '\x0c' => ['\\', 'f']
  | '\n' => ['\\', 'n']
  | '\r' => ['\\', 'r']
  | '\t' => ['\\', 't']
  | c =>
    if c.toNat < 0x20 then
      ['\\', 'u', '0', '0', hexDigitChar (c.toNat / 16), hexDigitChar c.toNat]
    else [c]

/-- A text in quotes. -/
def quote (s : String) : String :=
  String.ofList ('"' :: s.toList.flatMap escapeChar ++ ['"'])

/-! ## Values -/

mutual

/-- A value without blanks. -/
def compact : Json → String
  | null => "null"
  | boolean b => if b then "true" else "false"
  | integer n => integerText n
  | float x => doubleText x
  | text s => quote s
  | array items => "[" ++ String.intercalate "," (compactItems items) ++ "]"
  | object members => "\x7b" ++ String.intercalate "," (compactMembers members) ++ "\x7d"

/-- Items without blanks. -/
def compactItems : List Json → List String
  | [] => []
  | item :: rest => compact item :: compactItems rest

/-- Members without blanks. -/
def compactMembers : List (String × Json) → List String
  | [] => []
  | (name, value) :: rest => (quote name ++ ":" ++ compact value) :: compactMembers rest

end

/-- The start of a line at some depth. -/
def newLine (depth : Nat) : String := String.ofList ('\n' :: List.replicate (2 * depth) ' ')

/-- Lines between two brackets, if there are any. -/
def enclose (opening closing : String) (depth : Nat) (lines : List String) : String :=
  if lines.isEmpty then opening ++ closing
  else
    opening ++ newLine (depth + 1) ++ String.intercalate ("," ++ newLine (depth + 1)) lines
      ++ newLine depth ++ closing

mutual

/-- A value on lines of its own, at some depth. -/
def prettyAt (depth : Nat) : Json → String
  | array items => enclose "[" "]" depth (prettyItems (depth + 1) items)
  | object members => enclose "\x7b" "\x7d" depth (prettyMembers (depth + 1) members)
  | scalar => compact scalar

/-- Items on lines of their own. -/
def prettyItems (depth : Nat) : List Json → List String
  | [] => []
  | item :: rest => prettyAt depth item :: prettyItems depth rest

/-- Members on lines of their own. -/
def prettyMembers (depth : Nat) : List (String × Json) → List String
  | [] => []
  | (name, value) :: rest => (quote name ++ ": " ++ prettyAt depth value) :: prettyMembers depth rest

end

/-- A value on lines of its own. -/
def pretty (v : Json) : String := prettyAt 0 v

end RecordQuery.Json

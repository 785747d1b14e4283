import RecordQuery.Text.Blank

/-!
# Sets of code points

A set of code points is kept as a list of ranges in ascending order that neither overlap nor
touch, so a set has one form.

* `contains` — membership;
* `union`, `inter`, `diff`, `symmDiff`, `compl` — the set operations;
* `ofText` — reads a written table: `41` is a code point, `41-5A` a range, and `100-12E/2` every
  second code point of a range, all in hexadecimal digits and separated by blanks.
-/

namespace RecordQuery

/-- The last code point. -/
def lastCodePoint : Nat := 0x10FFFF

/-- Ranges of code points, both ends included, ascending and apart from each other. -/
structure CodePointSet where
  ranges : List (Nat × Nat)
  deriving DecidableEq

namespace CodePointSet

/-- Joins a range with the ranges after it, which start no earlier. -/
def attach (range : Nat × Nat) : List (Nat × Nat) → List (Nat × Nat)
  | [] => [range]
  | next :: rest =>
    if next.1 ≤ range.2 + 1 then attach (range.1, max range.2 next.2) rest
    else range :: next :: rest

/-- Joins ranges that are sorted by their starts. -/
def coalesce : List (Nat × Nat) → List (Nat × Nat)
  | [] => []
  | range :: rest => attach range (coalesce rest)

/-- The set of all code points of some ranges, given in any order. -/
def ofRanges (ranges : List (Nat × Nat)) : CodePointSet :=
  ⟨coalesce (ranges.mergeSort fun a b => a.1 ≤ b.1)⟩

/-- The set without a code point. -/
def empty : CodePointSet := ⟨[]⟩

instance : Inhabited CodePointSet := ⟨empty⟩

/-- The set of all code points. -/
def all : CodePointSet := ⟨[(0, lastCodePoint)]⟩

/-- The code points from one to another. -/
def range (first last : Nat) : CodePointSet := ⟨if first ≤ last then [(first, last)] else []⟩

/-- The set of one code point. -/
def singleton (n : Nat) : CodePointSet := ⟨[(n, n)]⟩

/-- Whether a code point lies in the set. -/
def contains (s : CodePointSet) (n : Nat) : Bool :=
  s.ranges.any fun r => r.1 ≤ n && n ≤ r.2

/-- Whether a character lies in the set. -/
def has (s : CodePointSet) (c : Char) : Bool := s.contains c.toNat

/-- Whether there is no code point in the set. -/
def isEmpty (s : CodePointSet) : Bool := s.ranges.isEmpty

/-- The gaps between ranges, from a code point on. -/
def gaps (start : Nat) : List (Nat × Nat) → List (Nat × Nat)
  | [] => if start ≤ lastCodePoint then [(start, lastCodePoint)] else []
  | r :: rest => (if start < r.1 then [(start, r.1 - 1)] else []) ++ gaps (r.2 + 1) rest

/-- The code points outside of the set. -/
def compl (s : CodePointSet) : CodePointSet := ⟨gaps 0 s.ranges⟩

/-- The code points of either set. -/
def union (s t : CodePointSet) : CodePointSet := ofRanges (s.ranges ++ t.ranges)

/-- The code points of both sets. -/
def inter (s t : CodePointSet) : CodePointSet := (s.compl.union t.compl).compl

/-- The code points of the first set that are not in the second. -/
def diff (s t : CodePointSet) : CodePointSet := (s.compl.union t).compl

/-- The code points of exactly one of two sets. -/
def symmDiff (s t : CodePointSet) : CodePointSet := (s.diff t).union (t.diff s)

/-- The union of many sets. -/
def unions (sets : List CodePointSet) : CodePointSet :=
  ofRanges (sets.flatMap ranges)

/-! ## Written tables -/

/-- The value of a hexadecimal digit. -/
def hexDigit? (c : Char) : Option Nat :=
  if '0' ≤ c ∧ c ≤ '9' then some (c.toNat - '0'.toNat)
  else if 'a' ≤ c ∧ c ≤ 'f' then some (c.toNat - 'a'.toNat + 10)
  else if 'A' ≤ c ∧ c ≤ 'F' then some (c.toNat - 'A'.toNat + 10)
  else none

/-- The number that hexadecimal digits denote; other characters are passed over. -/
def hexValue (cs : List Char) : Nat :=
  cs.foldl (fun n c => match hexDigit? c with
    | some d => 16 * n + d
    | none => n) 0

/-- Splits a text at a character. -/
def splitAtChar (mark : Char) (cs : List Char) : List Char × List Char :=
  (cs.takeWhile (· != mark), (cs.dropWhile (· != mark)).drop 1)

/-- Every second code point of a range. -/
def stepwise (first last : Nat) : List (Nat × Nat) :=
  (List.range ((last - first) / 2 + 1)).map fun i => (first + 2 * i, first + 2 * i)

/-- Reads one item of a written table. -/
def readItem (cs : List Char) : List (Nat × Nat) :=
  let (bounds, step) := splitAtChar '/' cs
  let (low, high) := splitAtChar '-' bounds
  let first := hexValue low
  let last := if high.isEmpty then first else hexValue high
  if step.isEmpty then [(first, last)] else stepwise first last

/-- Reads a written table. -/
def ofText (text : String) : CodePointSet :=
  ofRanges ((Text.words text.toList).flatMap readItem)

end CodePointSet

end RecordQuery

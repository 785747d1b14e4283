/-!
# Blank characters

Blank characters separate words and surround numbers: the 25 characters of the property
White_Space.  Three views of one class:

* `isBlank` — the characters themselves;
* `trim` — a text without the blanks at its two ends;
* `words` — the longest runs without a blank, in order.
-/

namespace RecordQuery.Text

/-- The characters of the property White_Space. -/
def isBlank (c : Char) : Bool :=
  let n := c.toNat
  (9 ≤ n && n ≤ 13) || n == 0x20 || n == 0x85 || n == 0xA0 || n == 0x1680
    || (0x2000 ≤ n && n ≤ 0x200A) || n == 0x2028 || n == 0x2029 || n == 0x202F
    || n == 0x205F || n == 0x3000

/-- Drops the blanks at both ends. -/
def trim (cs : List Char) : List Char :=
  ((cs.dropWhile isBlank).reverse.dropWhile isBlank).reverse

/-- Closes a word that is being read from right to left, unless it is empty. -/
def closeWord (word : List Char) (closed : List (List Char)) : List (List Char) :=
  if word.isEmpty then closed else word :: closed

/-- The word that a text starts with, which may be empty, and the words after it. -/
def splitFirst : List Char → List Char × List (List Char)
  | [] => ([], [])
  | c :: cs =>
    let (word, others) := splitFirst cs
    if isBlank c then ([], closeWord word others) else (c :: word, others)

/-- The words of a text: the longest runs without a blank. -/
def words (cs : List Char) : List (List Char) :=
  let (word, others) := splitFirst cs
  closeWord word others

end RecordQuery.Text

import RecordQuery.Unicode.CodePointSet

/-!
# Bytes of characters

A range of characters as sequences of byte ranges: every sequence stands for the texts that take
one byte of each of its ranges.

* `codeBytes` — the bytes of a code point;
* `byteSequences` — the sequences of a range.
-/

namespace RecordQuery.Pattern

/-- The bytes of a code point. -/
def codeBytes (n : Nat) : List Nat :=
  if n < 0x80 then [n]
  else if n < 0x800 then [0xC0 + n / 64, 0x80 + n % 64]
  else if n < 0x10000 then [0xE0 + n / 4096, 0x80 + n / 64 % 64, 0x80 + n % 64]
  else [0xF0 + n / 262144, 0x80 + n / 4096 % 64, 0x80 + n / 64 % 64, 0x80 + n % 64]

/-- Where a range has to be cut so that its bytes are ranges, if it has to be cut: between
lengths, and where its ends leave a block of continuation bytes incomplete. -/
def cut? (first last : Nat) : Option Nat :=
  let lengths := [0x7F, 0x7FF, 0xD7FF, 0xDFFF, 0xFFFF].find? fun n => first ≤ n && n < last
  let blocks := [64, 4096, 262144].findSome? fun block =>
    if first / block = last / block then none
    else if first % block ≠ 0 then some (first / block * block + block - 1)
    else if last % block ≠ block - 1 then some (last / block * block - 1)
    else none
  lengths <|> (if last < 0x80 then none else blocks)

/-- A range of bytes, both ends included. -/
abbrev ByteRange := Nat × Nat

/-- The byte ranges of the characters of a range, in order.  A range is cut a bounded number of
times on either side. -/
def byteSequences : Nat → Nat → Nat → List (List ByteRange)
  | 0, _, _ => []
  | fuel + 1, first, last =>
    if first = 0xD800 ∧ last ≤ 0xDFFF then []
    else match cut? first last with
      | some n => byteSequences fuel first n ++ byteSequences fuel (n + 1) last
      | none => [(codeBytes first).zip (codeBytes last)]

/-- The byte ranges of the characters of a set, in order. -/
def setSequences (s : CodePointSet) : List (List ByteRange) :=
  s.ranges.flatMap fun r => byteSequences 32 r.1 r.2

end RecordQuery.Pattern

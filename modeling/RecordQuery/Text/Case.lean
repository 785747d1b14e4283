import RecordQuery.Unicode.CaseMap
import RecordQuery.Unicode.Newer

/-!
# Case of texts

Lower and upper case of a whole text.  A character may become several, and one character looks
at its surroundings: a capital sigma at the end of a word becomes a final sigma.

* `lower`, `upper` — the text in the other case;
* `endsWord` — whether a capital sigma between two texts stands at the end of a word.
-/

namespace RecordQuery.Text

/-- The image of a character; what a table does not list stays as it is. -/
def image (table : List (Nat × List Nat)) (c : Char) : List Char :=
  match table.find? (fun e => e.1 == c.toNat) with
  | some (_, codes) => codes.map Char.ofNat
  | none => [c]

/-- Whether the first character that is not passed over has a case. -/
def meetsCased (cs : List Char) : Bool :=
  match cs.dropWhile Unicode.Newer.caseIgnorable.has with
  | [] => false
  | c :: _ => Unicode.Newer.cased.has c

/-- Whether the place between two texts is the end of a word: a cased character stands before
it and none behind it.  The text before it is given last character first. -/
def endsWord (before after : List Char) : Bool := meetsCased before && !meetsCased after

/-- Lower case of the rest of a text; what stands before it is given last character first. -/
def lowerFrom (before : List Char) : List Char → List Char
  | [] => []
  | c :: cs =>
    (if c = 'Σ' then [if endsWord before cs then 'ς' else 'σ']
      else image Unicode.lowerTable c) ++ lowerFrom (c :: before) cs

/-- A text in lower case. -/
def lower (cs : List Char) : List Char := lowerFrom [] cs

/-- A text in upper case. -/
def upper (cs : List Char) : List Char := cs.flatMap (image Unicode.upperTable)

end RecordQuery.Text

import RecordQuery.Pattern.Escape

/-!
# Reading classes

A class stands in brackets and holds characters, ranges, named sets and further classes, and
operations between them.  The operations bind alike and group to the left, and what stands side
by side is united first.

* `ClassLevel` — a class or an operation that is not complete yet;
* `readClass` — the class behind an opening bracket.
-/

namespace RecordQuery.Pattern

/-- What waits for the rest of a class, innermost first. -/
inductive ClassLevel where
  /-- An open bracket, and the items before it, last item first. -/
  | bracket (outer : List SetExpr) (negated : Bool)
  /-- An operation and its left side. -/
  | operation (op : SetOp) (left : SetExpr)

/-- The names of the ASCII classes. -/
def asciiClass? : String → Option AsciiClass
  | "alnum" => some .alnum
  | "alpha" => some .alpha
  | "ascii" => some .ascii
  | "blank" => some .blank
  | "cntrl" => some .cntrl
  | "digit" => some .digit
  | "graph" => some .graph
  | "lower" => some .lower
  | "print" => some .print
  | "punct" => some .punct
  | "space" => some .space
  | "upper" => some .upper
  | "word" => some .word
  | "xdigit" => some .xdigit
  | _ => none

/-- Reads a named ASCII class behind its bracket, if there is one. -/
def readAsciiClass? : List Char → Option (SetExpr × List Char)
  | ':' :: cs =>
    let (negated, body) := match cs with
      | '^' :: rest => (true, rest)
      | rest => (false, rest)
    let name := body.takeWhile (· != ':')
    match body.dropWhile (· != ':') with
    | ':' :: ']' :: rest =>
      (asciiClass? (String.ofList name)).map fun kind => (.ascii kind negated, rest)
    | _ => none
  | _ => none

/-- The start of a class: whether it is negated, the characters that stand for themselves only
at the start, and what follows, which may not be the end of the pattern. -/
def readClassStart (extended : Bool) (cs : List Char) :
    Option (Bool × List SetExpr × List Char) :=
  let body := skip extended cs
  let (negated, body) := match body with
    | '^' :: rest => (true, skip extended rest)
    | rest => (false, rest)
  let (dashes, body) := gather extended (· == '-') body
  let items := dashes.map fun c => SetExpr.letter ⟨c, false⟩
  let (items, body) := match dashes, body with
    | [], ']' :: rest => ([SetExpr.letter ⟨']', false⟩], skip extended rest)
    | _, rest => (items, rest)
  if body.isEmpty then none else some (negated, items, body)

/-- The next character but blanks and the mark of a comment. -/
def peek (extended : Bool) (cs : List Char) : Option Char :=
  if extended then
    match cs.dropWhile Text.isBlank with
    | '#' :: rest => (rest.dropWhile Text.isBlank).head?
    | rest => rest.head?
  else cs.head?

/-- Reads a character, a named set or a range. -/
def readClassItem (extended : Bool) (cs : List Char) : Option (SetExpr × List Char) := do
  let (first, rest) ← readCharacter extended cs
  match skip extended rest with
  | [] => none
  | '-' :: tail =>
    if peek extended tail = some ']' ∨ peek extended tail = some '-' then
      let item ← first.toSetExpr?
      some (item, '-' :: tail)
    else
      let (last, rest) ← readCharacter extended (skip extended tail)
      let first ← first.toLetter?
      let last ← last.toLetter?
      if first.char ≤ last.char then some (.range first last, rest) else none
  | tail =>
    let item ← first.toSetExpr?
    some (item, tail)

/-- Completes the operation that waits for its right side, if one does. -/
def closeOperation (right : SetExpr) : List ClassLevel → SetExpr × List ClassLevel
  | .operation op left :: levels => (.combined op left right, levels)
  | levels => (right, levels)

/-- The sign of an operation at the front of a text. -/
def readSetOp? : List Char → Option (SetOp × List Char)
  | '&' :: '&' :: cs => some (.inter, cs)
  | '-' :: '-' :: cs => some (.diff, cs)
  | '~' :: '~' :: cs => some (.symmDiff, cs)
  | _ => none

/-- Reads a class to its closing bracket.  The items read so far of the innermost class come
last item first. -/
def readClassBody (extended : Bool) : Nat → List ClassLevel → List SetExpr → List Char →
    Option (SetExpr × List Char)
  | 0, _, _, _ => none
  | fuel + 1, levels, items, cs =>
    match skip extended cs with
    | [] => none
    | '[' :: rest =>
      match readAsciiClass? rest with
      | some (item, rest) => readClassBody extended fuel levels (item :: items) rest
      | none => do
        let (negated, start, rest) ← readClassStart extended rest
        readClassBody extended fuel (.bracket items negated :: levels) start.reverse rest
    | ']' :: rest =>
      match closeOperation (.ofItems items.reverse) levels with
      | (body, .bracket _ negated :: []) => some (.bracket body negated, rest)
      | (body, .bracket outer negated :: levels) =>
        readClassBody extended fuel levels (.bracket body negated :: outer) rest
      | _ => none
    | cs =>
      match readSetOp? cs with
      | some (op, rest) =>
        let (left, levels) := closeOperation (.ofItems items.reverse) levels
        readClassBody extended fuel (.operation op left :: levels) [] rest
      | none => do
        let (item, rest) ← readClassItem extended cs
        readClassBody extended fuel levels (item :: items) rest

/-- Reads the class behind an opening bracket. -/
def readClass (extended : Bool) (cs : List Char) : Option (SetExpr × List Char) := do
  let (negated, start, rest) ← readClassStart extended cs
  readClassBody extended (cs.length + 1) [.bracket [] negated] start.reverse rest

end RecordQuery.Pattern

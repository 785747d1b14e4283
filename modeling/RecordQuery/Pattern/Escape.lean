import RecordQuery.Pattern.Written
import RecordQuery.Unicode.CodePointSet

/-!
# Escapes in patterns

What a backslash and the characters behind it stand for.  Where blanks are passed over, they may
also stand inside an escape.  A function that reads gives the characters behind what it read, or
nothing if the pattern is malformed.

* `skip` — passes over blanks and comments;
* `gather` — reads a run of characters that may be interrupted by them;
* `readEscape` — the escape behind a backslash.
-/

namespace RecordQuery.Pattern

/-- Passes over blanks and comments, from inside a comment or from outside. -/
def skipFrom (inComment : Bool) : List Char → List Char
  | [] => []
  | c :: cs =>
    if inComment then skipFrom (c != '\n') cs
    else if Text.isBlank c then skipFrom false cs
    else if c = '#' then skipFrom true cs
    else c :: cs

/-- Passes over blanks and comments where the flag says so. -/
def skip (extended : Bool) (cs : List Char) : List Char :=
  if extended then skipFrom false cs else cs

/-- Reads a run of characters of one kind. -/
def gatherFrom (inComment extended : Bool) (p : Char → Bool) :
    List Char → List Char × List Char
  | [] => ([], [])
  | c :: cs =>
    if inComment then gatherFrom (c != '\n') extended p cs
    else if extended && Text.isBlank c then gatherFrom false extended p cs
    else if extended && c == '#' then gatherFrom true extended p cs
    else if p c then
      let (run, rest) := gatherFrom false extended p cs
      (c :: run, rest)
    else ([], c :: cs)

/-- Reads a run of characters of one kind, passing over blanks and comments in it and behind
it where the flag says so. -/
def gather (extended : Bool) (p : Char → Bool) (cs : List Char) : List Char × List Char :=
  gatherFrom false extended p cs

/-- What a single escape or character of a pattern stands for. -/
inductive Atom where
  | letter (l : Letter)
  | dot
  | assertion (a : Assertion)
  | shorthand (kind : Shorthand) (negated : Bool)
  | property (name : PropertyName) (negated : Bool)

namespace Atom

/-- The atom as a pattern. -/
def toWritten : Atom → Written
  | letter l => .letter l
  | dot => .dot
  | assertion a => .assertion a
  | shorthand kind negated => .set (.shorthand kind negated)
  | property name negated => .set (.property name negated)

/-- The atom as an item of a class; an assertion is none. -/
def toSetExpr? : Atom → Option SetExpr
  | letter l => some (.letter l)
  | shorthand kind negated => some (.shorthand kind negated)
  | property name negated => some (.property name negated)
  | dot | assertion _ => none

/-- The atom as an end of a range. -/
def toLetter? : Atom → Option Letter
  | letter l => some l
  | _ => none

/-- A character that stands for itself. -/
def plain (c : Char) : Atom := .letter ⟨c, false⟩

end Atom

/-- Whether a character is a hexadecimal digit. -/
def isHexDigit (c : Char) : Bool := (CodePointSet.hexDigit? c).isSome

/-- The character with a number. -/
def charOf? (n : Nat) : Option Char :=
  if n.isValidChar then some (Char.ofNat n) else none

/-- Reads a fixed number of hexadecimal digits. -/
def readHexDigits (extended : Bool) : Nat → List Char → Option (List Char × List Char)
  | 0, cs => some ([], cs)
  | n + 1, cs =>
    match skip extended cs with
    | [] => none
    | c :: rest =>
      if isHexDigit c then
        (readHexDigits extended n rest).map fun r => (c :: r.1, r.2)
      else none

/-- Reads a character by its number: some digits, or any number of digits in braces. -/
def readHex (extended : Bool) (count : Nat) (cs : List Char) : Option (Atom × List Char) :=
  match skip extended cs with
  | '\x7b' :: body =>
    match gather extended (· != '\x7d') body with
    | (digits, _ :: rest) => do
      if digits.isEmpty || !digits.all isHexDigit then none
      let c ← charOf? (CodePointSet.hexValue digits)
      some (.plain c, skip extended rest)
    | (_, []) => none
  | body => do
    let (digits, rest) ← readHexDigits extended count body
    let c ← charOf? (CodePointSet.hexValue digits)
    some (.letter ⟨c, count == 2⟩, skip extended rest)

/-- Splits a text at the first place where a mark stands. -/
def splitAtMark? (mark : List Char) : List Char → Option (List Char × List Char)
  | [] => none
  | c :: cs =>
    match mark.isPrefixOf? (c :: cs) with
    | some rest => some ([], rest)
    | none => (splitAtMark? mark cs).map fun r => (c :: r.1, r.2)

/-- Splits what stands in the braces of a property.  The sign that the value is another one
negates the property. -/
def splitProperty (text : List Char) : PropertyName × Bool :=
  match splitAtMark? ['!', '='] text with
  | some (name, value) => (.valued name value, true)
  | none =>
    match splitAtMark? [':'] text <|> splitAtMark? ['='] text with
    | some (name, value) => (.valued name value, false)
    | none => (.named text, false)

/-- Reads a property: one letter, or a name in braces. -/
def readProperty (extended negated : Bool) (cs : List Char) : Option (Atom × List Char) :=
  match skip extended cs with
  | [] => none
  | '\x7b' :: body =>
    match gather extended (· != '\x7d') body with
    | (text, _ :: rest) =>
      let (name, differs) := splitProperty text
      some (.property name (negated != differs), rest)
    | (_, []) => none
  | c :: rest =>
    if c = '\\' then none else some (.property (.named [c]) negated, skip extended rest)

/-- The names of borders of words. -/
def wordBorder? : String → Option Assertion
  | "start" => some .wordStart
  | "end" => some .wordEnd
  | "start-half" => some .wordStartHalf
  | "end-half" => some .wordEndHalf
  | _ => none

/-- Whether a character may stand in the name of a border. -/
def isBorderName (c : Char) : Bool := c.isAlpha || c == '-'

/-- Reads what stands behind the escape of a border: the name of a special border in braces, or
else nothing that belongs to it. -/
def readBorder (extended : Bool) (cs : List Char) : Option (Atom × List Char) :=
  match cs with
  | '\x7b' :: body =>
    match skip extended body with
    | [] => none
    | c :: named =>
      if isBorderName c then
        match gather extended isBorderName (c :: named) with
        | (name, '\x7d' :: rest) =>
          (wordBorder? (String.ofList name)).map fun a => (.assertion a, rest)
        | _ => none
      else some (.assertion .boundary, cs)
  | _ => some (.assertion .boundary, cs)

/-- Whether a backslash makes a character stand for itself: any ASCII character but letters,
digits and the angle brackets. -/
def isEscapable (c : Char) : Bool :=
  c.toNat < 0x80 && !c.isAlphanum && c != '<' && c != '>'

/-- Reads the escape behind a backslash. -/
def readEscape (extended : Bool) : List Char → Option (Atom × List Char)
  | [] => none
  | c :: cs =>
    match c with
    | 'x' => readHex extended 2 cs
    | 'u' => readHex extended 4 cs
    | 'U' => readHex extended 8 cs
    | 'p' => readProperty extended false cs
    | 'P' => readProperty extended true cs
    | 'd' => some (.shorthand .digit false, cs)
    | 's' => some (.shorthand .space false, cs)
    | 'w' => some (.shorthand .word false, cs)
    | 'D' => some (.shorthand .digit true, cs)
    | 'S' => some (.shorthand .space true, cs)
    | 'W' => some (.shorthand .word true, cs)
    | 'a' => some (.plain '\x07', cs)
    | 'f' => some (.plain '\x0c', cs)
    | 't' => some (.plain '\t', cs)
    | 'n' => some (.plain '\n', cs)
    | 'r' => some (.plain '\r', cs)
    | 'v' => some (.plain '\x0b', cs)
    | 'A' => some (.assertion .textStart, cs)
    | 'z' => some (.assertion .textEnd, cs)
    | 'b' => readBorder extended cs
    | 'B' => some (.assertion .noBoundary, cs)
    | '<' => some (.assertion .wordStart, cs)
    | '>' => some (.assertion .wordEnd, cs)
    | c => if isEscapable c then some (.plain c, cs) else none

/-- Reads a character or an escape. -/
def readCharacter (extended : Bool) : List Char → Option (Atom × List Char)
  | [] => none
  | '\\' :: cs => readEscape extended cs
  | c :: cs => some (.plain c, cs)

end RecordQuery.Pattern

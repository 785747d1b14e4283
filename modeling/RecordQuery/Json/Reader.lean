import RecordQuery.Json.Number
import RecordQuery.Unicode.CodePointSet

/-!
# Reading JSON

A text is read in two steps: first into marks — brackets, commas, colons and scalars — and then
into a value.  The second step keeps the open arrays and objects on a list, so it goes through
the marks one by one; no more than `maxNesting` of them may be open at once.

* `Json.marks?` — the marks of a text;
* `Json.read?` — the value of a text.
-/

namespace RecordQuery.Json

/-! ## Marks -/

/-- A mark of a text: a scalar or a sign of the grammar. -/
inductive Mark where
  | scalar (value : Json)
  | openArray
  | closeArray
  | openObject
  | closeObject
  | comma
  | colon

/-- Whether a character may stand between marks. -/
def isSpace (c : Char) : Bool := c == ' ' || c == '\n' || c == '\t' || c == '\r'

/-- Reads four hexadecimal digits. -/
def readUnit? : List Char → Option (Nat × List Char)
  | a :: b :: c :: d :: rest => do
    let a ← CodePointSet.hexDigit? a
    let b ← CodePointSet.hexDigit? b
    let c ← CodePointSet.hexDigit? c
    let d ← CodePointSet.hexDigit? d
    some (4096 * a + 256 * b + 16 * c + d, rest)
  | _ => none

/-- Reads the number of a character: one unit, or two units for the two halves of it. -/
def readUnits? (cs : List Char) : Option (Char × List Char) := do
  let (first, rest) ← readUnit? cs
  if 0xDC00 ≤ first ∧ first ≤ 0xDFFF then none
  else if 0xD800 ≤ first ∧ first ≤ 0xDBFF then
    match rest with
    | '\\' :: 'u' :: rest => do
      let (second, rest) ← readUnit? rest
      if 0xDC00 ≤ second ∧ second ≤ 0xDFFF then
        some (Char.ofNat (0x10000 + 0x400 * (first - 0xD800) + (second - 0xDC00)), rest)
      else none
    | _ => none
  else some (Char.ofNat first, rest)

/-- The character that a letter behind a backslash stands for. -/
def escape? : Char → Option Char
  | '"' => some '"'
  | '\\' => some '\\'
  | '/' => some '/'
  | 'b' => some '\x08'
  | 'f' => some '\x0c'
  | 'n' => some '\n'
  | 'r' => some '\r'
  | 't' => some '\t'
  | _ => none

/-- Reads one character of a text in quotes; a control character may not stand there as it
is. -/
def readChar? : List Char → Option (Char × List Char)
  | '\\' :: 'u' :: cs => readUnits? cs
  | '\\' :: c :: cs => (escape? c).map (·, cs)
  | c :: cs => if c == '\\' || c.toNat < 0x20 then none else some (c, cs)
  | [] => none

/-- Reads the rest of a text in quotes.  Every round takes at least one character. -/
def readText? : Nat → List Char → Option (List Char × List Char)
  | 0, _ => none
  | fuel + 1, cs =>
    match cs with
    | '"' :: rest => some ([], rest)
    | cs => do
      let (c, rest) ← readChar? cs
      let (more, rest) ← readText? fuel rest
      some (c :: more, rest)

/-- The words of the grammar. -/
def words : List (String × Json) :=
  [("null", .null), ("true", .boolean true), ("false", .boolean false)]

/-- Reads a word of the grammar. -/
def readWord? (cs : List Char) : Option (Json × List Char) :=
  words.findSome? fun word => (word.1.toList.isPrefixOf? cs).map fun rest => (word.2, rest)

/-- Reads one mark of a text that is no longer than the fuel. -/
def readMark? (fuel : Nat) : List Char → Option (Mark × List Char)
  | '[' :: cs => some (.openArray, cs)
  | ']' :: cs => some (.closeArray, cs)
  | '\x7b' :: cs => some (.openObject, cs)
  | '\x7d' :: cs => some (.closeObject, cs)
  | ',' :: cs => some (.comma, cs)
  | ':' :: cs => some (.colon, cs)
  | '"' :: cs =>
    (readText? fuel cs).map fun r => (.scalar (.text (String.ofList r.1)), r.2)
  | cs => (readWord? cs <|> readNumber cs).map fun r => (.scalar r.1, r.2)

/-- Reads the marks of a text.  Every round takes at least one character. -/
def readMarks? : Nat → List Char → Option (List Mark)
  | 0, _ => none
  | fuel + 1, cs =>
    match cs.dropWhile isSpace with
    | [] => some []
    | cs => do
      let (mark, rest) ← readMark? fuel cs
      let marks ← readMarks? fuel rest
      some (mark :: marks)

/-- The marks of a text. -/
def marks? (cs : List Char) : Option (List Mark) := readMarks? (cs.length + 1) cs

/-! ## Values -/

/-- The most arrays and objects that may be open at once. -/
def maxNesting : Nat := 127

/-- An open array or object, with its items or members so far, last one first, and the name of
the member that is being read. -/
inductive Container where
  | array (items : List Json)
  | object (members : List (String × Json)) (name : String)

/-- What may come next. -/
inductive Expected where
  | value
  | valueOrClose
  | name
  | nameOrClose
  | colon (name : String)
  | commaOrClose
  /-- The value is complete. -/
  | nothing (value : Json)

/-- The open arrays and objects, innermost first, and what may come next. -/
structure ReaderState where
  containers : List Container
  expected : Expected

namespace ReaderState

/-- The state at the start of a text. -/
def initial : ReaderState := ⟨[], .value⟩

/-- The state behind a complete value, which belongs to the innermost container. -/
def accept (v : Json) : List Container → ReaderState
  | [] => ⟨[], .nothing v⟩
  | .array items :: outer => ⟨.array (v :: items) :: outer, .commaOrClose⟩
  | .object members name :: outer => ⟨.object ((name, v) :: members) name :: outer, .commaOrClose⟩

/-- The state inside a new container, unless too many are open. -/
def enter? (container : Container) (expected : Expected) (containers : List Container) :
    Option ReaderState :=
  if maxNesting ≤ containers.length then none else some ⟨container :: containers, expected⟩

/-- The state behind a mark, if the mark may come there. -/
def step? (state : ReaderState) (mark : Mark) : Option ReaderState :=
  match state.expected, mark, state.containers with
  | .value, .scalar v, cs | .valueOrClose, .scalar v, cs => some (accept v cs)
  | .value, .openArray, cs | .valueOrClose, .openArray, cs => enter? (.array []) .valueOrClose cs
  | .value, .openObject, cs | .valueOrClose, .openObject, cs =>
    enter? (.object [] "") .nameOrClose cs
  | .name, .scalar (.text name), cs | .nameOrClose, .scalar (.text name), cs =>
    some ⟨cs, .colon name⟩
  | .colon name, .colon, .object members _ :: outer => some ⟨.object members name :: outer, .value⟩
  | .commaOrClose, .comma, .array items :: outer => some ⟨.array items :: outer, .value⟩
  | .commaOrClose, .comma, .object members name :: outer =>
    some ⟨.object members name :: outer, .name⟩
  | .commaOrClose, .closeArray, .array items :: outer
  | .valueOrClose, .closeArray, .array items :: outer =>
    some (accept (.array items.reverse) outer)
  | .commaOrClose, .closeObject, .object members _ :: outer
  | .nameOrClose, .closeObject, .object members _ :: outer =>
    some (accept (.object (membersOf members.reverse)) outer)
  | _, _, _ => none

/-- The value, if it is complete. -/
def value? (state : ReaderState) : Option Json :=
  match state.expected with
  | .nothing v => some v
  | _ => none

end ReaderState

/-- Reads a text. -/
def read? (text : String) : Option Json := do
  let marks ← marks? text.toList
  let state ← marks.foldlM ReaderState.step? .initial
  state.value?

end RecordQuery.Json

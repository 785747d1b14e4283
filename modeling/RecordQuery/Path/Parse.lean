import RecordQuery.Number.Numeral
import RecordQuery.Path.Basic
import RecordQuery.Text.Blank

/-!
# Reading field paths

A path is a head, then keys in brackets, then blanks: `head[k₁]…[kₙ]`.  The head holds no
bracket, and is left out if it is empty and a key follows.  Brackets may nest inside a key and
must balance.

* `Segment.parse` — what a single key says;
* `FieldPath.parse` — the whole path; a failure tells its cause and the offending span in
  characters of the path.
-/

namespace RecordQuery

/-- Why a text is no field path. -/
inductive PathFault where
  | missingNumber (text : String)
  | strayClose
  | neverClosed
  | trailing
  deriving DecidableEq

/-- The wording of a fault. -/
def PathFault.message : PathFault → String
  | missingNumber text =>
    "expected a number after '" ++ Segment.numberMark ++ "', got '" ++ text ++ "'"
  | strayClose => "unbalanced brackets: unexpected ']'"
  | neverClosed => "unbalanced brackets: '[' is never closed"
  | trailing => "unexpected characters after ']'"

/-- A fault and the span of the path that shows it. -/
structure PathError where
  fault : PathFault
  offset : Nat
  length : Nat
  deriving DecidableEq

/-- Removes a mark from the front of a text. -/
def stripMark? (mark : String) (cs : List Char) : Option (List Char) :=
  mark.toList.isPrefixOf? cs

namespace Segment

/-- Reads the number behind the mark; the offset is that of the whole key. -/
def parseNumber (raw rest : List Char) (offset : Nat) : Except PathError Segment :=
  let numeral := Text.trim rest
  match Numeral.double? numeral with
  | some x => .ok (.number (Numeral.integer? numeral) x)
  | none => .error ⟨.missingNumber (String.ofList rest), offset, raw.length⟩

/-- Reads one key. -/
def parse (raw : List Char) (offset : Nat) : Except PathError Segment :=
  if raw = "$ANY".toList then .ok .any
  else if raw = "$SELF".toList then .ok .self
  else match stripMark? numberMark raw with
    | some rest => parseNumber raw rest offset
    | none => .ok (.key (String.ofList raw))

end Segment

namespace FieldPath

mutual

/-- Reads the keys in brackets, from between two keys. -/
def parseKeys (offset : Nat) : List Char → Except PathError (List Segment)
  | [] => .ok []
  | c :: cs =>
    if c = '[' then parseKey offset (offset + 1) 0 [] cs
    else if (c :: cs).all Text.isBlank then .ok []
    else .error ⟨.trailing, offset, cs.length + 1⟩

/-- Reads on inside a key that was opened before: `depth` further brackets are open, and `key`
is what was read of the key, last character first. -/
def parseKey (opened offset depth : Nat) (key : List Char) :
    List Char → Except PathError (List Segment)
  | [] => .error ⟨.neverClosed, opened, offset - opened⟩
  | c :: cs =>
    if c = '[' then parseKey opened (offset + 1) (depth + 1) (c :: key) cs
    else if c = ']' then
      match depth with
      | 0 => do
        let segment ← Segment.parse key.reverse (opened + 1)
        let others ← parseKeys (offset + 1) cs
        .ok (segment :: others)
      | depth + 1 => parseKey opened (offset + 1) depth (c :: key) cs
    else parseKey opened (offset + 1) depth (c :: key) cs

end

/-- Reads a path. -/
def parse (text : List Char) : Except PathError FieldPath := do
  let head := text.takeWhile (· != '[')
  let keys := text.dropWhile (· != '[')
  if head.contains ']' then
    .error ⟨.strayClose, (head.takeWhile (· != ']')).length, 1⟩
  else if head.isEmpty && !keys.isEmpty then
    let segments ← parseKeys 0 keys
    .ok ⟨segments⟩
  else
    let first ← Segment.parse head 0
    let segments ← parseKeys head.length keys
    .ok ⟨first :: segments⟩

end FieldPath

end RecordQuery

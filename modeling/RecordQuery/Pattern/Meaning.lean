import RecordQuery.Pattern.Property
import RecordQuery.Pattern.Simplify

/-!
# The meaning of a written pattern

Flags and names turn a written pattern into a regular expression.  A change of flags holds to
the end of the group it stands in.  Without the flag for all characters, classes and case are
those of ASCII, and what would match a part of a character is refused.

* `Flags` — the flags in force;
* `SetExpr.meaning?` — the characters of a class;
* `Written.meaning?` — the expression of a pattern, and the flags behind it.
-/

namespace RecordQuery.Pattern

/-- The flags in force, as far as they bear on the expression. -/
structure Flags where
  ignoreCase : Bool
  multiLine : Bool
  dotAll : Bool
  swapGreed : Bool
  unicode : Bool
  carriageReturn : Bool
  deriving DecidableEq

namespace Flags

/-- The flags at the start of a pattern. -/
def initial : Flags := ⟨false, false, false, false, true, false⟩

/-- Changes one flag. -/
def change (flags : Flags) : FlagChange → Flags
  | (.ignoreCase, value) => { flags with ignoreCase := value }
  | (.multiLine, value) => { flags with multiLine := value }
  | (.dotAll, value) => { flags with dotAll := value }
  | (.unicode, value) => { flags with unicode := value }
  | (.carriageReturn, value) => { flags with carriageReturn := value }
  | (.swapGreed, value) => { flags with swapGreed := value }
  | (.extended, _) => flags

/-- Changes some flags. -/
def apply (flags : Flags) (changes : List FlagChange) : Flags := changes.foldl change flags

end Flags

/-! ## Sets -/

/-- The characters of ASCII. -/
def ascii : CodePointSet := .range 0 0x7F

/-- Adds to a set all characters that differ from one of it in case only. -/
def foldAll (s : CodePointSet) : CodePointSet :=
  let pairs := Unicode.foldTable.map fun e => (e.1, e.2.headD e.1)
  let hit := CodePointSet.ofRanges
    ((pairs.filter fun e => s.contains e.1).map fun e => (e.2, e.2))
  let folded := s.union hit
  folded.union (.ofRanges ((pairs.filter fun e => folded.contains e.2).map fun e => (e.1, e.1)))

/-- Adds to a set of ASCII characters those that differ from one of it in case only. -/
def foldAscii (s : CodePointSet) : CodePointSet :=
  let shifted := fun (first last image : Nat) =>
    ((s.inter (.range first last)).ranges.map fun r => (r.1 - first + image, r.2 - first + image))
  s.union (.ofRanges (shifted 0x41 0x5A 0x61 ++ shifted 0x61 0x7A 0x41))

/-- Applies the flag for case to a set. -/
def foldSet (flags : Flags) (s : CodePointSet) : CodePointSet :=
  if !flags.ignoreCase then s else if flags.unicode then foldAll s else foldAscii s

/-- Negates a set.  Among ASCII characters alone, what is left would not be a set of
characters. -/
def negateSet? (flags : Flags) (negated : Bool) (s : CodePointSet) : Option CodePointSet :=
  if !negated then some s else if flags.unicode then some s.compl else none

/-- The named sets of ASCII. -/
def AsciiClass.set : AsciiClass → CodePointSet
  | alnum => .ofText "30-39 41-5A 61-7A"
  | alpha => .ofText "41-5A 61-7A"
  | ascii => .ofText "0-7F"
  | blank => .ofText "9 20"
  | cntrl => .ofText "0-1F 7F"
  | digit => .ofText "30-39"
  | graph => .ofText "21-7E"
  | lower => .ofText "61-7A"
  | print => .ofText "20-7E"
  | punct => .ofText "21-2F 3A-40 5B-60 7B-7E"
  | space => .ofText "9-D 20"
  | upper => .ofText "41-5A"
  | word => .ofText "30-39 41-5A 5F 61-7A"
  | xdigit => .ofText "30-39 41-46 61-66"

/-- The sets that have a letter of their own. -/
def Shorthand.set (unicode : Bool) : Shorthand → CodePointSet
  | digit => if unicode then Unicode.decimalNumber else AsciiClass.digit.set
  | space => if unicode then Unicode.whiteSpace else AsciiClass.space.set
  | word => if unicode then Unicode.wordCharacter else AsciiClass.word.set

/-- An operation between two sets. -/
def SetOp.apply : SetOp → CodePointSet → CodePointSet → CodePointSet
  | inter => CodePointSet.inter
  | diff => CodePointSet.diff
  | symmDiff => CodePointSet.symmDiff

/-- The code point of a character in a class. -/
def Letter.code? (flags : Flags) (l : Letter) : Option Nat :=
  if flags.unicode || l.char.toNat < 0x80 then some l.char.toNat else none

mutual

/-- The characters of a class. -/
def SetExpr.meaning? (flags : Flags) : SetExpr → Option CodePointSet
  | .empty => some .empty
  | .letter l => (l.code? flags).map .singleton
  | .range first last => do
    let low ← first.code? flags
    let high ← last.code? flags
    some (.range low high)
  | .ascii kind negated => negateSet? flags negated (foldSet flags kind.set)
  | .shorthand kind negated => negateSet? flags negated (kind.set flags.unicode)
  | .property name negated => do
    if !flags.unicode then none
    let s ← name.set?
    negateSet? flags negated (foldSet flags s)
  | .bracket body negated => do
    let s ← body.meaning? flags
    negateSet? flags negated (foldSet flags s)
  | .union items => SetExpr.meaningOfList? flags items
  | .combined op left right => do
    let s ← left.meaning? flags
    let t ← right.meaning? flags
    some (op.apply (foldSet flags s) (foldSet flags t))

/-- The characters of some classes together. -/
def SetExpr.meaningOfList? (flags : Flags) : List SetExpr → Option CodePointSet
  | [] => some .empty
  | item :: items => do
    let s ← item.meaning? flags
    let t ← SetExpr.meaningOfList? flags items
    some (s.union t)

end

/-! ## Patterns -/

/-- A single character, as the flag for case says. -/
def Letter.meaning? (flags : Flags) (l : Letter) : Option Regex :=
  let own := CodePointSet.singleton l.char.toNat
  if flags.unicode then some (.ofSet (foldSet flags own))
  else if l.char.toNat < 0x80 then some (.ofSet (foldSet flags own))
  else if l.isByte then none
  else some (.ofSet own)

/-- Any character, with or without the ends of lines. -/
def dotMeaning? (flags : Flags) : Option Regex :=
  if !flags.unicode then none
  else if flags.dotAll then some (.ofSet .all)
  else if flags.carriageReturn then some (.ofSet (CodePointSet.compl (.ofText "A D")))
  else some (.ofSet (CodePointSet.compl (.ofText "A")))

/-- What the places of a pattern mean. -/
def Assertion.meaning (flags : Flags) : Assertion → Look
  | lineStart => if flags.multiLine then .lineStart flags.carriageReturn else .textStart
  | lineEnd => if flags.multiLine then .lineEnd flags.carriageReturn else .textEnd
  | textStart => .textStart
  | textEnd => .textEnd
  | boundary => .word .either flags.unicode
  | noBoundary => .word .neither flags.unicode
  | wordStart => .word .start flags.unicode
  | wordEnd => .word .finish flags.unicode
  | wordStartHalf => .word .startHalf flags.unicode
  | wordEndHalf => .word .finishHalf flags.unicode

mutual

/-- The expression of a pattern, and the flags behind it. -/
def Written.meaning? (flags : Flags) : Written → Option (Regex × Flags)
  | .empty => some (.empty, flags)
  | .setFlags changes => some (.empty, flags.apply changes)
  | .letter l => (l.meaning? flags).map (·, flags)
  | .dot => (dotMeaning? flags).map (·, flags)
  | .assertion a => some (.look (a.meaning flags), flags)
  | .set s => (s.meaning? flags).map fun set => (.ofSet set, flags)
  | .repetition body least most greedy => do
    let (r, behind) ← body.meaning? flags
    some (.repeated r least most (greedy != flags.swapGreed), behind)
  | .group changes captures body => do
    let (r, _) ← body.meaning? (flags.apply changes)
    some (if captures then .capture r else r, flags)
  | .either branches => do
    let (rs, flags) ← Written.meaningOfList? flags branches
    some (.eitherOf rs, flags)
  | .sequence parts => do
    let (rs, flags) ← Written.meaningOfList? flags parts
    some (.concatOf rs, flags)

/-- The expressions of some patterns, where flags of one hold in those behind it. -/
def Written.meaningOfList? (flags : Flags) : List Written → Option (List Regex × Flags)
  | [] => some ([], flags)
  | w :: ws => do
    let (r, flags) ← w.meaning? flags
    let (rs, flags) ← Written.meaningOfList? flags ws
    some (r :: rs, flags)

end

end RecordQuery.Pattern

/-!
# Patterns as they are written

The tree of a pattern before anything is known of what its parts mean: flags are still to be
applied, and names of properties still to be looked up.

* `SetExpr` — a set of characters: a class in brackets or a part of it;
* `Written` — a pattern;
* `Written.depth` — how deeply a pattern is nested; there is a limit to it.
-/

namespace RecordQuery.Pattern

/-- What a flag changes. -/
inductive Flag where
  /-- Letters match in either case. -/
  | ignoreCase
  /-- Lines have starts and ends of their own. -/
  | multiLine
  /-- The dot matches the end of a line. -/
  | dotAll
  /-- Repetitions prefer to be short. -/
  | swapGreed
  /-- Classes and case are those of all characters, not of ASCII alone. -/
  | unicode
  /-- A carriage return may end a line. -/
  | carriageReturn
  /-- Blanks and comments are passed over. -/
  | extended
  deriving DecidableEq

/-- A flag and whether it is set or cleared. -/
abbrev FlagChange := Flag × Bool

/-- A character, and whether it is written as a byte, by two hexadecimal digits. -/
structure Letter where
  char : Char
  isByte : Bool
  deriving DecidableEq

/-- Sets that have a letter of their own. -/
inductive Shorthand where
  | digit
  | space
  | word
  deriving DecidableEq

/-- Sets of ASCII characters that have a name in brackets. -/
inductive AsciiClass where
  | alnum
  | alpha
  | ascii
  | blank
  | cntrl
  | digit
  | graph
  | lower
  | print
  | punct
  | space
  | upper
  | word
  | xdigit
  deriving DecidableEq

/-- How a property is asked for: by its name, or by a name and a value. -/
inductive PropertyName where
  | named (name : List Char)
  | valued (name value : List Char)
  deriving DecidableEq

/-- Operations between two sets. -/
inductive SetOp where
  | inter
  | diff
  | symmDiff
  deriving DecidableEq

/-- A set of characters as it is written. -/
inductive SetExpr where
  | empty
  | letter (l : Letter)
  | range (first last : Letter)
  | ascii (kind : AsciiClass) (negated : Bool)
  | shorthand (kind : Shorthand) (negated : Bool)
  | property (name : PropertyName) (negated : Bool)
  | bracket (body : SetExpr) (negated : Bool)
  | union (items : List SetExpr)
  | combined (op : SetOp) (left right : SetExpr)

/-- Places of a text, as they are written; what they mean depends on flags. -/
inductive Assertion where
  | lineStart
  | lineEnd
  | textStart
  | textEnd
  | boundary
  | noBoundary
  | wordStart
  | wordEnd
  | wordStartHalf
  | wordEndHalf
  deriving DecidableEq

/-- A pattern as it is written. -/
inductive Written where
  | empty
  | setFlags (changes : List FlagChange)
  | letter (l : Letter)
  | dot
  | assertion (a : Assertion)
  | set (s : SetExpr)
  | repetition (body : Written) (least : Nat) (most : Option Nat) (greedy : Bool)
  | group (changes : List FlagChange) (captures : Bool) (body : Written)
  | either (branches : List Written)
  | sequence (parts : List Written)

/-! ## Depth -/

mutual

/-- The depth of a set. -/
def SetExpr.depth : SetExpr → Nat
  | .bracket body _ => body.depth + 1
  | .union items => SetExpr.depthOfList items + 1
  | .combined _ left right => max left.depth right.depth + 1
  | _ => 0

/-- The greatest depth of some sets. -/
def SetExpr.depthOfList : List SetExpr → Nat
  | [] => 0
  | s :: rest => max s.depth (SetExpr.depthOfList rest)

end

mutual

/-- The depth of a pattern. -/
def Written.depth : Written → Nat
  | .set s => s.depth
  | .repetition body _ _ _ => body.depth + 1
  | .group _ _ body => body.depth + 1
  | .either branches => Written.depthOfList branches + 1
  | .sequence parts => Written.depthOfList parts + 1
  | _ => 0

/-- The greatest depth of some patterns. -/
def Written.depthOfList : List Written → Nat
  | [] => 0
  | w :: rest => max w.depth (Written.depthOfList rest)

end

/-- The deepest nesting of a pattern that is accepted. -/
def maxDepth : Nat := 250

/-! ## Building -/

/-- Items of a class side by side. -/
def SetExpr.ofItems : List SetExpr → SetExpr
  | [] => .empty
  | [item] => item
  | items => .union items

/-- Patterns one after the other. -/
def Written.ofParts : List Written → Written
  | [] => .empty
  | [part] => part
  | parts => .sequence parts

end RecordQuery.Pattern

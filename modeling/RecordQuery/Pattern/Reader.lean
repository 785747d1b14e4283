import RecordQuery.Pattern.SetReader
import RecordQuery.Unicode.Newer

/-!
# Reading patterns

A pattern is read from left to right.  What is open — groups, and the branches inside of them —
is kept on a list of levels, so a pattern may nest as deeply as it likes while it is read.

* `Level` — an open group or the whole pattern: the branches that are complete, and the parts of
  the branch that is being read;
* `Written.read?` — the tree of a pattern.
-/

namespace RecordQuery.Pattern

/-- Complete branches and the parts of the present branch, all of them last one first. -/
structure Level where
  branches : List Written
  parts : List Written

namespace Level

/-- A level where nothing was read yet. -/
def fresh : Level := ⟨[], []⟩

/-- Adds a part to the present branch. -/
def add (level : Level) (part : Written) : Level := { level with parts := part :: level.parts }

/-- Completes the present branch. -/
def nextBranch (level : Level) : Level :=
  ⟨.ofParts level.parts.reverse :: level.branches, []⟩

/-- The pattern of a level. -/
def toWritten (level : Level) : Written :=
  match level.branches with
  | [] => .ofParts level.parts.reverse
  | branches => .either (.ofParts level.parts.reverse :: branches).reverse

end Level

/-- An open group: its flags, whether it captures, whether blanks were passed over before it,
and the level around it. -/
structure OpenGroup where
  changes : List FlagChange
  captures : Bool
  extended : Bool
  outer : Level

/-! ## Groups and flags -/

/-- The letter of a flag. -/
def flag? : Char → Option Flag
  | 'i' => some .ignoreCase
  | 'm' => some .multiLine
  | 's' => some .dotAll
  | 'U' => some .swapGreed
  | 'u' => some .unicode
  | 'R' => some .carriageReturn
  | 'x' => some .extended
  | _ => none

/-- Reads flags: those behind a dash are cleared.  No flag may come twice, and a dash must be
followed by a flag. -/
def readFlags (value : Bool) (seen : List Flag) : List Char → Option (List FlagChange)
  | [] => some []
  | '-' :: cs => if value && !cs.isEmpty then readFlags false seen cs else none
  | c :: cs => do
    let flag ← flag? c
    if seen.contains flag then none
    let rest ← readFlags value (flag :: seen) cs
    some ((flag, value) :: rest)

/-- Whether blanks are passed over after some changes of flags. -/
def extendedAfter (extended : Bool) (changes : List FlagChange) : Bool :=
  match changes.find? (fun change => change.1 == .extended) with
  | some (_, value) => value
  | none => extended

/-- Whether a text is the name of a group. -/
def isGroupName : List Char → Bool
  | [] => false
  | c :: cs =>
    (c == '_' || Unicode.Newer.alphabetic.has c) && cs.all fun c =>
      c == '_' || c == '.' || c == '[' || c == ']'
        || Unicode.Newer.alphabetic.has c || Unicode.Newer.number.has c

/-- What stands behind an opening parenthesis. -/
inductive GroupStart where
  /-- A change of flags, complete with its closing parenthesis. -/
  | flags (changes : List FlagChange)
  /-- A group with changed flags. -/
  | scoped (changes : List FlagChange)
  /-- A group that is numbered. -/
  | numbered
  /-- A group that has a name. -/
  | named (name : List Char)

/-- Reads the name of a group and the bracket behind it. -/
def readGroupName (cs : List Char) : Option (GroupStart × List Char) :=
  let name := cs.takeWhile (· != '>')
  match cs.dropWhile (· != '>') with
  | _ :: rest => if isGroupName name then some (.named name, rest) else none
  | [] => none

/-- Reads what stands behind an opening parenthesis.  Looking ahead or back is refused. -/
def readGroupStart : List Char → Option (GroupStart × List Char)
  | '?' :: 'P' :: '<' :: cs => readGroupName cs
  | '?' :: '<' :: '=' :: _ => none
  | '?' :: '<' :: '!' :: _ => none
  | '?' :: '<' :: cs => readGroupName cs
  | '?' :: cs => do
    let changes ← readFlags true [] (cs.takeWhile fun c => c != ':' && c != ')')
    match cs.dropWhile fun c => c != ':' && c != ')' with
    | ':' :: rest => some (.scoped changes, rest)
    | ')' :: rest => if changes.isEmpty then none else some (.flags changes, rest)
    | _ => none
  | cs => some (.numbered, cs)

/-! ## Repetitions -/

/-- The largest count of a repetition. -/
def maxCount : Nat := Nat.pow 2 32 - 1

/-- Reads a count; blanks around it are passed over. -/
def readCount (extended : Bool) (cs : List Char) : Option (Nat × List Char) :=
  let (digits, rest) := gather extended Char.isDigit (cs.dropWhile Text.isBlank)
  let n := Nat.ofDigitChars 10 digits 0
  if digits.isEmpty || maxCount < n then none
  else some (n, skip extended (rest.dropWhile Text.isBlank))

/-- Reads the counts of a repetition behind the opening brace: the least and the greatest
number of times. -/
def readCounts (extended : Bool) (cs : List Char) :
    Option ((Nat × Option Nat) × List Char) := do
  let (least, rest) ← readCount extended (skip extended cs)
  match rest with
  | '\x7d' :: rest => some ((least, some least), rest)
  | ',' :: rest =>
    match skip extended rest with
    | '\x7d' :: rest => some ((least, none), rest)
    | rest =>
      let (most, rest) ← readCount extended rest
      match rest with
      | '\x7d' :: rest => if least ≤ most then some ((least, some most), rest) else none
      | _ => none
  | _ => none

/-- Reads whether a repetition is greedy: a mark behind it says that it prefers to be short. -/
def readGreed : List Char → Bool × List Char
  | '?' :: cs => (false, cs)
  | cs => (true, cs)

/-- Repeats the last part of a level; a change of flags cannot be repeated. -/
def Level.repeatLast (level : Level) (least : Nat) (most : Option Nat) (greedy : Bool) :
    Option Level :=
  match level.parts with
  | [] => none
  | .setFlags _ :: _ => none
  | part :: parts => some { level with parts := .repetition part least most greedy :: parts }

/-! ## The whole pattern -/

/-- Reads a single character of a pattern, outside of classes. -/
def readAtom (extended : Bool) : List Char → Option (Atom × List Char)
  | '.' :: cs => some (.dot, cs)
  | '^' :: cs => some (.assertion .lineStart, cs)
  | '$' :: cs => some (.assertion .lineEnd, cs)
  | cs => readCharacter extended cs

/-- Reads the rest of a pattern.  Every round takes at least one character. -/
def readParts : Nat → Bool → List (List Char) → List OpenGroup → Level → List Char →
    Option Written
  | 0, _, _, _, _, _ => none
  | fuel + 1, extended, names, groups, level, cs =>
    match skip extended cs with
    | [] => if groups.isEmpty then some level.toWritten else none
    | '(' :: rest => do
      let (start, rest) ← readGroupStart (skip extended rest)
      match start with
      | .flags changes =>
        readParts fuel (extendedAfter extended changes) names groups
          (level.add (.setFlags changes)) rest
      | .scoped changes =>
        readParts fuel (extendedAfter extended changes) names
          (⟨changes, false, extended, level⟩ :: groups) .fresh rest
      | .numbered =>
        readParts fuel extended names (⟨[], true, extended, level⟩ :: groups) .fresh rest
      | .named name =>
        if names.contains name then none
        else
          readParts fuel extended (name :: names) (⟨[], true, extended, level⟩ :: groups)
            .fresh rest
    | ')' :: rest =>
      match groups with
      | [] => none
      | group :: groups =>
        readParts fuel group.extended names groups
          (group.outer.add (.group group.changes group.captures level.toWritten)) rest
    | '|' :: rest => readParts fuel extended names groups level.nextBranch rest
    | '[' :: rest => do
      let (set, rest) ← readClass extended rest
      readParts fuel extended names groups (level.add (.set set)) rest
    | '?' :: rest => do
      let (greedy, rest) := readGreed rest
      let level ← level.repeatLast 0 (some 1) greedy
      readParts fuel extended names groups level rest
    | '*' :: rest => do
      let (greedy, rest) := readGreed rest
      let level ← level.repeatLast 0 none greedy
      readParts fuel extended names groups level rest
    | '+' :: rest => do
      let (greedy, rest) := readGreed rest
      let level ← level.repeatLast 1 none greedy
      readParts fuel extended names groups level rest
    | '\x7b' :: rest => do
      let ((least, most), rest) ← readCounts extended rest
      let (greedy, rest) := readGreed (skip extended rest)
      let level ← level.repeatLast least most greedy
      readParts fuel extended names groups level rest
    | cs => do
      let (atom, rest) ← readAtom extended cs
      readParts fuel extended names groups (level.add atom.toWritten) rest

/-- Reads a pattern; nothing if it is malformed or nested too deeply. -/
def Written.read? (cs : List Char) : Option Written := do
  let written ← readParts (cs.length + 1) false [] [] .fresh cs
  if written.depth ≤ maxDepth then some written else none

end RecordQuery.Pattern

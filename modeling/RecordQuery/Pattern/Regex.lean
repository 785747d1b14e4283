import RecordQuery.Unicode.Property

/-!
# Regular expressions

What a pattern means, with all flags applied and all names looked up.

* `Place` — a place of a text, between two characters or at one of its ends;
* `Look` — a kind of places;
* `Regex` — a set of texts in their surroundings;
* `Regex.reach` — where a text may be matched to, from given places;
* `Regex.isFoundIn` — whether some part of a text matches.

A text of `n` characters has `n + 1` places.  An expression turns the places where a match may
start into the places where it may end, none of which lies before the first place it starts at.
-/

namespace RecordQuery.Pattern

/-- Places at the border of words. -/
inductive Border where
  | either
  | neither
  | start
  | finish
  | startHalf
  | finishHalf
  deriving DecidableEq

/-- Places of a text. -/
inductive Look where
  | textStart
  | textEnd
  /-- The start of a line; a carriage return may end a line if the flag says so. -/
  | lineStart (carriageReturn : Bool)
  /-- The end of a line; a carriage return may end a line if the flag says so. -/
  | lineEnd (carriageReturn : Bool)
  /-- A border of words, of all characters or of ASCII words. -/
  | word (border : Border) (unicode : Bool)
  deriving DecidableEq

/-- A place of a text: how many characters stand before it, the last one of them, and all that
stand behind it. -/
structure Place where
  index : Nat
  before : Option Char
  after : List Char

namespace Look

/-- The word characters of ASCII. -/
def asciiWord : CodePointSet := .ofRanges [(0x30, 0x39), (0x41, 0x5A), (0x5F, 0x5F), (0x61, 0x7A)]

/-- Whether a word character stands on a side. -/
def isWord (unicode : Bool) : Option Char → Bool
  | none => false
  | some c => if unicode then Unicode.wordCharacter.has c else asciiWord.has c

/-- Whether a border lies between what is a word character and what is not. -/
def borderHolds (border : Border) (before after : Bool) : Bool :=
  match border with
  | .either => before != after
  | .neither => before == after
  | .start => !before && after
  | .finish => before && !after
  | .startHalf => !before
  | .finishHalf => !after

/-- Whether a place is of a kind.  Where a carriage return may end a line, there is no line
between it and a line feed. -/
def holds (look : Look) (place : Place) : Bool :=
  let before := place.before
  let after := place.after.head?
  match look with
  | textStart => before.isNone
  | textEnd => after.isNone
  | lineStart false => before.isNone || before == some '\n'
  | lineEnd false => after.isNone || after == some '\n'
  | lineStart true =>
    before.isNone || before == some '\n' || (before == some '\r' && after != some '\n')
  | lineEnd true =>
    after.isNone || after == some '\r' || (after == some '\n' && before != some '\r')
  | word border unicode => borderHolds border (isWord unicode before) (isWord unicode after)

end Look

/-- A regular expression. -/
inductive Regex where
  /-- The empty text. -/
  | empty
  /-- A text. -/
  | literal (text : List Char)
  /-- A single character of a set. -/
  | chars (set : CodePointSet)
  /-- The empty text at a place of a kind. -/
  | look (l : Look)
  /-- Some expressions one behind the other. -/
  | concat (parts : List Regex)
  /-- One of some expressions. -/
  | either (branches : List Regex)
  /-- An expression over and over, at least and at most some number of times.  Whether it is
  greedy has no influence on which texts match. -/
  | repetition (body : Regex) (least : Nat) (most : Option Nat) (greedy : Bool)
  /-- An expression whose match is remembered. -/
  | capture (body : Regex)

/-! ## Places -/

/-- A set of places of a text, in order. -/
abbrev Places := List Place

namespace Place

/-- The place behind the next character, if that is of a kind. -/
def next? (p : Char → Bool) (place : Place) : Option Place :=
  match place.after with
  | [] => none
  | c :: rest => if p c then some ⟨place.index + 1, some c, rest⟩ else none

/-- The places of a text from a place on. -/
def upward (index : Nat) (before : Option Char) : List Char → Places
  | [] => [⟨index, before, []⟩]
  | c :: rest => ⟨index, before, c :: rest⟩ :: upward (index + 1) (some c) rest

end Place

namespace Places

/-- The places of a text. -/
def ofText (text : List Char) : Places := Place.upward 0 none text

/-- The places behind one character of a kind. -/
def advance (p : Char → Bool) (places : Places) : Places := places.filterMap (Place.next? p)

/-- Whether two sets hold the same places of one text. -/
def isSame (ps qs : Places) : Bool := ps.map Place.index == qs.map Place.index

/-- The places of either set. -/
def union : Places → Places → Places
  | [], qs => qs
  | ps, [] => ps
  | p :: ps, q :: qs =>
    if p.index < q.index then p :: union ps (q :: qs)
    else if q.index < p.index then q :: union (p :: ps) qs
    else p :: union ps qs
termination_by ps qs => ps.length + qs.length

/-- The places of the first set that are not in the second. -/
def diff : Places → Places → Places
  | [], _ => []
  | ps, [] => ps
  | p :: ps, q :: qs =>
    if p.index < q.index then p :: diff ps (q :: qs)
    else if q.index < p.index then diff (p :: ps) qs
    else diff ps qs
termination_by ps qs => ps.length + qs.length

/-- Takes a step a number of times, or until it leads nowhere else. -/
def iterate (step : Places → Places) : Nat → Places → Places
  | 0, places => places
  | n + 1, places =>
    let next := step places
    if next.isSame places then places else iterate step n next

/-- Takes a step up to a number of times and keeps all places on the way.  Only places that are
`fresh` are followed further.  Those before all fresh ones are `settled`, last one first: no step
comes back to them. -/
def spread (step : Places → Places) : Nat → Places → Places → Places → Places
  | 0, _, settled, seen => settled.reverse ++ seen
  | n + 1, fresh, settled, seen =>
    match diff (step fresh) seen with
    | [] => settled.reverse ++ seen
    | first :: others =>
      let early := seen.takeWhile fun p => p.index < first.index
      let late := seen.dropWhile fun p => p.index < first.index
      spread step n (first :: others) (early.reverse ++ settled) (union (first :: others) late)

end Places

namespace Regex

mutual

/-- The places where a match may end that starts at one of some places.  A repetition without a
limit takes as many rounds as the text may have places. -/
def reach (rounds : Nat) : Regex → Places → Places
  | empty => id
  | literal cs => fun places => cs.foldl (fun places c => places.advance (· == c)) places
  | chars set => Places.advance set.has
  | look l => List.filter l.holds
  | concat parts => reachThrough rounds parts
  | either branches => reachAny rounds branches
  | repetition body least most _ => fun places =>
    let start := Places.iterate (reach rounds body) least places
    let more := match most with
      | some n => n - least
      | none => rounds
    Places.spread (reach rounds body) more start [] start
  | capture body => reach rounds body

/-- The places where matches of some expressions one behind the other may end. -/
def reachThrough (rounds : Nat) : List Regex → Places → Places
  | [] => id
  | r :: rest => fun places => reachThrough rounds rest (reach rounds r places)

/-- The places where a match of one of some expressions may end. -/
def reachAny (rounds : Nat) : List Regex → Places → Places
  | [] => fun _ => []
  | r :: rest => fun places => (reach rounds r places).union (reachAny rounds rest places)

end

/-- Whether some part of a text matches. -/
def isFoundIn (r : Regex) (text : List Char) : Bool :=
  !(reach (text.length + 1) r (.ofText text)).isEmpty

end Regex

end RecordQuery.Pattern

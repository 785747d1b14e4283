/-!
# Layouts

A machine that searches a text is a list of states, and only its size matters here.  A
**layout** is how large a machine has become while it is laid out piece by piece.

* `Layout` — the states and the size of their lists, and how the last piece ends;
* `Layout.link` — goes on behind the last piece;
* `Layout.copies` — lays out a piece a number of times.

A state takes `stateSize` bytes, a byte range that leads from it `stepSize` bytes where it has
several, and a state without text that leads to several others `entrySize` bytes for each of
them.
-/

namespace RecordQuery.Pattern

/-- The size of a state. -/
def stateSize : Nat := 32

/-- The size of a step by a byte range, where a state has several. -/
def stepSize : Nat := 8

/-- The size of an entry in the list of a state that leads to several others. -/
def entrySize : Nat := 4

/-- The largest size that is accepted. -/
def maxSize : Nat := 10 * Nat.pow 2 20

/-- How large a machine has become so far. -/
structure Layout where
  /-- The number of states. -/
  states : Nat
  /-- The size of all lists of states. -/
  lists : Nat
  /-- Whether the last piece ends in a state that keeps a list, so that one more entry is taken
  to go on from it. -/
  forks : Bool
  deriving DecidableEq

namespace Layout

/-- The layout without a state. -/
def initial : Layout := ⟨0, 0, false⟩

/-- The size in bytes. -/
def size (p : Layout) : Nat := stateSize * p.states + p.lists

/-- Whether the machine is too large. -/
def isTooLarge (p : Layout) : Bool := maxSize < p.size

/-- Adds some states. -/
def addStates (n : Nat) (p : Layout) : Layout := { p with states := p.states + n }

/-- Adds some steps to lists. -/
def addSteps (n : Nat) (p : Layout) : Layout := { p with lists := p.lists + stepSize * n }

/-- Adds some entries to lists. -/
def addEntries (n : Nat) (p : Layout) : Layout := { p with lists := p.lists + entrySize * n }

/-- Goes on from the end of the last piece. -/
def link (p : Layout) : Layout :=
  { (if p.forks then p.addEntries 1 else p) with forks := false }

/-- Ends the last piece in a state that keeps a list. -/
def fork (p : Layout) : Layout := { p with forks := true }

/-- Lays out a piece a number of times.  A layout that is too large already is left as it is. -/
def copies (piece : Layout → Layout) : Nat → Layout → Layout
  | 0, p => p
  | n + 1, p => if p.isTooLarge then p else copies piece n (piece p.link)

end Layout

end RecordQuery.Pattern

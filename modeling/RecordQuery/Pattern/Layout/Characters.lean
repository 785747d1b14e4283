import RecordQuery.Pattern.Bytes
import RecordQuery.Pattern.Layout.Basic
import Std.Data.HashMap

/-!
# Layouts of sets of characters

A set of ASCII characters takes one state with a byte range for each of its ranges.  Any other
set becomes sequences of byte ranges, and sequences share states: from their ends when the
machine reads forward, from their starts when it reads backward.  The states to be shared are
kept in a table of fixed size, so that now and then one is forgotten and laid out again.

* `Shared` — a layout and the table;
* `laySequences`, `layBackward` — the sequences in either direction;
* `laySet` — a set of characters.
-/

namespace RecordQuery.Pattern

/-- The slot of a table that some numbers belong to. -/
def slotOf (slots : UInt64) (numbers : List Nat) : UInt64 :=
  numbers.foldl (fun h n => (h ^^^ n.toUInt64) * 1099511628211) 14695981039346656037 % slots

/-- A layout together with the states that may be used again.  They are kept in slots, by what
they consist of, and a new state takes the place of the one that was in its slot. -/
structure Shared where
  layout : Layout
  known : Std.HashMap UInt64 (List Nat × Nat)

namespace Shared

/-- A layout without a state to be used again. -/
def ofLayout (layout : Layout) : Shared := ⟨layout, ∅⟩

/-- Adds a state that consists of some numbers, and gives its number. -/
def add (slot : UInt64) (steps : Nat) (numbers : List Nat) (s : Shared) : Nat × Shared :=
  let new := s.layout.states
  (new, ⟨(s.layout.addStates 1).addSteps steps, s.known.insert slot (numbers, new)⟩)

/-- The number of the state that consists of some numbers: one that is known, or a new one. -/
def state (slots : UInt64) (steps : Nat) (numbers : List Nat) (s : Shared) : Nat × Shared :=
  let slot := slotOf slots numbers
  match s.known[slot]? with
  | some (numbers', old) =>
    if numbers' = numbers then (old, s) else s.add slot steps numbers
  | none => s.add slot steps numbers

end Shared

/-- Collects neighbouring sequences that start with the same range, without their starts. -/
def groupByFirst : List (List ByteRange) → List (ByteRange × List (List ByteRange))
  | [] => []
  | [] :: rest => groupByFirst rest
  | (r :: tail) :: rest =>
    match groupByFirst rest with
    | (r', tails) :: groups =>
      if r = r' then (r, tail :: tails) :: groups else (r, [tail]) :: (r', tails) :: groups
    | [] => [(r, [tail])]

/-- Lays out sequences, in order and of some length at most, that lead to a common end: states
with the same steps are one.  Gives the number of the first state. -/
def laySequences (finish : Nat) : Nat → List (List ByteRange) → Shared → Nat × Shared
  | 0, _, s => (finish, s)
  | length + 1, sequences, s =>
    if sequences.all List.isEmpty then (finish, s)
    else
      let groups := groupByFirst sequences
      let (steps, s) := groups.foldl (fun (numbers, s) (r, tails) =>
        let (next, s) := laySequences finish length tails s
        (numbers ++ [r.1, r.2, next], s)) (([] : List Nat), s)
      s.state 10000 groups.length steps

/-- Lays out a sequence from its first range to its last, where the state behind a range leads
by it to the state before.  Gives the number of the last state. -/
def layBackward (finish : Nat) (sequence : List ByteRange) (s : Shared) : Nat × Shared :=
  sequence.foldl (fun (next, s) r => s.state 1000 0 [next, r.1, r.2]) (finish, s)

/-- Lays out a set of characters. -/
def laySet (backward : Bool) (set : CodePointSet) (p : Layout) : Layout :=
  if set.ranges.all fun r => r.2 < 0x80 then (p.addStates 2).addSteps set.ranges.length
  else
    let sequences := setSequences set
    if backward then
      let q := p.addStates 2
      let shared := sequences.foldl (fun s sequence =>
        (layBackward (q.states - 1) sequence s).2) (.ofLayout q)
      shared.layout.addEntries sequences.length
    else
      (laySequences p.states 4 sequences (.ofLayout (p.addStates 1))).2.layout

end RecordQuery.Pattern

import RecordQuery.Pattern.Layout.Characters
import RecordQuery.Pattern.Layout.Texts
import RecordQuery.Pattern.Simplify

/-!
# The size of an expression

An expression is searched with two machines, one that reads a text forward and one that reads it
backward.  They work on the bytes of texts.  A pattern is refused if one of its machines would
become too large.  A repetition with counts takes a copy of its body for every time.

* `Regex.lay` — lays out the machine of an expression;
* `Regex.machineSize` — the size of a whole machine, in either direction;
* `Regex.fits` — whether both machines of an expression are small enough.
-/

namespace RecordQuery.Pattern

namespace Regex

mutual

/-- Whether an expression takes at least one character; nothing where some part of it cannot
match at all. -/
def takesText? : Regex → Option Bool
  | empty | look _ => some false
  | literal _ => some true
  | chars s => if s.isEmpty then none else some true
  | concat parts => somePartTakesText? parts
  | either branches => allTakeText? branches
  | repetition body least _ _ => (takesText? body).map (· && least != 0)
  | capture body => takesText? body

/-- Whether some of the parts takes at least one character. -/
def somePartTakesText? : List Regex → Option Bool
  | [] => some false
  | r :: rest => do
    let here ← takesText? r
    let there ← somePartTakesText? rest
    some (here || there)

/-- Whether every branch takes at least one character. -/
def allTakeText? : List Regex → Option Bool
  | [] => some true
  | r :: rest => do
    let here ← takesText? r
    let there ← allTakeText? rest
    some (here && there)

end

/-- The text of an expression that is one. -/
def text? : Regex → Option (List Char)
  | literal cs => some cs
  | _ => none

mutual

/-- Lays out the machine of an expression.  The machine that reads backward does not remember
matches. -/
def lay (backward : Bool) : Regex → Layout → Layout
  | empty, p | look _, p => p.addStates 1
  | literal cs, p => p.addStates (textBytes cs).length
  | chars s, p => laySet backward s p
  | concat parts, p => if backward then layLastFirst parts p else layFirstFirst parts p
  | either branches, p =>
    match branches.mapM text? with
    | some texts => layTexts backward texts p
    | none => layBranches backward 0 branches p
  | repetition body least most _, p =>
    let piece := lay backward body
    match least, most with
    | 0, some 1 => ((piece (p.addStates 1)).link.addStates 1).addEntries 2
    | 0, none =>
      if takesText? body = some true then
        ((piece (p.addStates 1)).link.addEntries 1).fork
      else ((piece p).link.addStates 3).addEntries 4
    | n, none => (((Layout.copies piece n p).link.addStates 1).addEntries 1).fork
    | n, some m =>
      let start := if n = 0 then p.addStates 1 else Layout.copies piece n p
      if n = m then start
      else
        (Layout.copies (fun p => piece ((p.addStates 1).addEntries 2)) (m - n)
          (start.link.addStates 1)).link
  | capture body, p =>
    if backward then lay backward body p
    else (lay backward body (p.addStates 1)).link.addStates 1

/-- Lays out parts from the first to the last. -/
def layFirstFirst : List Regex → Layout → Layout
  | [], p => p
  | r :: rest, p => layFirstFirst rest (lay false r p.link)

/-- Lays out parts from the last to the first. -/
def layLastFirst : List Regex → Layout → Layout
  | [], p => p
  | r :: rest, p => lay true r (layLastFirst rest p).link

/-- Lays out branches, given how many came before.  The states where they part and meet follow
the second one. -/
def layBranches (backward : Bool) (before : Nat) : List Regex → Layout → Layout
  | [], p => p
  | r :: rest, p =>
    let q := (lay backward r p).link.addEntries 1
    layBranches backward (before + 1) rest (if before = 1 then q.addStates 2 else q)

end

mutual

/-- Whether an expression matches at the start of a text only, as can be told from how it
starts; from its end for the end of a text. -/
def isBoundTo (place : Look) (backward : Bool) : Regex → Bool
  | look l => l == place
  | empty | literal _ | chars _ => false
  | concat parts =>
    if backward then lastIsBoundTo place parts else firstIsBoundTo place parts
  | either branches => allBoundTo place backward branches
  | repetition body least _ _ => least != 0 && isBoundTo place backward body
  | capture body => isBoundTo place backward body

/-- Whether a part is bound to a place, where only parts that take no text stand before it. -/
def firstIsBoundTo (place : Look) : List Regex → Bool
  | [] => false
  | r :: rest => isBoundTo place false r || (isEmptyOnly r && firstIsBoundTo place rest)

/-- Whether a part is bound to a place, where only parts that take no text stand behind it. -/
def lastIsBoundTo (place : Look) : List Regex → Bool
  | [] => false
  | r :: rest => lastIsBoundTo place rest || (areEmptyOnly rest && isBoundTo place true r)

/-- Whether all branches are bound to a place. -/
def allBoundTo (place : Look) (backward : Bool) : List Regex → Bool
  | [] => true
  | r :: rest => isBoundTo place backward r && allBoundTo place backward rest

end

/-- The size of the machine of an expression.  It starts with a loop over any bytes, unless a
match is bound to where the machine starts; the whole match is remembered by the machine that
reads forward. -/
def machineSize (backward : Bool) (r : Regex) : Nat :=
  let isBound := isBoundTo (if backward then .textEnd else .textStart) backward r
  let start := if isBound then Layout.initial.addStates 1
    else ((Layout.initial.addStates 3).addSteps 1).addEntries 2
  ((lay backward (.capture r) start).link.addStates 1).size

/-- Whether both machines of an expression are small enough. -/
def fits (r : Regex) : Bool := machineSize false r ≤ maxSize && machineSize true r ≤ maxSize

end Regex

end RecordQuery.Pattern

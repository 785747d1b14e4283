import RecordQuery.Pattern.Bytes
import RecordQuery.Pattern.Layout.Basic

/-!
# Layouts of texts

Branches that are texts become a tree: texts that start alike share the states of what they
start with.  The order of the branches has to stay, so a text that ends where another goes on
closes what may be shared there.

* `layTree` — a tree of texts;
* `layTexts` — texts one of which has to match.
-/

namespace RecordQuery.Pattern

/-- Splits a list at its empty lists; gives at least one part. -/
def splitAtEmpty {α : Type} : List (List α) → List (List (List α))
  | [] => [[]]
  | [] :: rest => [] :: splitAtEmpty rest
  | (a :: as) :: rest =>
    match splitAtEmpty rest with
    | first :: others => ((a :: as) :: first) :: others
    | [] => [[a :: as]]

/-- The different first items of some lists, each with the rests of its lists. -/
def groupByHead {α : Type} [BEq α] (lists : List (List α)) : List (α × List (List α)) :=
  let heads := (lists.filterMap List.head?).eraseDups
  heads.map fun a => (a, lists.filterMap fun l => if l.head? == some a then some l.tail else none)

/-- Passes over empty lists at the front but one. -/
def mergeEmpty {α : Type} : List (List α) → List (List α)
  | [] :: [] :: rest => mergeEmpty ([] :: rest)
  | lists => lists

/-- Lays out a tree of texts of some length at most.  Texts share what they start with, unless a
text stands between them that ends there. -/
def layTree : Nat → List (List Nat) → Layout → Layout
  | 0, _, p => p
  | length + 1, texts, p =>
    let chunks := splitAtEmpty (mergeEmpty texts)
    let groups := (chunks.map groupByHead).filter (!·.isEmpty)
    let p := groups.foldl (fun p group =>
      let p := group.foldl (fun p (_, tails) =>
        if tails.all List.isEmpty then p else layTree length tails p) p
      (p.addStates 1).addSteps (if group.length = 1 then 0 else group.length)) p
    (p.addStates 1).addEntries (groups.length + (chunks.length - 1))

/-- The bytes of a text. -/
def textBytes (text : List Char) : List Nat := text.flatMap fun c => codeBytes c.toNat

/-- Lays out texts one of which has to match. -/
def layTexts (backward : Bool) (texts : List (List Char)) (p : Layout) : Layout :=
  let bytes := texts.map fun text =>
    if backward then (textBytes text).reverse else textBytes text
  let longest := (bytes.map List.length).foldl max 0
  layTree (longest + 1) bytes (p.addStates 1)

end RecordQuery.Pattern

import RecordQuery.Record.Value

/-!
# Field paths

A **field path** leads from a record to a value inside of it, one segment per level.

* `Segment` — a text key, a number, every value of a level, or the key set of a level;
* `FieldPath` — a chain of segments;
* `FieldPath.display` — the written form `head[key][key]`.
-/

namespace RecordQuery

/-- One step of a field path. -/
inductive Segment where
  /-- The entry of a mapping under a text key. -/
  | key (name : String)
  /-- The item of a sequence if the number was written as an integer, and the entry of a mapping
  under a numeric key. -/
  | number (index : Option Int) (key : Double)
  /-- Every value of a level. -/
  | any
  /-- The key set of a level. -/
  | self
  deriving DecidableEq

namespace Segment

/-- The mark in front of a key that is a number. -/
def numberMark : String := "d_$"

/-- The written form of a segment, without brackets. -/
def display : Segment → String
  | key name => name
  | number (some i) _ => numberMark ++ integerText i
  | number none x => numberMark ++ x.plainText
  | any => "$ANY"
  | self => "$SELF"

end Segment

/-- A chain of segments. -/
structure FieldPath where
  segments : List Segment
  deriving DecidableEq

/-- The written form of a path: the first segment bare, the others in brackets. -/
def FieldPath.display (path : FieldPath) : String :=
  match path.segments with
  | [] => ""
  | first :: rest =>
    rest.foldl (fun text segment => text ++ "[" ++ segment.display ++ "]") first.display

end RecordQuery

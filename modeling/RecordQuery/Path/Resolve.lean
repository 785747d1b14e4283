import RecordQuery.Path.Basic

/-!
# Following a path

A path is followed through a record level by level.  A missing key is not an error: the branch
is pruned.  A level may branch, and then `collapse` puts the results of its branches together:
nothing, the only result as it is, or the sequence of all results.
-/

namespace RecordQuery

/-- Puts the results of branches together. -/
def collapse : List Value → Option Value
  | [] => none
  | [v] => some v
  | vs => some (.array vs)

namespace Value

/-- The numbers of the places of a sequence. -/
def places (count : Nat) : List Value :=
  (List.range count).map fun i => integer (Int.ofNat i)

/-- The keys of a mapping, or the places of a sequence. -/
def keySet? : Value → Option Value
  | mapping fields => some (.array (fields.keys.map Key.toValue))
  | array items => some (.array (places items.length))
  | _ => none

/-- The values one level down. -/
def children : Value → List Value
  | mapping fields => fields.values
  | array items => items
  | _ => []

/-- What a path ends on: a mapping is shown by its keys. -/
def endpoint (v : Value) : Value :=
  match v with
  | mapping _ => (keySet? v).getD v
  | other => other

end Value

/-- The item at a place; negative places count from the end. -/
def itemAt? (items : List Value) (index : Int) : Option Value :=
  if 0 ≤ index then items[index.toNat]?
  else if index.natAbs ≤ items.length then items[items.length - index.natAbs]?
  else none

/-- Follows segments from a value. -/
def resolveAt : List Segment → Value → Option Value
  | [], v => some v.endpoint
  | segment :: rest, v =>
    match segment, v with
    | .key name, .mapping fields => (fields.get? (.text name)).bind (resolveAt rest)
    | .number (some i) _, .array items => (itemAt? items i).bind (resolveAt rest)
    | .number _ x, .mapping fields => (fields.get? (.float x)).bind (resolveAt rest)
    | .any, v => collapse (v.children.filterMap (resolveAt rest))
    | .self, v =>
      v.keySet?.bind fun keys =>
        collapse (keys :: if rest.isEmpty then [] else (resolveAt rest v).toList)
    | _, _ => none

/-- The value that a path leads to, unless every branch was pruned. -/
def FieldPath.resolve (path : FieldPath) (record : Value) : Option Value :=
  resolveAt path.segments record

end RecordQuery

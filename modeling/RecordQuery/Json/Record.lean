import RecordQuery.Json.Basic
import RecordQuery.Record.Value

/-!
# Records in JSON

A record is read from JSON, and a value is written as JSON.  JSON has text names only, so a
numeric key is written in its display form, and what is no number becomes `null`.

* `Json.toValue` — the value of a JSON value;
* `Value.toJson` — the JSON value of a value.
-/

namespace RecordQuery

namespace Json

mutual

/-- The value of a JSON value. -/
def toValue : Json → Value
  | null => .null
  | boolean b => .boolean b
  | integer n => .integer n
  | float x => .float x
  | text s => .text s
  | array items => .array (toValues items)
  | object members => .mapping (Mapping.ofList (toEntries members))

/-- The values of items. -/
def toValues : List Json → List Value
  | [] => []
  | item :: rest => toValue item :: toValues rest

/-- The entries of members. -/
def toEntries : List (String × Json) → List (Key × Value)
  | [] => []
  | (name, value) :: rest => (.text name, toValue value) :: toEntries rest

end

/-- A double as a number, if it is one. -/
def ofDouble (x : Double) : Json :=
  match x with
  | .finite _ _ => float x
  | .nan | .infinite _ => null

end Json

namespace Value

mutual

/-- The JSON value of a value. -/
def toJson : Value → Json
  | null => .null
  | boolean b => .boolean b
  | integer n => .integer n
  | float x => Json.ofDouble x
  | text s => .text s
  | array items => .array (toJsonItems items)
  | mapping ⟨entries⟩ => .object (Json.membersOf (toJsonMembers entries))

/-- The JSON values of items. -/
def toJsonItems : List Value → List Json
  | [] => []
  | item :: rest => toJson item :: toJsonItems rest

/-- The members of entries. -/
def toJsonMembers : List (Key × Value) → List (String × Json)
  | [] => []
  | (k, v) :: rest => (k.display, toJson v) :: toJsonMembers rest

end

end Value

end RecordQuery

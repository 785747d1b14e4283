import RecordQuery.Number.Double

/-!
# JSON values

A JSON value whose numbers are integers of 64 bits or doubles, and whose objects keep the order
in which their names came first.
-/

namespace RecordQuery

/-- A JSON value. -/
inductive Json where
  | null
  | boolean (b : Bool)
  | integer (n : Int)
  | float (x : Double)
  | text (s : String)
  | array (items : List Json)
  | object (members : List (String × Json))

namespace Json

instance : Inhabited Json := ⟨null⟩

/-- Sets a member: a name that is there already keeps its place and gets the new value. -/
def putMember (name : String) (value : Json) : List (String × Json) → List (String × Json)
  | [] => [(name, value)]
  | (name', value') :: rest =>
    if name' == name then (name', value) :: rest
    else (name', value') :: putMember name value rest

/-- The members that some pairs make up, set one by one. -/
def membersOf (pairs : List (String × Json)) : List (String × Json) :=
  pairs.foldl (fun members pair => putMember pair.1 pair.2 members) []

end Json

end RecordQuery

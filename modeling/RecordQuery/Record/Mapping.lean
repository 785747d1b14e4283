import RecordQuery.Record.Key

/-!
# Mappings

A **mapping** is a finite map that remembers the order in which its keys came first.

* `get?` looks a key up;
* `insert` replaces the value of an equal key in its place, and keeps the old key; a new key
  goes to the end; `getThenInsert?` also tells the value that was replaced;
* `ofList` inserts pairs one by one into the empty mapping.
-/

namespace RecordQuery

/-- Entries in the order of their first insertion. -/
structure Mapping (α : Type) where
  entries : List (Key × α)

namespace Mapping

variable {α : Type}

/-- The mapping without entries. -/
def empty : Mapping α := ⟨[]⟩

instance : EmptyCollection (Mapping α) := ⟨empty⟩

instance : Inhabited (Mapping α) := ⟨empty⟩

/-- The value of the first entry with this key. -/
def get? (m : Mapping α) (k : Key) : Option α :=
  (m.entries.find? fun e => e.1 == k).map Prod.snd

/-- Puts a value at the first entry with this key, or at the end. -/
def insertEntry (k : Key) (v : α) : List (Key × α) → List (Key × α)
  | [] => [(k, v)]
  | (k', v') :: rest => if k' == k then (k', v) :: rest else (k', v') :: insertEntry k v rest

/-- Sets the value of a key. -/
def insert (m : Mapping α) (k : Key) (v : α) : Mapping α := ⟨insertEntry k v m.entries⟩

/-- Puts a value at the first entry with this key, or at the end, and tells the value that was
there. -/
def replaceEntry (k : Key) (v : α) : List (Key × α) → Option α × List (Key × α)
  | [] => (none, [(k, v)])
  | (k', v') :: rest =>
    if k' == k then (some v', (k', v) :: rest)
    else
      let (replaced, changed) := replaceEntry k v rest
      (replaced, (k', v') :: changed)

/-- Sets the value of a key, and tells the one that it had. -/
def getThenInsert? (m : Mapping α) (k : Key) (v : α) : Option α × Mapping α :=
  let (replaced, entries) := replaceEntry k v m.entries
  (replaced, ⟨entries⟩)

/-- Inserts pairs one by one into the empty mapping. -/
def ofList (pairs : List (Key × α)) : Mapping α :=
  pairs.foldl (fun m e => m.insert e.1 e.2) empty

/-- The keys, in order. -/
def keys (m : Mapping α) : List Key := m.entries.map Prod.fst

/-- The values, in the order of their keys. -/
def values (m : Mapping α) : List α := m.entries.map Prod.snd

/-- The number of entries. -/
def size (m : Mapping α) : Nat := m.entries.length

/-- Whether there is no entry. -/
def isEmpty (m : Mapping α) : Bool := m.entries.isEmpty

end Mapping

end RecordQuery

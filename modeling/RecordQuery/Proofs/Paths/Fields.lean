import Mathlib.Data.List.Basic
import RecordQuery.Path.Resolve
import RecordQuery.Proofs.Paths.Grammar

/-!
# Paths of text keys

A path of text keys goes down one mapping per key.  Nearly every text is such a key: its brackets
must match, and it must not be read as one of the special segments.

* `Value.follow?` — what some names lead to, level by level;
* `resolveAt_keys` — **a path of text keys leads there, and a mapping at its end is shown by its
  keys**;
* `IsFieldName`, `parse_fields` — names in brackets are a path of text keys.
-/

namespace RecordQuery

/-! ## Names level by level -/

namespace Value

/-- What a mapping has under a name; all other values have nothing there. -/
def field? (v : Value) (name : String) : Option Value :=
  match v with
  | mapping fields => fields.get? (.text name)
  | _ => none

/-- What some names lead to, unless one of them is missing. -/
def follow? (v : Value) (names : List String) : Option Value := names.foldlM field? v

/-- The value that is shown for what was looked up: a mapping is shown by its keys in their order,
and what is missing by `null`. -/
def shownAs : Option Value → Value
  | none => null
  | some (mapping fields) => array (fields.keys.map Key.toValue)
  | some v => v

end Value

/-- **A path of text keys leads where its names lead**, or to the keys of a mapping there. -/
theorem resolveAt_keys (names : List String) (v : Value) :
    resolveAt (names.map .key) v = (v.follow? names).map Value.endpoint := by
  induction names generalizing v with
  | nil => rfl
  | cons name names ih =>
    rw [Value.follow?, List.foldlM_cons]
    cases v with
    | mapping fields =>
      rw [List.map_cons, resolveAt, Value.field?]
      cases fields.get? (.text name) with
      | none => rfl
      | some child => exact ih child
    | _ => rfl

theorem getD_endpoint (found : Option Value) :
    (found.map Value.endpoint).getD .null = Value.shownAs found := by
  cases found with
  | none => rfl
  | some v => cases v <;> rfl

/-! ## Names in brackets -/

/-- The text can be a key in brackets: its brackets match, and it is no special segment. -/
structure IsFieldName (name : String) : Prop where
  balanced : Balanced 0 name.toList
  ne_any : name ≠ "$ANY"
  ne_self : name ≠ "$SELF"
  unmarked : ¬ Segment.numberMark.toList <+: name.toList

theorem IsFieldName.reads {name : String} (h : IsFieldName name) :
    Segment.Reads name.toList (.key name) := by
  have hany : name.toList ≠ "$ANY".toList := fun heq => h.ne_any (String.toList_injective heq)
  have hself : name.toList ≠ "$SELF".toList := fun heq => h.ne_self (String.toList_injective heq)
  have hreads := Segment.Reads.key hany hself h.unmarked
  rwa [String.ofList_toList] at hreads

/-- Names in brackets are a path of text keys. -/
theorem parse_fields {names : List String} (hne : names ≠ [])
    (h : ∀ name ∈ names, IsFieldName name) :
    FieldPath.parse (bracketed (names.map String.toList)) = .ok ⟨names.map .key⟩ := by
  have hkeys : names.map String.toList ≠ [] := by simpa using hne
  have hwritten : FieldPath.WrittenAs (bracketed (names.map String.toList)) []
      (names.map String.toList) [] :=
    { text_eq := (List.append_nil _).symm
      head_bare := nofun
      keys_balanced := List.forall_mem_map.2 fun name hname => (h name hname).balanced
      blanks_blank := nofun
      blanks_nil := fun _ => rfl }
  refine hwritten.parse_eq ?_
  rw [FieldPath.parts, if_pos ⟨rfl, hkeys⟩, List.forall₂_map_left_iff, List.forall₂_map_right_iff,
    List.forall₂_same]
  exact fun name hname => (h name hname).reads

end RecordQuery

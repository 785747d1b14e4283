import Mathlib.Data.List.Nodup
import RecordQuery.Json.Record

/-!
# Keys of one mapping

A mapping is built by inserts, an object by its members.  Both look for an equal key first, so no
key agrees with one in front of it; and where that is so already, building leaves everything as it
is.

* `Key.Distinct` — no key agrees with a key in front of it;
* `get?_of_mem` — **each value is found under its key**, if the keys are distinct;
* `distinct_insertEntry` — **an insert keeps the keys distinct**;
* `ofList_eq_mk` — entries with distinct keys are a mapping as they are;
* `map_membersOf` — **the members of an object are the entries of a mapping with text keys**.
-/

namespace RecordQuery

namespace Key

/-- No key agrees with a key in front of it. -/
def Distinct (keys : List Key) : Prop := keys.Pairwise fun k k' => (k == k') = false

theorem distinct_map_text {names : List String} : Distinct (names.map text) ↔ names.Nodup := by
  have hkey : ∀ s t : String, (text s == text t) = false ↔ s ≠ t :=
    fun s t => beq_eq_false_iff_ne (a := s) (b := t)
  rw [Distinct, List.pairwise_map, List.Nodup]
  simp only [hkey]

end Key

namespace Mapping

variable {α : Type} {k : Key} {v : α} {entries pairs : List (Key × α)}

/-! ## Lookups -/

theorem get?_cons (k : Key) (e : Key × α) (rest : List (Key × α)) :
    (mk (e :: rest)).get? k = if e.1 == k then some e.2 else (mk rest).get? k := by
  unfold get?
  rw [List.find?_cons]
  cases e.1 == k <;> rfl

theorem mem_values_of_get? {m : Mapping α} (h : m.get? k = some v) : v ∈ m.values := by
  obtain ⟨e, he, rfl⟩ := Option.map_eq_some_iff.1 h
  exact List.mem_map_of_mem (List.mem_of_find?_eq_some he)

/-- **Each value is found under its key**, if the keys are distinct. -/
theorem get?_of_mem {e : Key × α} (h : Key.Distinct (entries.map Prod.fst))
    (hself : (e.1 == e.1) = true) (he : e ∈ entries) : (mk entries).get? e.1 = some e.2 := by
  induction entries with
  | nil => cases he
  | cons first rest ih =>
    obtain ⟨hfirst, hrest⟩ := List.pairwise_cons.1 h
    rw [get?_cons]
    rcases List.mem_cons.1 he with rfl | he
    · rw [if_pos hself]
    · rw [hfirst e.1 (List.mem_map_of_mem he)]
      exact ih hrest he

/-! ## One insert -/

theorem insertEntry_cons (k k' : Key) (v v' : α) (rest : List (Key × α)) :
    insertEntry k v ((k', v') :: rest) =
      if k' == k then (k', v) :: rest else (k', v') :: insertEntry k v rest := rfl

/-- A new key goes to the end. -/
theorem insertEntry_eq_append (h : ∀ k' ∈ entries.map Prod.fst, (k' == k) = false) :
    insertEntry k v entries = entries ++ [(k, v)] := by
  induction entries with
  | nil => rfl
  | cons e rest ih =>
    obtain ⟨hfirst, hrest⟩ := List.forall_mem_cons.1 h
    rw [insertEntry_cons, hfirst, ih hrest]
    rfl

theorem keys_insertEntry (k : Key) (v : α) (entries : List (Key × α)) :
    (insertEntry k v entries).map Prod.fst = entries.map Prod.fst ∨
      (∀ k' ∈ entries.map Prod.fst, (k' == k) = false) ∧
        (insertEntry k v entries).map Prod.fst = entries.map Prod.fst ++ [k] := by
  induction entries with
  | nil => exact .inr ⟨nofun, rfl⟩
  | cons e rest ih =>
    rw [insertEntry_cons]
    cases hfirst : e.1 == k with
    | true => exact .inl rfl
    | false =>
      obtain hsame | ⟨hrest, hkeys⟩ := ih
      · exact .inl (congrArg (e.1 :: ·) hsame)
      · exact .inr ⟨List.forall_mem_cons.2 ⟨hfirst, hrest⟩, congrArg (e.1 :: ·) hkeys⟩

/-- **An insert keeps the keys distinct.** -/
theorem distinct_insertEntry (h : Key.Distinct (entries.map Prod.fst)) (k : Key) (v : α) :
    Key.Distinct ((insertEntry k v entries).map Prod.fst) := by
  obtain hsame | ⟨hnew, hkeys⟩ := keys_insertEntry k v entries
  · rwa [hsame]
  · rw [hkeys, Key.Distinct, List.pairwise_append]
    refine ⟨h, List.pairwise_singleton _ _, fun k' hk' last hlast => ?_⟩
    obtain rfl := List.mem_singleton.1 hlast
    exact hnew k' hk'

/-- The values after an insert are the new one and some of those before. -/
theorem snd_eq_or_mem_of_mem_insertEntry {e : Key × α} (h : e ∈ insertEntry k v entries) :
    e.2 = v ∨ e ∈ entries := by
  induction entries with
  | nil =>
    obtain rfl := List.mem_singleton.1 h
    exact .inl rfl
  | cons first rest ih =>
    rw [insertEntry_cons] at h
    split at h
    · obtain rfl | hrest := List.mem_cons.1 h
      · exact .inl rfl
      · exact .inr (List.mem_cons_of_mem _ hrest)
    · obtain rfl | hrest := List.mem_cons.1 h
      · exact .inr List.mem_cons_self
      · exact (ih hrest).imp_right (List.mem_cons_of_mem _)

/-! ## All inserts -/

theorem foldl_insert_eq_mk {front : List (Key × α)}
    (h : Key.Distinct ((front ++ pairs).map Prod.fst)) :
    pairs.foldl (fun m e => m.insert e.1 e.2) (Mapping.mk front) = ⟨front ++ pairs⟩ := by
  induction pairs generalizing front with
  | nil => rw [List.append_nil, List.foldl_nil]
  | cons e rest ih =>
    have hnew : ∀ k ∈ front.map Prod.fst, (k == e.1) = false := by
      rw [Key.Distinct, List.map_append, List.pairwise_append] at h
      exact fun k hk => h.2.2 k hk e.1 List.mem_cons_self
    rw [List.append_cons] at h ⊢
    rw [List.foldl_cons, insert, insertEntry_eq_append hnew]
    exact ih h

/-- **Entries with distinct keys are a mapping as they are.** -/
theorem ofList_eq_mk (h : Key.Distinct (pairs.map Prod.fst)) : ofList pairs = ⟨pairs⟩ :=
  foldl_insert_eq_mk h

/-! ## Text keys -/

/-- A named value as an entry with a text key. -/
def textEntry (member : String × α) : Key × α := (.text member.1, member.2)

theorem textEntry_injective : Function.Injective (textEntry (α := α)) := by
  rintro ⟨name, v⟩ ⟨name', v'⟩ h
  obtain ⟨hname, rfl⟩ := Prod.mk.inj h
  obtain rfl := Key.text.inj hname
  rfl

theorem distinct_textEntry {members : List (String × α)} :
    Key.Distinct ((members.map textEntry).map Prod.fst) ↔ (members.map Prod.fst).Nodup := by
  rw [← Key.distinct_map_text, List.map_map, List.map_map]
  rfl

/-- Entries whose keys are texts are named values. -/
theorem exists_eq_map_textEntry (h : ∀ k ∈ entries.map Prod.fst, ∃ name, k = .text name) :
    ∃ members : List (String × α), entries = members.map textEntry := by
  induction entries with
  | nil => exact ⟨[], rfl⟩
  | cons e rest ih =>
    obtain ⟨⟨name, hname⟩, hrest⟩ := List.forall_mem_cons.1 h
    obtain ⟨members, rfl⟩ := ih hrest
    exact ⟨(name, e.2) :: members, congrArg (· :: _) (Prod.ext hname rfl)⟩

end Mapping

namespace Json

open Mapping (textEntry)

theorem map_putMember (name : String) (value : Json) (members : List (String × Json)) :
    (putMember name value members).map textEntry =
      Mapping.insertEntry (.text name) value (members.map textEntry) := by
  induction members with
  | nil => rfl
  | cons member rest ih =>
    have hkey : (Key.text member.1 == Key.text name) = (member.1 == name) := rfl
    rw [List.map_cons, textEntry, Mapping.insertEntry_cons, hkey, ← ih, putMember]
    split <;> rfl

/-- **The members of an object are the entries of a mapping with text keys.** -/
theorem map_membersOf (pairs : List (String × Json)) :
    (membersOf pairs).map textEntry = (Mapping.ofList (pairs.map textEntry)).entries := by
  have hfold : ∀ front : List (String × Json),
      (pairs.foldl (fun members pair => putMember pair.1 pair.2 members) front).map textEntry =
        ((pairs.map textEntry).foldl (fun m e => m.insert e.1 e.2)
          (Mapping.mk (front.map textEntry))).entries := by
    induction pairs with
    | nil => exact fun _ => rfl
    | cons pair rest ih =>
      intro front
      rw [List.foldl_cons, List.map_cons, List.foldl_cons, ih, map_putMember]
      rfl
  exact hfold []

/-- Members with distinct names are an object as they are. -/
theorem membersOf_eq_self {members : List (String × Json)} (h : (members.map Prod.fst).Nodup) :
    membersOf members = members := by
  apply List.map_injective_iff.2 Mapping.textEntry_injective
  rw [map_membersOf, Mapping.ofList_eq_mk (Mapping.distinct_textEntry.2 h)]

end Json

end RecordQuery

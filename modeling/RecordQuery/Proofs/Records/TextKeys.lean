import RecordQuery.Path.Resolve
import RecordQuery.Proofs.Records.RoundTrip

/-!
# Records with text keys

A record that is read from JSON has text keys in all of its mappings, and as these are made by
inserts, no key comes twice.  So every entry is found under its own key, at every level.

* `Value.TextKeyed` — all mappings are made by inserts, and all keys are texts;
* `Value.Inside` — the levels of a value, from the whole down;
* `TextKeyed.exists_members` — **at every level a mapping is a list of values with distinct names**;
* `get?_textEntry` — and each value is found under its name;
* `textKeyed_toValue` — **what is read from JSON has text keys**.
-/

namespace RecordQuery

open Mapping (textEntry)

namespace Value

/-- All mappings in the value are made by inserts, and all of their keys are texts. -/
structure TextKeyed (v : Value) : Prop where
  built : v.Built
  texts : v.Throughout (fun _ => True) fun keys => ∀ k ∈ keys, ∃ name, k = .text name

/-- The values inside of a value: the whole, and what is one level below them. -/
inductive Inside (whole : Value) : Value → Prop
  | whole : Inside whole whole
  | child {v w : Value} : Inside whole v → w ∈ v.children → Inside whole w

variable {v w whole : Value} {onDouble : Double → Prop} {onKeys onKeys' : List Key → Prop}

/-! ## Level by level -/

theorem Throughout.and (h : v.Throughout onDouble onKeys) (h' : v.Throughout onDouble onKeys') :
    v.Throughout onDouble fun keys => onKeys keys ∧ onKeys' keys := by
  induction h with
  | null => exact .null
  | boolean b => exact .boolean b
  | integer n => exact .integer n
  | float hx => exact .float hx
  | text s => exact .text s
  | array _ ih =>
    cases h' with
    | array hitems' => exact .array fun item hitem => ih item hitem (hitems' item hitem)
  | mapping hkeys _ ih =>
    cases h' with
    | mapping hkeys' hvalues' =>
      exact .mapping ⟨hkeys, hkeys'⟩ fun u hu => ih u hu (hvalues' u hu)

/-- What holds throughout a value holds throughout its items and entries. -/
theorem Throughout.child (h : v.Throughout onDouble onKeys) (hw : w ∈ v.children) :
    w.Throughout onDouble onKeys := by
  cases h with
  | array hitems => exact hitems w hw
  | mapping _ hvalues => exact hvalues w hw
  | _ => cases hw

theorem Throughout.inside (h : whole.Throughout onDouble onKeys) (hv : whole.Inside v) :
    v.Throughout onDouble onKeys := by
  induction hv with
  | whole => exact h
  | child _ hw ih => exact ih.child hw

/-- The keys of one mapping are distinct texts, everywhere in the value. -/
def DistinctTexts (v : Value) : Prop :=
  v.Throughout (fun _ => True) fun keys =>
    Key.Distinct keys ∧ ∀ k ∈ keys, ∃ name, k = .text name

theorem TextKeyed.distinctTexts (h : v.TextKeyed) : v.DistinctTexts := h.built.distinct.and h.texts

/-- **A mapping is a list of values with distinct names.** -/
theorem DistinctTexts.exists_members {fields : Mapping Value}
    (h : (mapping fields).DistinctTexts) :
    ∃ members : List (String × Value), fields = ⟨members.map textEntry⟩ ∧
      (members.map Prod.fst).Nodup := by
  cases h with
  | mapping hkeys _ =>
    obtain ⟨entries⟩ := fields
    obtain ⟨members, rfl⟩ := Mapping.exists_eq_map_textEntry hkeys.2
    exact ⟨members, rfl, Mapping.distinct_textEntry.1 hkeys.1⟩

end Value

/-- **Each value is found under its name**, if the names are distinct. -/
theorem Mapping.get?_textEntry {α : Type} {members : List (String × α)} {member : String × α}
    (hnames : (members.map Prod.fst).Nodup) (hmember : member ∈ members) :
    (Mapping.mk (members.map textEntry)).get? (.text member.1) = some member.2 := by
  have hself : (Key.text member.1 == Key.text member.1) = true := beq_self_eq_true member.1
  exact get?_of_mem (distinct_textEntry.2 hnames) hself (List.mem_map_of_mem hmember)

/-! ## Records from JSON -/

namespace Value

theorem textKeyed_empty : (mapping .empty).TextKeyed := ⟨.empty, .mapping nofun nofun⟩

/-- An insert under a text key keeps all keys texts. -/
theorem TextKeyed.insert {fields : Mapping Value} (h : (mapping fields).TextKeyed) (name : String)
    (hv : v.TextKeyed) : (mapping (fields.insert (.text name) v)).TextKeyed := by
  refine ⟨.insert h.built _ hv.built, ?_⟩
  cases h.texts with
  | mapping hkeys hvalues =>
    refine .mapping (fun k hk => ?_) fun u hu => ?_
    · rw [Mapping.keys, Mapping.insert] at hk
      rcases Mapping.keys_insertEntry (.text name) v fields.entries with hsame | ⟨_, hlonger⟩
      · rw [hsame] at hk
        exact hkeys k hk
      · rw [hlonger] at hk
        rcases List.mem_append.1 hk with hold | hnew
        · exact hkeys k hold
        · exact ⟨name, List.mem_singleton.1 hnew⟩
    · obtain ⟨e, he, rfl⟩ := List.mem_map.1 hu
      rcases Mapping.snd_eq_or_mem_of_mem_insertEntry he with hnew | hold
      · rw [hnew]
        exact hv.texts
      · exact hvalues e.2 (List.mem_map_of_mem hold)

theorem textKeyed_foldl_insert {pairs : List (Key × Value)} {fields : Mapping Value}
    (hfields : (mapping fields).TextKeyed)
    (hpairs : ∀ e ∈ pairs, (∃ name, e.1 = .text name) ∧ e.2.TextKeyed) :
    (mapping (pairs.foldl (fun m e => m.insert e.1 e.2) fields)).TextKeyed := by
  induction pairs generalizing fields with
  | nil => exact hfields
  | cons e rest ih =>
    obtain ⟨⟨⟨name, hname⟩, hv⟩, hrest⟩ := List.forall_mem_cons.1 hpairs
    rw [List.foldl_cons, hname]
    exact ih (hfields.insert name hv) hrest

end Value

namespace Json

mutual

/-- **What is read from JSON has text keys.** -/
theorem textKeyed_toValue : ∀ j : Json, j.toValue.TextKeyed
  | .null => ⟨.null, .null⟩
  | .boolean b => ⟨.boolean b, .boolean b⟩
  | .integer n => ⟨.integer n, .integer n⟩
  | .float x => ⟨.float x, .float trivial⟩
  | .text s => ⟨.text s, .text s⟩
  | .array items => by
    have hitems := textKeyed_toValues items
    rw [toValue]
    exact ⟨.array fun v hv => (hitems v hv).built, .array fun v hv => (hitems v hv).texts⟩
  | .object members => by
    rw [toValue, Mapping.ofList]
    exact Value.textKeyed_foldl_insert Value.textKeyed_empty (textKeyed_toEntries members)

theorem textKeyed_toValues : ∀ items : List Json, ∀ v ∈ toValues items, v.TextKeyed
  | [] => nofun
  | item :: rest => by
    rw [toValues]
    exact List.forall_mem_cons.2 ⟨textKeyed_toValue item, textKeyed_toValues rest⟩

theorem textKeyed_toEntries : ∀ members : List (String × Json),
    ∀ e ∈ toEntries members, (∃ name, e.1 = .text name) ∧ e.2.TextKeyed
  | [] => nofun
  | (name, value) :: rest => by
    rw [toEntries]
    exact List.forall_mem_cons.2
      ⟨⟨⟨name, rfl⟩, textKeyed_toValue value⟩, textKeyed_toEntries rest⟩

end

end Json

end RecordQuery

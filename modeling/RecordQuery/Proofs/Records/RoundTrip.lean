import Mathlib.Data.Int.Notation
import RecordQuery.Command.Check
import RecordQuery.Proofs.Compiling.Tree
import RecordQuery.Proofs.Filtering.Policies
import RecordQuery.Proofs.Records.Distinct

/-!
# Records come and go unchanged

A record is read from JSON and written as JSON.  On either side a number keeps its kind and its
sign, and a mapping the order of its keys, so that what is read and written again is what it was.

* `Json.WellFormed` — the doubles are finite, and the names of an object are distinct;
* `Value.Built` — all mappings are made by inserts;
* `Value.Writable` — all keys are texts, and all doubles are finite;
* `toJson_toValue`, `toValue_toJson` — **nothing is lost in either direction**;
* `records_pass_unchanged` — so the records that a check keeps are records of its input.
-/

namespace RecordQuery

/-! ## What JSON can hold -/

/-- The doubles are finite, and the names of every object are distinct. -/
inductive Json.WellFormed : Json → Prop
  | null : WellFormed .null
  | boolean (b : Bool) : WellFormed (.boolean b)
  | integer (n : ℤ) : WellFormed (.integer n)
  | float (negative : Bool) (units : ℕ) : WellFormed (.float (.finite negative units))
  | text (s : String) : WellFormed (.text s)
  | array {items : List Json} (hitems : ∀ item ∈ items, WellFormed item) :
      WellFormed (.array items)
  | object {members : List (String × Json)} (hnames : (members.map Prod.fst).Nodup)
      (hmembers : ∀ member ∈ members, WellFormed member.2) : WellFormed (.object members)

namespace Value

/-- Every mapping in the value is made from the empty one by inserts. -/
inductive Built : Value → Prop
  | null : Built null
  | boolean (b : Bool) : Built (boolean b)
  | integer (n : ℤ) : Built (integer n)
  | float (x : Double) : Built (float x)
  | text (s : String) : Built (text s)
  | array {items : List Value} (hitems : ∀ item ∈ items, Built item) : Built (array items)
  | empty : Built (mapping .empty)
  | insert {fields : Mapping Value} {v : Value} (hfields : Built (mapping fields)) (k : Key)
      (hv : Built v) : Built (mapping (fields.insert k v))

/-- What is said of doubles and of the keys of one mapping holds everywhere in the value. -/
inductive Throughout (onDouble : Double → Prop) (onKeys : List Key → Prop) : Value → Prop
  | null : Throughout onDouble onKeys null
  | boolean (b : Bool) : Throughout onDouble onKeys (boolean b)
  | integer (n : ℤ) : Throughout onDouble onKeys (integer n)
  | float {x : Double} (hx : onDouble x) : Throughout onDouble onKeys (float x)
  | text (s : String) : Throughout onDouble onKeys (text s)
  | array {items : List Value} (hitems : ∀ item ∈ items, Throughout onDouble onKeys item) :
      Throughout onDouble onKeys (array items)
  | mapping {fields : Mapping Value} (hkeys : onKeys fields.keys)
      (hvalues : ∀ v ∈ fields.values, Throughout onDouble onKeys v) :
      Throughout onDouble onKeys (mapping fields)

/-- All keys in the value are texts, and all doubles are finite. -/
def Writable (v : Value) : Prop :=
  v.Throughout (fun x => ∃ negative units, x = .finite negative units)
    fun keys => ∀ k ∈ keys, ∃ name, k = .text name

/-- **Inserts never make two entries for keys that agree.** -/
theorem Built.distinct {v : Value} (h : v.Built) : v.Throughout (fun _ => True) Key.Distinct := by
  induction h with
  | null => exact .null
  | boolean b => exact .boolean b
  | integer n => exact .integer n
  | float x => exact .float trivial
  | text s => exact .text s
  | array _ ih => exact .array ih
  | empty => exact .mapping .nil nofun
  | insert _ k _ ihfields ihv =>
    cases ihfields with
    | mapping hkeys hvalues =>
      refine .mapping (Mapping.distinct_insertEntry hkeys _ _) fun w hw => ?_
      obtain ⟨e, he, rfl⟩ := List.mem_map.1 hw
      obtain hnew | hold := Mapping.snd_eq_or_mem_of_mem_insertEntry he
      · rwa [hnew]
      · exact hvalues e.2 (List.mem_map_of_mem hold)

end Value

/-! ## Items and members one by one -/

open Mapping (textEntry)

/-- Names stay as they are where only the values change. -/
theorem nodup_names_iff {α β : Type} {f : α → β} {members : List (String × α)} :
    ((members.map (Prod.map id f)).map Prod.fst).Nodup ↔ (members.map Prod.fst).Nodup := by
  rw [List.map_map]
  rfl

namespace Json

theorem toValues_eq_map (items : List Json) : toValues items = items.map toValue := by
  induction items with
  | nil => rfl
  | cons item rest ih => rw [toValues, ih, List.map_cons]

theorem toEntries_eq_map (members : List (String × Json)) :
    toEntries members = (members.map (Prod.map id toValue)).map textEntry := by
  induction members with
  | nil => rfl
  | cons member rest ih =>
    rw [toEntries, ih]
    rfl

/-- Members with distinct names become entries in their order. -/
theorem toValue_object {members : List (String × Json)} (hnames : (members.map Prod.fst).Nodup) :
    (object members).toValue = .mapping ⟨(members.map (Prod.map id toValue)).map textEntry⟩ := by
  rw [toValue, toEntries_eq_map, Mapping.ofList_eq_mk]
  exact Mapping.distinct_textEntry.2 (nodup_names_iff.2 hnames)

end Json

namespace Value

theorem toJsonItems_eq_map (items : List Value) : toJsonItems items = items.map toJson := by
  induction items with
  | nil => rfl
  | cons item rest ih => rw [toJsonItems, ih, List.map_cons]

theorem toJsonMembers_map_textEntry (members : List (String × Value)) :
    toJsonMembers (members.map textEntry) = members.map (Prod.map id toJson) := by
  induction members with
  | nil => rfl
  | cons member rest ih =>
    rw [List.map_cons, List.map_cons, ← ih]
    rfl

/-- Entries with distinct text keys become members in their order. -/
theorem toJson_mapping {members : List (String × Value)} (hnames : (members.map Prod.fst).Nodup) :
    (mapping ⟨members.map textEntry⟩).toJson = .object (members.map (Prod.map id toJson)) := by
  rw [toJson, toJsonMembers_map_textEntry, Json.membersOf_eq_self (nodup_names_iff.2 hnames)]

end Value

/-! ## There and back -/

/-- A way there and back that leads each item back leads them all back. -/
theorem map_map_eq_self {α β : Type} {f : α → β} {g : β → α} {items : List α}
    (h : ∀ item ∈ items, g (f item) = item) : (items.map f).map g = items := by
  rw [List.map_map]
  exact (List.map_congr_left h).trans (List.map_id _)

/-- **What is read from JSON is written as it was.** -/
theorem Json.WellFormed.toJson_toValue {j : Json} (h : j.WellFormed) : j.toValue.toJson = j := by
  induction h with
  | null => rfl
  | boolean b => rfl
  | integer n => rfl
  | float negative units => rfl
  | text s => rfl
  | array _ ih =>
    rw [toValue, toValues_eq_map, Value.toJson, Value.toJsonItems_eq_map, map_map_eq_self ih]
  | object hnames _ ih =>
    rw [toValue_object hnames, Value.toJson_mapping (nodup_names_iff.2 hnames), map_map_eq_self]
    exact fun member hmember => Prod.ext rfl (ih member hmember)

/-- **What is written as JSON is read as it was.** -/
theorem Value.Writable.toValue_toJson {v : Value} (h : v.Writable) (hbuilt : v.Built) :
    v.toJson.toValue = v := by
  -- a value that an insert replaced need not be writable, so the induction is not on the inserts
  have hdistinct := hbuilt.distinct
  clear hbuilt
  induction hdistinct with
  | null => rfl
  | boolean b => rfl
  | integer n => rfl
  | float _ =>
    cases h with
    | float hfinite =>
      obtain ⟨negative, units, rfl⟩ := hfinite
      rfl
  | text s => rfl
  | array _ ih =>
    cases h with
    | array hitems =>
      rw [toJson, toJsonItems_eq_map, Json.toValue, Json.toValues_eq_map, map_map_eq_self]
      exact fun item hitem => ih item hitem (hitems item hitem)
  | @mapping fields hkeys _ ih =>
    cases h with
    | mapping htexts hvalues =>
      obtain ⟨entries⟩ := fields
      obtain ⟨members, rfl⟩ := Mapping.exists_eq_map_textEntry htexts
      have hnames := Mapping.distinct_textEntry.1 hkeys
      rw [toJson_mapping hnames, Json.toValue_object (nodup_names_iff.2 hnames), map_map_eq_self]
      intro member hmember
      have hmem : member.2 ∈ (Mapping.mk (members.map textEntry)).values :=
        List.mem_map_of_mem (List.mem_map_of_mem hmember)
      exact Prod.ext rfl (ih _ hmem (hvalues _ hmem))

/-! ## The records that a check keeps -/

variable {options : CheckOptions} {query : Query} {records : List Value} {answer : Json}

theorem answerFailure_ne_kept (failure : FilterError) :
    answerFailure failure ≠ .ok (.kept answer) := by
  cases failure <;> exact fun h => by cases h

theorem eq_of_runQuery (h : runQuery options query records = .ok (.kept answer)) :
    answer = .array ((records.filter query.keeps).map Value.toJson) := by
  unfold runQuery at h
  split at h
  · split at h
    · cases h
    · exact absurd h (answerFailure_ne_kept _)
  · split at h
    next kept hkept =>
      cases h
      obtain ⟨_, rfl⟩ := Query.filterFrom_eq_ok_iff.1 hkept
      rw [← Query.map_snd_keptFrom query 0, List.map_map]
      rfl
    · exact absurd h (answerFailure_ne_kept _)

/-- What a check keeps are the records of the input with the answer yes, written as JSON. -/
theorem eq_of_check (h : check options = .ok (.kept answer)) :
    ∃ query input records, Query.compile options.query = .ok query ∧
      options.input = some input ∧ readRecords input = .ok records ∧
      answer = .array ((records.filter query.keeps).map Value.toJson) := by
  unfold check at h
  split at h
  · cases h
  next query hquery =>
    split at h
    · cases h
    · split at h
      · cases h
      next input hinput =>
        obtain ⟨records, hrecords, hrun⟩ := Except.bind_eq_ok_iff.1 h
        exact ⟨query, input, records, hquery, hinput, hrecords, eq_of_runQuery hrun⟩

/-- **The records that a check keeps are those of its input, as they are.** -/
theorem kept_eq_filter {input : String} {items : List Json} (hinput : options.input = some input)
    (hread : Json.read? input = some (.array items)) (hitems : ∀ item ∈ items, item.WellFormed)
    (h : check options = .ok (.kept answer)) :
    ∃ query, Query.compile options.query = .ok query ∧
      answer = .array (items.filter fun item => query.keeps item.toValue) := by
  obtain ⟨query, input', records, hquery, hinput', hrecords, rfl⟩ := eq_of_check h
  obtain rfl : input = input' := Option.some.inj (hinput.symm.trans hinput')
  have hvalues : readRecords input = .ok (items.map Json.toValue) := by
    rw [readRecords, hread]
  obtain rfl := Except.ok.inj (hvalues.symm.trans hrecords)
  refine ⟨query, hquery, ?_⟩
  rw [List.filter_map, map_map_eq_self]
  · rfl
  · exact fun item hitem => (hitems item (List.mem_filter.1 hitem).1).toJson_toValue

/-- **JSON records pass through unchanged**: reading and writing undo each other, and what a check
keeps of an array of records is a part of the array, in its order. -/
theorem records_pass_unchanged :
    (∀ j : Json, j.WellFormed → j.toValue.toJson = j) ∧
    (∀ v : Value, v.Built → v.Writable → v.toJson.toValue = v) ∧
    ∀ (options : CheckOptions) (input : String) (items : List Json) (answer : Json),
      options.input = some input → Json.read? input = some (.array items) →
      (∀ item ∈ items, item.WellFormed) → check options = .ok (.kept answer) →
      ∃ kept query, answer = .array kept ∧ kept.Sublist items ∧
        Query.compile options.query = .ok query ∧
        kept = items.filter fun item => query.keeps item.toValue := by
  refine ⟨fun _ h => h.toJson_toValue, fun _ hbuilt h => h.toValue_toJson hbuilt, ?_⟩
  intro options input items answer hinput hread hitems h
  obtain ⟨query, hquery, rfl⟩ := kept_eq_filter hinput hread hitems h
  exact ⟨_, query, rfl, List.filter_sublist, hquery, rfl⟩

/-- Zeros of three kinds, a key that is set twice, and a record that fails between two others. -/
theorem records_pass_unchanged_zeros :
    let zeros : Json := .object [("z", .integer 0), ("a", .float (.finite true 0)),
      ("m", .array [.float (.finite false 0), .object [("a", .null)]])]
    let twice : Value := .ofPairs [(.text "b", .float .nan), (.text "a", .integer 0),
      (.text "b", .float (.finite true 0))]
    let first : Json := .object [("b", .text "X"), ("a", .array [.object [("b", .null)]])]
    let last : Json := .object [("a", .integer 0), ("b", .text "y")]
    let input :=
      "[\x7b\"b\":\"X\",\"a\":[\x7b\"b\":null\x7d]\x7d,\x7b\"b\":7\x7d,\x7b\"a\":0,\"b\":\"y\"\x7d]"
    let items := [first, .object [("b", .integer 7)], last]
    let options : CheckOptions := ⟨"any(b)", some input, false, false, false, true⟩
    (zeros.WellFormed ∧ zeros.toValue.toJson = zeros) ∧
      (twice.Built ∧ twice.Writable ∧ twice.toJson.toValue = twice) ∧
      Json.read? input = some (.array items) ∧ (∀ item ∈ items, item.WellFormed) ∧
      check options = .ok (.kept (.array [first, last])) ∧ [first, last].Sublist items := by
  intro zeros twice first last input items options
  obtain ⟨hjson, hvalue, hcheck⟩ := records_pass_unchanged
  have hzeros : zeros.WellFormed := by
    refine .object (by decide) ?_
    simp only [List.forall_mem_cons]
    refine ⟨.integer _, .float _ _, .array ?_, nofun⟩
    simp only [List.forall_mem_cons]
    exact ⟨.float _ _, .object (by decide) (List.forall_mem_singleton.2 .null), nofun⟩
  have hbuilt : twice.Built :=
    .insert (.insert (.insert .empty _ (.float _)) _ (.integer _)) _ (.float _)
  have hwritable : twice.Writable := by
    refine .mapping ?_ ?_
    · exact List.forall_mem_cons.2 ⟨⟨_, rfl⟩, List.forall_mem_singleton.2 ⟨_, rfl⟩⟩
    · exact List.forall_mem_cons.2
        ⟨.float ⟨_, _, rfl⟩, List.forall_mem_singleton.2 (.integer _)⟩
  have hread : Json.read? input = some (.array items) := by
    dsimp only [input, items, first, last]
    rfl
  have hitems : ∀ item ∈ items, item.WellFormed := by
    simp only [items, List.forall_mem_cons]
    refine ⟨.object (by decide) ?_, .object (by decide) ?_, .object (by decide) ?_, nofun⟩
    · refine List.forall_mem_cons.2 ⟨.text _, List.forall_mem_singleton.2 (.array ?_)⟩
      exact List.forall_mem_singleton.2 (.object (by decide) (List.forall_mem_singleton.2 .null))
    · exact List.forall_mem_singleton.2 (.integer _)
    · exact List.forall_mem_cons.2 ⟨.integer _, List.forall_mem_singleton.2 (.text _)⟩
  have htokens : tokenize "any(b)".toList =
      .ok [⟨"any", ⟨0, 3⟩, .text, .start, false⟩, ⟨"(", ⟨3, 1⟩, .leftParen, .text, false⟩,
        ⟨"b", ⟨4, 1⟩, .text, .leftParen, false⟩, ⟨")", ⟨5, 1⟩, .rightParen, .text, false⟩,
        ⟨"", ⟨6, 0⟩, .finish, .rightParen, false⟩] := by cbv
  have hcompile : Query.compile "any(b)" = .ok ⟨"any(b)", some (.method .any
      (.operand (.path ⟨[.key "b"]⟩) ⟨"b", ⟨4, 1⟩, .text, .leftParen, false⟩)
      ⟨"any", ⟨0, 3⟩, .text, .start, false⟩)⟩ := by
    refine compile_eq_ok_iff.2 ⟨_, htokens, ?_⟩
    exact .part (.part (.part (.atom
      (.call rfl rfl rfl (by decide) (.part (.part (.part (.atom (.operand rfl rfl))))) rfl))))
  have hrecords : readRecords input = .ok (items.map Json.toValue) := by rw [readRecords, hread]
  have hkept : check options = .ok (.kept (.array [first, last])) := by
    rw [check, hcompile]
    simp only [options, hrecords]
    dsimp only [items, first, last]
    rfl
  obtain ⟨kept, _, hanswer, hsublist, _⟩ := hcheck options input items _ rfl hread hitems hkept
  obtain rfl : [first, last] = kept := Json.array.inj hanswer
  exact ⟨⟨hzeros, hjson zeros hzeros⟩, ⟨hbuilt, hwritable, hvalue twice hbuilt hwritable⟩, hread,
    hitems, hkept, hsublist⟩

end RecordQuery

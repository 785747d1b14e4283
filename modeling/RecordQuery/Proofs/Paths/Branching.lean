import RecordQuery.Proofs.Records.TextKeys

/-!
# Levels that branch

At a segment for every value of a level, a path branches: it is followed from each of the values,
one after the other.  The key set of the level lists the same branches by their keys, so that each
of them can be looked up on its own; and since no key comes twice, this finds the same values.

* `Branches`, `finish_foldl_push` — results put together one by one are their `collapse`;
* `Value.members`, `Value.select?` — the segments for the members of a key set, and single look-ups;
* `map_select?_members` — **every member of a key set is found under its key**, in order;
* `resolveByKeys`, `resolveByKeys_eq` — **paths followed by single look-ups lead to the same**;
* `branching_levels` — what the segments that branch lead to, at every level of a record.
-/

namespace RecordQuery

open Mapping (textEntry)

/-! ## Results of branches -/

/-- The results of the branches so far: none, a single one as it is, or a list of several. -/
inductive Branches where
  | empty
  | one (v : Value)
  | many (vs : List Value)

namespace Branches

/-- Adds the result of a branch, unless it was pruned. -/
def push : Branches → Option Value → Branches
  | found, none => found
  | empty, some v => one v
  | one u, some v => many [u, v]
  | many us, some v => many (us ++ [v])

/-- What the branches come to. -/
def finish : Branches → Option Value
  | empty => none
  | one v => some v
  | many vs => some (.array vs)

/-- The branches with these results. -/
def ofList : List Value → Branches
  | [] => empty
  | [v] => one v
  | vs => many vs

theorem push_ofList (vs : List Value) (r : Option Value) :
    (ofList vs).push r = ofList (vs ++ r.toList) := by
  cases r with
  | none =>
    rw [Option.toList_none, List.append_nil]
    cases ofList vs <;> rfl
  | some v =>
    match vs with
    | [] => rfl
    | [_] => rfl
    | _ :: _ :: _ => rfl

theorem finish_ofList (vs : List Value) : (ofList vs).finish = collapse vs := by
  match vs with
  | [] => rfl
  | [_] => rfl
  | _ :: _ :: _ => rfl

/-- **Results that are put together one by one are their `collapse`**, without those pruned. -/
theorem finish_foldl_push {α : Type} (result : α → Option Value) (branches : List α) :
    (branches.foldl (fun found a => found.push (result a)) empty).finish =
      collapse (branches.filterMap result) := by
  have hfold : ∀ vs : List Value,
      branches.foldl (fun found a => found.push (result a)) (ofList vs) =
        ofList (vs ++ branches.filterMap result) := by
    induction branches with
    | nil =>
      intro vs
      rw [List.foldl_nil, List.filterMap_nil, List.append_nil]
    | cons a rest ih =>
      intro vs
      rw [List.foldl_cons, push_ofList, ih, List.append_assoc]
      cases h : result a with
      | none => rw [List.filterMap_cons_none h, Option.toList_none, List.nil_append]
      | some v => rw [List.filterMap_cons_some h, Option.toList_some, List.singleton_append]
  have hall := hfold []
  rw [List.nil_append] at hall
  rw [← finish_ofList, ← hall]
  rfl

end Branches

/-! ## Single look-ups -/

namespace Value

/-- The segment that looks up a member of a key set. -/
def asSegment? : Value → Option Segment
  | text name => some (.key name)
  | integer n => some (.number (some n) (Double.ofInt n))
  | _ => none

/-- The segments for the members of the key set of a level, in order. -/
def members (v : Value) : List Segment :=
  match v.keySet? with
  | some (array keys) => keys.filterMap asSegment?
  | _ => []

/-- What a segment for one key selects at a level. -/
def select? (v : Value) (segment : Segment) : Option Value :=
  match segment, v with
  | .key name, mapping fields => fields.get? (.text name)
  | .number (some i) _, array items => itemAt? items i
  | .number _ x, mapping fields => fields.get? (.float x)
  | _, _ => none

end Value

/-- Follows segments by single look-ups: a level branches into the members of its key set, each of
which is looked up, and the results are put together one by one. -/
def resolveByKeys : List Segment → Value → Option Value
  | [], v => some v.endpoint
  | segment :: rest, v =>
    match segment with
    | .any =>
      (v.members.foldl (fun found member =>
        found.push ((v.select? member).bind (resolveByKeys rest))) Branches.empty).finish
    | .self =>
      v.keySet?.bind fun keys =>
        let found := Branches.empty.push (some keys)
        (if rest.isEmpty then found else found.push (resolveByKeys rest v)).finish
    | segment => (v.select? segment).bind (resolveByKeys rest)

variable {v w : Value} {rest : List Segment} {items : List Value}

theorem mem_children_of_get? {fields : Mapping Value} {k : Key} (h : fields.get? k = some w) :
    w ∈ (Value.mapping fields).children := Mapping.mem_values_of_get? h

theorem mem_of_itemAt? {i : Int} (h : itemAt? items i = some w) : w ∈ items := by
  unfold itemAt? at h
  split at h
  · exact List.mem_of_getElem? h
  · split at h
    · exact List.mem_of_getElem? h
    · cases h

/-- What is selected is one level below. -/
theorem mem_children_of_select? {segment : Segment} (h : v.select? segment = some w) :
    w ∈ v.children := by
  unfold Value.select? at h
  split at h
  · exact mem_children_of_get? h
  · exact mem_of_itemAt? h
  · exact mem_children_of_get? h
  · cases h

/-- A segment for one key leads on from what it selects. -/
theorem resolveAt_cons (segment : Segment) (hany : segment ≠ .any) (hself : segment ≠ .self) :
    resolveAt (segment :: rest) v = (v.select? segment).bind (resolveAt rest) := by
  cases segment with
  | any => exact absurd rfl hany
  | self => exact absurd rfl hself
  | key name => cases v <;> rfl
  | number index x => cases index <;> cases v <;> rfl

theorem resolveAt_any :
    resolveAt (.any :: rest) v = collapse (v.children.filterMap (resolveAt rest)) := by
  rw [resolveAt]

/-! ## The members of a key set -/

theorem keySet?_textEntries (members : List (String × Value)) :
    (Value.mapping ⟨members.map textEntry⟩).keySet? =
      some (.array ((members.map Prod.fst).map .text)) := by
  show some (Value.array (((members.map textEntry).map Prod.fst).map Key.toValue)) = _
  rw [List.map_map, List.map_map, List.map_map]
  rfl

theorem members_textEntries (members : List (String × Value)) :
    (Value.mapping ⟨members.map textEntry⟩).members = (members.map Prod.fst).map .key := by
  rw [Value.members, keySet?_textEntries]
  dsimp only
  rw [List.filterMap_map]
  exact congrFun (List.filterMap_eq_map (f := Segment.key)) _

theorem members_array (items : List Value) :
    (Value.array items).members =
      (List.range items.length).map fun i => .number (some i) (Double.ofInt i) := by
  show (Value.places items.length).filterMap Value.asSegment? = _
  rw [Value.places, List.filterMap_map, ← List.filterMap_eq_map]
  rfl

theorem map_itemAt?_range (items : List Value) :
    (List.range items.length).map (fun i : ℕ => itemAt? items i) = items.map some := by
  apply List.ext_getElem?
  intro i
  rw [List.getElem?_map, List.getElem?_map]
  by_cases hi : i < items.length
  · have hitem : itemAt? items i = items[i]? := if_pos (Int.natCast_nonneg i)
    rw [List.getElem?_range hi, Option.map_some, hitem, List.getElem?_eq_getElem hi,
      Option.map_some]
  · rw [List.getElem?_eq_none (by rw [List.length_range]; omega),
      List.getElem?_eq_none (by omega)]
    rfl

/-- **Every member of a key set is found under its key**, and so the members are the values one
level down, in their order. -/
theorem map_select?_members (h : v.DistinctTexts) :
    v.members.map v.select? = v.children.map some := by
  cases v with
  | mapping fields =>
    obtain ⟨members, rfl, hnames⟩ := h.exists_members
    have hchildren : (Value.mapping ⟨members.map textEntry⟩).children = members.map Prod.snd := by
      show (members.map textEntry).map Prod.snd = _
      rw [List.map_map]
      rfl
    rw [members_textEntries, hchildren, List.map_map, List.map_map, List.map_map]
    refine List.map_congr_left fun member hmember => ?_
    exact Mapping.get?_textEntry hnames hmember
  | array items =>
    rw [members_array, List.map_map]
    exact map_itemAt?_range items
  | _ => rfl

/-- To look every member up and go on from there is to go on from every value one level down. -/
theorem filterMap_members (h : v.DistinctTexts) (follow : Value → Option Value) :
    v.members.filterMap (fun member => (v.select? member).bind follow) =
      v.children.filterMap follow := by
  have hbind := congrArg (List.filterMap fun found => found.bind follow) (map_select?_members h)
  rw [List.filterMap_map, List.filterMap_map] at hbind
  exact hbind

/-- **Paths that are followed by single look-ups lead to the same.** -/
theorem resolveByKeys_eq (h : v.DistinctTexts) (segments : List Segment) :
    resolveByKeys segments v = resolveAt segments v := by
  induction segments generalizing v with
  | nil => rfl
  | cons segment rest ih =>
    have hbelow : ∀ w ∈ v.children, resolveByKeys rest w = resolveAt rest w :=
      fun w hw => ih (h.child hw)
    have hselected : (v.select? segment).bind (resolveByKeys rest) =
        (v.select? segment).bind (resolveAt rest) :=
      Option.bind_congr fun w hw => hbelow w (mem_children_of_select? hw)
    cases segment with
    | any =>
      rw [resolveByKeys.eq_def]
      dsimp only
      rw [Branches.finish_foldl_push, filterMap_members h, List.filterMap_congr hbelow,
        resolveAt_any]
    | self =>
      rw [resolveByKeys.eq_def, resolveAt]
      refine Option.bind_congr fun keys _ => ?_
      cases rest with
      | nil => rfl
      | cons next rest =>
        dsimp only [List.isEmpty_cons]
        rw [ih h]
        cases resolveAt (next :: rest) v <;> rfl
    | key name =>
      rw [resolveAt_cons (.key name) nofun nofun]
      exact hselected
    | number index x =>
      rw [resolveAt_cons (.number index x) nofun nofun]
      exact hselected

/-! ## The segments that branch -/

theorem resolveAt_self : resolveAt [.self] v = v.keySet? := by
  rw [resolveAt]
  cases v.keySet? <;> rfl

/-- What the segments that branch lead to at a level, with a rest to follow from there. -/
structure BranchesByKeys (level : Value) (rest : List Segment) : Prop where
  /-- At a mapping, the key set names the entries that are looked up. -/
  any_mapping : ∀ fields, level = .mapping fields → ∃ names : List String,
    resolveAt [.self] level = some (.array (names.map .text)) ∧
      resolveAt (.any :: rest) level =
        collapse (names.filterMap fun name => resolveAt (.key name :: rest) level)
  /-- At a sequence, the key set holds the places that are looked up. -/
  any_array : ∀ items, level = .array items →
    resolveAt [.self] level =
        some (.array ((List.range items.length).map fun i : ℕ => .integer i)) ∧
      ∀ x : ℕ → Double, resolveAt (.any :: rest) level =
        collapse ((List.range items.length).filterMap fun i : ℕ =>
          resolveAt (.number (some i) (x i) :: rest) level)
  self : rest ≠ [] → ∀ keys, resolveAt [.self] level = some keys →
    resolveAt (.self :: rest) level = collapse (keys :: (resolveAt rest level).toList)
  scalar : (∀ fields, level ≠ .mapping fields) → (∀ items, level ≠ .array items) →
    resolveAt (.any :: rest) level = none ∧ resolveAt (.self :: rest) level = none

theorem branchesByKeys (h : v.DistinctTexts) (rest : List Segment) : BranchesByKeys v rest where
  any_mapping fields hv := by
    subst hv
    obtain ⟨members, rfl, _⟩ := h.exists_members
    refine ⟨members.map Prod.fst, ?_, ?_⟩
    · rw [resolveAt_self, keySet?_textEntries]
    · rw [resolveAt_any, ← filterMap_members h, members_textEntries, List.filterMap_map]
      rfl
  any_array items hv := by
    subst hv
    refine ⟨?_, fun x => ?_⟩
    · rw [resolveAt_self]
      rfl
    · rw [resolveAt_any, ← filterMap_members h, members_array, List.filterMap_map]
      rfl
  self hrest keys hkeys := by
    rw [resolveAt_self] at hkeys
    rw [resolveAt, hkeys]
    cases rest with
    | nil => exact absurd rfl hrest
    | cons next rest => rfl
  scalar hmapping harray := by
    cases v with
    | mapping fields => exact absurd rfl (hmapping fields)
    | array items => exact absurd rfl (harray items)
    | _ => exact ⟨rfl, rfl⟩

/-- **To follow every value of a level is to follow every key of its key set.**  This is so at every
level of a record with text keys, such as every record that is read from JSON, and so for every
path. -/
theorem branching_levels :
    (∀ j : Json, j.toValue.TextKeyed) ∧
    ∀ record : Value, record.TextKeyed →
      (∀ segments, resolveByKeys segments record = resolveAt segments record) ∧
      ∀ level, record.Inside level → ∀ rest, BranchesByKeys level rest := by
  refine ⟨Json.textKeyed_toValue, fun record h => ⟨?_, ?_⟩⟩
  · exact fun segments => resolveByKeys_eq h.distinctTexts segments
  · exact fun level hlevel rest => branchesByKeys (h.distinctTexts.inside hlevel) rest

/-- Two wildcards over an entry of each kind: two results, a single one, none, and a scalar. -/
theorem branching_levels_nested :
    let data (n : ℤ) : Json := .object [("data", .integer n)]
    let j : Json := .object [("pos", .object [("noun", data 1), ("verb", data 2)]),
      ("senses", .array [.null, data 3]), ("forms", .array [.text "ran"]), ("word", .text "run")]
    let segments : List Segment := [.any, .any, .key "data"]
    j.toValue.TextKeyed ∧ resolveByKeys segments j.toValue = resolveAt segments j.toValue ∧
      resolveAt segments j.toValue = some (.array [.array [.integer 1, .integer 2], .integer 3]) ∧
      BranchesByKeys j.toValue [.any, .key "data"] := by
  intro data j segments
  obtain ⟨hjson, hrecord⟩ := branching_levels
  obtain ⟨hkeys, hlevels⟩ := hrecord j.toValue (hjson j)
  exact ⟨hjson j, hkeys segments, by rfl, hlevels _ .whole _⟩

end RecordQuery

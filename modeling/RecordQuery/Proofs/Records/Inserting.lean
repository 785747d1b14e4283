import Mathlib.Data.Finset.Card
import RecordQuery.Proofs.Records.Distinct

/-!
# Mappings as finite maps

A mapping is a list of entries, and an insert walks this list.  Seen from outside it is a finite map
that remembers in which order its keys came: where the keys are texts or integers, a lookup finds
the value that was inserted last, and everything else stays as it was and where it was.

* `Key.IsExact` — the keys that are equal only to themselves;
* `get?_insert`, `keys_insert_of_any`, `keys_insert_of_not_any` — **what one insert does** to
  lookups and to places;
* `Mapping.Sets`, `Mapping.Remembers` — what an insert does, and what all inserts before it leave;
* `insertAll_remembers` — **a mapping is an insertion-ordered finite map**.
-/

namespace RecordQuery

/-- The keys that are compared exactly: texts and integers, but no doubles. -/
def Key.IsExact : Key → Prop
  | text _ => True
  | integer _ => True
  | float _ => False

theorem Key.beq_iff_eq {k k' : Key} (hk : k.IsExact) (hk' : k'.IsExact) :
    (k == k') = true ↔ k = k' := by
  cases k <;> cases k'
  case text.text s t =>
    show (s == t) = true ↔ _
    simp
  case integer.integer m n =>
    show (m == n) = true ↔ _
    simp
  case text.integer s n => exact ⟨nofun, nofun⟩
  case integer.text m t => exact ⟨nofun, nofun⟩
  all_goals contradiction

namespace Mapping

variable {α : Type} {m : Mapping α} {k k' : Key} {v : α} {e : Key × α}
  {entries pairs : List (Key × α)}

/-- All keys are texts or integers. -/
def ExactKeys (entries : List (Key × α)) : Prop := ∀ e ∈ entries, e.1.IsExact

/-- The value that comes last with a key. -/
def LastValue (pairs : List (Key × α)) (k : Key) (v : α) : Prop :=
  ∃ before after, pairs = before ++ (k, v) :: after ∧ ∀ e ∈ after, e.1 ≠ k

/-- Sets one key after the other. -/
def insertAll (m : Mapping α) (pairs : List (Key × α)) : Mapping α :=
  pairs.foldl (fun m e => (m.getThenInsert? e.1 e.2).2) m

/-- What an insert makes of a mapping: the key gets its value, and nothing else changes its value or
its place. -/
structure Sets (m : Mapping α) (k : Key) (v : α) (replaced : Option α) (after : Mapping α) :
    Prop where
  replaced : replaced = m.get? k
  own : after.get? k = some v
  others : ∀ k', k'.IsExact → k' ≠ k → after.get? k' = m.get? k'
  kept : k ∈ m.keys → after.keys = m.keys
  added : k ∉ m.keys → after.keys = m.keys ++ [k]

/-- What some inserts leave in the empty mapping: the last value of each key, at the place of the
first one. -/
structure Remembers (pairs : List (Key × α)) (m : Mapping α) : Prop where
  last : ∀ k v, k.IsExact → (m.get? k = some v ↔ LastValue pairs k v)
  missing : ∀ k, k.IsExact → (m.get? k = none ↔ k ∉ pairs.map Prod.fst)
  order : m.keys = (pairs.map Prod.fst).eraseDups
  size : m.size = (pairs.map Prod.fst).toFinset.card

/-! ## One insert -/

/-- The walk of an insert tells what a lookup would have found. -/
theorem replaceEntry_eq (k : Key) (v : α) (entries : List (Key × α)) :
    replaceEntry k v entries = ((mk entries).get? k, insertEntry k v entries) := by
  induction entries with
  | nil => rfl
  | cons e rest ih =>
    rw [replaceEntry, insertEntry_cons, get?_cons, ih]
    split <;> rfl

theorem getThenInsert?_eq (m : Mapping α) (k : Key) (v : α) :
    m.getThenInsert? k v = (m.get? k, m.insert k v) := by
  rw [getThenInsert?, replaceEntry_eq]
  rfl

theorem get?_insertEntry (h : ExactKeys entries) (hk : k.IsExact) (hk' : k'.IsExact) :
    (mk (insertEntry k v entries)).get? k' = if k = k' then some v else (mk entries).get? k' := by
  have hkey : (k == k') = decide (k = k') := by
    rw [Bool.eq_iff_iff, decide_eq_true_iff]
    exact Key.beq_iff_eq hk hk'
  induction entries with
  | nil =>
    show (mk [(k, v)]).get? k' = _
    simp [get?_cons, hkey]
  | cons e rest ih =>
    obtain ⟨hfirst, hrest⟩ := List.forall_mem_cons.1 h
    have hnext := ih hrest
    rw [insertEntry_cons]
    by_cases hsame : e.1 = k
    · have hfound : (e.1 == k) = true := (Key.beq_iff_eq hfirst hk).2 hsame
      rw [if_pos hfound, get?_cons, get?_cons, hsame, hkey]
      by_cases hother : k = k' <;> simp [hother]
    · have hpassed : ¬ (e.1 == k) = true := fun hagree => hsame ((Key.beq_iff_eq hfirst hk).1 hagree)
      rw [if_neg hpassed, get?_cons, get?_cons, hnext]
      by_cases hother : k = k'
      · subst hother
        simp [hpassed]
      · simp [hother]

/-- **After an insert its key has the new value, and every other key the old one.** -/
theorem get?_insert (h : ExactKeys m.entries) (hk : k.IsExact) (hk' : k'.IsExact) :
    (m.insert k v).get? k' = if k = k' then some v else m.get? k' := get?_insertEntry h hk hk'

theorem beq_iff_of_mem_keys (h : ExactKeys m.entries) (hk : k.IsExact) (hmem : k' ∈ m.keys) :
    (k' == k) = true ↔ k' = k := by
  obtain ⟨e, he, rfl⟩ := List.mem_map.1 hmem
  exact Key.beq_iff_eq (h e he) hk

/-- **An insert moves no key**, and a key that is there stays as it is. -/
theorem keys_insert_of_any (h : (m.keys.any fun k' => k' == k) = true) :
    (m.insert k v).keys = m.keys := by
  obtain ⟨k', hmem, hagree⟩ := List.any_eq_true.1 h
  obtain hsame | ⟨hnew, _⟩ := keys_insertEntry k v m.entries
  · exact hsame
  · rw [hnew k' hmem] at hagree
    cases hagree

/-- A new key goes to the end. -/
theorem keys_insert_of_not_any (h : (m.keys.any fun k' => k' == k) = false) :
    (m.insert k v).keys = m.keys ++ [k] := by
  have hnew : ∀ k' ∈ m.keys, (k' == k) = false := by simpa using h
  show (insertEntry k v m.entries).map Prod.fst = m.keys ++ [k]
  rw [insertEntry_eq_append hnew]
  simp [keys]

theorem any_keys_iff (h : ExactKeys m.entries) (hk : k.IsExact) :
    (m.keys.any fun k' => k' == k) = true ↔ k ∈ m.keys := by
  rw [List.any_eq_true]
  constructor
  · rintro ⟨k', hmem, hagree⟩
    rwa [← (beq_iff_of_mem_keys h hk hmem).1 hagree]
  · exact fun hmem => ⟨k, hmem, (beq_iff_of_mem_keys h hk hmem).2 rfl⟩

theorem mem_keys_insert_iff (h : ExactKeys m.entries) (hk : k.IsExact) :
    k' ∈ (m.insert k v).keys ↔ k' ∈ m.keys ∨ k' = k := by
  cases hany : m.keys.any fun k' => k' == k with
  | true =>
    rw [keys_insert_of_any hany]
    have hmem : k ∈ m.keys := (any_keys_iff h hk).1 hany
    exact ⟨.inl, fun hor => hor.elim id fun heq => heq ▸ hmem⟩
  | false =>
    rw [keys_insert_of_not_any hany]
    simp

theorem exactKeys_iff : ExactKeys m.entries ↔ ∀ k ∈ m.keys, k.IsExact := by
  simp [ExactKeys, keys]

theorem exactKeys_insert (h : ExactKeys m.entries) (hk : k.IsExact) :
    ExactKeys (m.insert k v).entries := by
  rw [exactKeys_iff]
  intro k' hmem
  rcases (mem_keys_insert_iff h hk).1 hmem with hold | rfl
  · exact exactKeys_iff.1 h k' hold
  · exact hk

theorem sets_getThenInsert? (h : ExactKeys m.entries) (hk : k.IsExact) :
    m.Sets k v (m.getThenInsert? k v).1 (m.getThenInsert? k v).2 := by
  rw [getThenInsert?_eq]
  refine ⟨rfl, ?_, fun k' hk' hne => ?_, fun hold => ?_, fun hnew => ?_⟩
  · simp [get?_insert h hk hk]
  · simp [get?_insert h hk hk', Ne.symm hne]
  · exact keys_insert_of_any ((any_keys_iff h hk).2 hold)
  · refine keys_insert_of_not_any ?_
    rw [Bool.eq_false_iff]
    exact fun hany => hnew ((any_keys_iff h hk).1 hany)

/-! ## All inserts -/

theorem insertAll_empty (pairs : List (Key × α)) : empty.insertAll pairs = ofList pairs := by
  unfold insertAll ofList
  simp only [getThenInsert?_eq]

theorem ofList_concat (pairs : List (Key × α)) (e : Key × α) :
    ofList (pairs ++ [e]) = (ofList pairs).insert e.1 e.2 := List.foldl_concat ..

theorem ExactKeys.of_concat (h : ExactKeys (pairs ++ [e])) : ExactKeys pairs ∧ e.1.IsExact := by
  constructor
  · exact fun e' he' => h e' (List.mem_append_left _ he')
  · exact h e (List.mem_append_right _ List.mem_cons_self)

theorem exactKeys_ofList (h : ExactKeys pairs) : ExactKeys (ofList pairs).entries := by
  induction pairs using List.reverseRecOn with
  | nil => exact fun e he => absurd he List.not_mem_nil
  | append_singleton pairs e ih =>
    obtain ⟨hpairs, he⟩ := h.of_concat
    rw [ofList_concat]
    exact exactKeys_insert (ih hpairs) he

theorem distinct_keys_ofList (pairs : List (Key × α)) : Key.Distinct (ofList pairs).keys := by
  induction pairs using List.reverseRecOn with
  | nil => exact .nil
  | append_singleton pairs e ih =>
    rw [ofList_concat]
    exact distinct_insertEntry ih e.1 e.2

/-- Keys stay in the order in which they came first, whether they are compared exactly or not. -/
theorem keys_foldl_insert (pairs : List (Key × α)) (m : Mapping α) :
    (pairs.foldl (fun m e => m.insert e.1 e.2) m).keys =
      List.eraseDupsBy.loop (· == ·) (pairs.map Prod.fst) m.keys.reverse := by
  induction pairs generalizing m with
  | nil => simp [List.eraseDupsBy.loop]
  | cons e rest ih =>
    rw [List.foldl_cons, ih, List.map_cons, List.eraseDupsBy.loop]
    have hcomm : (m.keys.reverse.any fun k => e.1 == k) = m.keys.any fun k => k == e.1 := by
      simp [Key.beq_comm e.1]
    rw [hcomm]
    cases hany : m.keys.any fun k => k == e.1 with
    | true => rw [keys_insert_of_any hany]
    | false => simp [keys_insert_of_not_any hany]

/-- **Keys stay in the order of their first inserts.** -/
theorem keys_ofList (pairs : List (Key × α)) :
    (ofList pairs).keys = (pairs.map Prod.fst).eraseDups := keys_foldl_insert pairs empty

theorem mem_keys_ofList_iff (h : ExactKeys pairs) :
    k ∈ (ofList pairs).keys ↔ k ∈ pairs.map Prod.fst := by
  induction pairs using List.reverseRecOn with
  | nil => exact Iff.rfl
  | append_singleton pairs e ih =>
    obtain ⟨hpairs, he⟩ := h.of_concat
    rw [ofList_concat, mem_keys_insert_iff (exactKeys_ofList hpairs) he, ih hpairs]
    simp

theorem nodup_keys_ofList (h : ExactKeys pairs) : (ofList pairs).keys.Nodup := by
  refine (distinct_keys_ofList pairs).imp_of_mem fun {k k'} hk _ hdistinct heq => ?_
  have hexact : k.IsExact := exactKeys_iff.1 (exactKeys_ofList h) k hk
  rw [← heq, (Key.beq_iff_eq hexact hexact).2 rfl] at hdistinct
  cases hdistinct

/-- There is one entry for each key. -/
theorem size_ofList (h : ExactKeys pairs) :
    (ofList pairs).size = (pairs.map Prod.fst).toFinset.card := by
  have hkeys : (ofList pairs).keys.toFinset = (pairs.map Prod.fst).toFinset := by
    ext k
    rw [List.mem_toFinset, List.mem_toFinset]
    exact mem_keys_ofList_iff h
  rw [← hkeys, List.toFinset_card_of_nodup (nodup_keys_ofList h)]
  simp [size, keys]

theorem lastValue_nil : ¬ LastValue [] k v := by
  rintro ⟨before, after, h, _⟩
  simp at h

theorem lastValue_concat_iff :
    LastValue (pairs ++ [e]) k v ↔ (e.1 = k ∧ e.2 = v) ∨ (e.1 ≠ k ∧ LastValue pairs k v) := by
  constructor
  · rintro ⟨before, after, h, hafter⟩
    rcases List.eq_nil_or_concat' after with rfl | ⟨after, last, rfl⟩
    · obtain ⟨_, rfl⟩ := List.append_singleton_inj.1 h
      exact .inl ⟨rfl, rfl⟩
    · rw [← List.cons_append, ← List.append_assoc] at h
      obtain ⟨hpairs, rfl⟩ := List.append_singleton_inj.1 h
      have hlast : e.1 ≠ k := hafter e (by simp)
      exact .inr ⟨hlast, before, after, hpairs, fun e' he' => hafter e' (by simp [he'])⟩
  · rintro (⟨rfl, rfl⟩ | ⟨hne, before, after, rfl, hafter⟩)
    · exact ⟨pairs, [], rfl, by simp⟩
    · refine ⟨before, after ++ [e], by simp, fun e' he' => ?_⟩
      rcases List.mem_append.1 he' with hold | hnew
      · exact hafter e' hold
      · rwa [List.mem_singleton.1 hnew]

/-- **A lookup finds the value that was inserted last.** -/
theorem get?_ofList_eq_some_iff (h : ExactKeys pairs) (hk : k.IsExact) :
    (ofList pairs).get? k = some v ↔ LastValue pairs k v := by
  induction pairs using List.reverseRecOn with
  | nil => exact ⟨nofun, fun hlast => absurd hlast lastValue_nil⟩
  | append_singleton pairs e ih =>
    obtain ⟨hpairs, he⟩ := h.of_concat
    rw [ofList_concat, get?_insert (exactKeys_ofList hpairs) he hk, lastValue_concat_iff]
    by_cases hsame : e.1 = k
    · simp [hsame]
    · simp [hsame, ih hpairs]

theorem get?_eq_none_iff (h : ExactKeys m.entries) (hk : k.IsExact) :
    m.get? k = none ↔ k ∉ m.keys := by
  rw [← any_keys_iff h hk]
  simp [get?, keys]

theorem remembers_ofList (h : ExactKeys pairs) : (ofList pairs).Remembers pairs where
  last k v hk := get?_ofList_eq_some_iff h hk
  missing k hk := by rw [get?_eq_none_iff (exactKeys_ofList h) hk, mem_keys_ofList_iff h]
  order := keys_ofList pairs
  size := size_ofList h

/-- **A mapping is an insertion-ordered finite map.**  Whatever is inserted into the empty mapping,
no two keys agree.  If all keys are texts or integers, the mapping has the last value of each key at
the place of its first insert, and the next insert changes the value of its own key only. -/
theorem insertAll_remembers (pairs : List (Key × α)) :
    let m := empty.insertAll pairs
    m = ofList pairs ∧
    (m.keys.Pairwise fun k k' => (k == k') = false ∧ (k' == k) = false) ∧
    (ExactKeys pairs → m.Remembers pairs ∧
      ∀ k v, k.IsExact → m.Sets k v (m.getThenInsert? k v).1 (m.getThenInsert? k v).2) := by
  intro m
  have hm : m = ofList pairs := insertAll_empty pairs
  have hdistinct : Key.Distinct m.keys := by
    rw [hm]
    exact distinct_keys_ofList pairs
  have hboth : m.keys.Pairwise fun k k' => (k == k') = false ∧ (k' == k) = false := by
    refine hdistinct.imp fun {k k'} hk => ⟨hk, ?_⟩
    rwa [Key.beq_comm]
  refine ⟨hm, hboth, fun h => ⟨?_, fun k v hk => ?_⟩⟩
  · rw [hm]
    exact remembers_ofList h
  · have hexact : ExactKeys m.entries := by
      rw [hm]
      exact exactKeys_ofList h
    exact sets_getThenInsert? hexact hk

/-- A key that comes again, and a number that is also written as a text. -/
theorem insertAll_remembers_again :
    let pairs := [(Key.text "1", 'a'), (.integer 1, 'b'), (.text "1", 'c')]
    ExactKeys pairs ∧ (empty.insertAll pairs).keys = [.text "1", .integer 1] ∧
      (empty.insertAll pairs).get? (.text "1") = some 'c' ∧
      ((empty.insertAll pairs).getThenInsert? (.integer 1) 'd').1 = some 'b' := by
  intro pairs
  have hexact : ExactKeys pairs := by simp [pairs, ExactKeys, Key.IsExact]
  obtain ⟨hlist, _, hmap⟩ := insertAll_remembers pairs
  obtain ⟨hall, hnext⟩ := hmap hexact
  refine ⟨hexact, ?_, ?_, ?_⟩
  · rw [hall.order]
    rfl
  · exact (hall.last (.text "1") 'c' trivial).2
      ⟨[(.text "1", 'a'), (.integer 1, 'b')], [], rfl, nofun⟩
  · rw [(hnext (.integer 1) 'd' trivial).replaced]
    exact (hall.last (.integer 1) 'b' trivial).2
      ⟨[(.text "1", 'a')], [(.text "1", 'c')], rfl, by simp⟩

end Mapping

end RecordQuery

import RecordQuery.Proofs.Numbers.Rounding
import RecordQuery.Proofs.Records.Equality

/-!
# Keys and records that are equal to a third one

A key that is an integer agrees with the double it becomes by rounding.  Where no two integers become
one double, keys are compared as doubles, and then equality passes on: from key to key, through the
lookups of a mapping, and from record to record.

* `Value.IntegersIn`, `Key.IntegersIn` — which integers there are in a value or a key;
* `Key.beq_trans` — **keys that agree with one key agree with each other**;
* `get?_insertEntry_of_beq_eq_false` — so an insert changes no lookup of another key;
* `transitiveAt` — **strict equality is transitive**.
-/

namespace RecordQuery

open Double (Separates)

/-- The integer of the key, if it is one, is one of these. -/
def Key.IntegersIn (S : Set ℤ) : Key → Prop
  | .integer n => n ∈ S
  | _ => True

/-- All integers in the value, also those of its keys, are among these. -/
inductive Value.IntegersIn (S : Set ℤ) : Value → Prop
  | null : IntegersIn S .null
  | boolean (b : Bool) : IntegersIn S (.boolean b)
  | integer {n : ℤ} (hn : n ∈ S) : IntegersIn S (.integer n)
  | float (x : Double) : IntegersIn S (.float x)
  | text (s : String) : IntegersIn S (.text s)
  | array {items : List Value} (hitems : ∀ item ∈ items, IntegersIn S item) :
      IntegersIn S (.array items)
  | mapping {fields : Mapping Value} (hkeys : ∀ k ∈ fields.keys, k.IntegersIn S)
      (hvalues : ∀ v ∈ fields.values, IntegersIn S v) : IntegersIn S (.mapping fields)

variable {S : Set ℤ} {a b c v : Value} {as bs cs : List Value} {k k' k'' : Key}

theorem Value.IntegersIn.child (h : a.IntegersIn S) (hv : v ∈ a.children) : v.IntegersIn S := by
  cases h with
  | array hitems => exact hitems v hv
  | mapping _ hvalues => exact hvalues v hv
  | _ => cases hv

theorem Value.IntegersIn.keys {fields : Mapping Value} (h : (Value.mapping fields).IntegersIn S) :
    ∀ k ∈ fields.keys, k.IntegersIn S := by
  cases h with
  | mapping hkeys _ => exact hkeys

theorem forall₂_trans_of_mem {α : Type} {R : α → α → Prop} {xs ys zs : List α}
    (h : ∀ x ∈ xs, ∀ y ∈ ys, ∀ z ∈ zs, R x y → R y z → R x z) (hxy : List.Forall₂ R xs ys)
    (hyz : List.Forall₂ R ys zs) : List.Forall₂ R xs zs := by
  induction hxy generalizing zs with
  | nil => exact hyz
  | cons hfirst _ ih =>
    cases hyz with
    | cons hfirst' hrest' =>
      refine .cons ?_ (ih (fun x hx y hy z hz => ?_) hrest')
      · exact h _ List.mem_cons_self _ List.mem_cons_self _ List.mem_cons_self hfirst hfirst'
      · exact h x (List.mem_cons_of_mem _ hx) y (List.mem_cons_of_mem _ hy) z
          (List.mem_cons_of_mem _ hz)

/-! ## Keys -/

namespace Key

/-- The number that a key stands for. -/
def number? : Key → Option Double
  | text _ => none
  | integer n => some (Double.ofInt n)
  | float x => some x

/-- Two keys denote one text or one number. -/
def SameKey (k k' : Key) : Prop :=
  (∃ s, k = text s ∧ k' = text s) ∨
    ∃ x y, k.number? = some x ∧ k'.number? = some y ∧ (x == y) = true

theorem sameKey_iff_of_numbers {x y : Double} (hk : k.number? = some x)
    (hk' : k'.number? = some y) :
    SameKey k k' ↔ (x == y) = true := by
  constructor
  · rintro (⟨s, rfl, _⟩ | ⟨_, _, hx, hy, hxy⟩)
    · cases hk
    · cases hx.symm.trans hk
      cases hy.symm.trans hk'
      exact hxy
  · exact fun hxy => .inr ⟨x, y, hk, hk', hxy⟩

/-- Where rounding keeps the integers apart, numeric keys are compared as doubles. -/
theorem beq_iff_sameKey (hS : Separates S) (hk : k.IntegersIn S) (hk' : k'.IntegersIn S) :
    (k == k') = true ↔ SameKey k k' := by
  cases k <;> cases k'
  case text.text s t =>
    have hexact : (text s == text t) = true ↔ text s = text t := beq_iff_eq trivial trivial
    rw [hexact]
    constructor
    · rintro ⟨⟩
      exact .inl ⟨s, rfl, rfl⟩
    · rintro (⟨_, hs, ht⟩ | ⟨_, _, hnone, _⟩)
      · exact hs.trans ht.symm
      · cases hnone
  case integer.integer m n =>
    have hexact : (integer m == integer n) = true ↔ integer m = integer n :=
      beq_iff_eq trivial trivial
    rw [sameKey_iff_of_numbers rfl rfl, hexact]
    constructor
    · rintro ⟨⟩
      exact Double.beq_ofInt_iff.2 rfl
    · exact fun hmn => congrArg integer (hS m hk n hk' hmn)
  case float.float x y => exact (sameKey_iff_of_numbers rfl rfl).symm
  case integer.float n x => exact (sameKey_iff_of_numbers rfl rfl).symm
  case float.integer x n =>
    rw [sameKey_iff_of_numbers rfl rfl, Double.beq_comm]
    rfl
  all_goals
    refine ⟨nofun, ?_⟩
    simp [SameKey, number?]

theorem SameKey.trans (h : SameKey k k') (h' : SameKey k' k'') : SameKey k k'' := by
  rcases h with ⟨s, rfl, rfl⟩ | ⟨x, y, hx, hy, hxy⟩
  · rcases h' with hsame | ⟨_, _, hnone, _⟩
    · exact .inl hsame
    · cases hnone
  · rcases h' with ⟨s, rfl, rfl⟩ | ⟨y', z, hy', hz, hyz⟩
    · cases hy
    · cases hy.symm.trans hy'
      exact .inr ⟨x, z, hx, hz, Double.beq_trans hxy hyz⟩

theorem beq_trans (hS : Separates S) (hk : k.IntegersIn S) (hk' : k'.IntegersIn S)
    (hk'' : k''.IntegersIn S) (h : (k == k') = true) (h' : (k' == k'') = true) :
    (k == k'') = true := by
  rw [beq_iff_sameKey hS hk hk'] at h
  rw [beq_iff_sameKey hS hk' hk''] at h'
  rw [beq_iff_sameKey hS hk hk'']
  exact h.trans h'

/-- A key agrees with both or with none of two keys that agree. -/
theorem beq_congr (hS : Separates S) (hk : k.IntegersIn S) (hk' : k'.IntegersIn S)
    (hk'' : k''.IntegersIn S) (h : (k' == k'') = true) : (k == k') = (k == k'') := by
  rw [Bool.eq_iff_iff]
  constructor
  · exact fun hagree => beq_trans hS hk hk' hk'' hagree h
  · rw [Key.beq_comm] at h
    exact fun hagree => beq_trans hS hk hk'' hk' hagree h

end Key

/-! ## Lookups and inserts -/

namespace Mapping

variable {α : Type} {m : Mapping α} {u : α} {entries : List (Key × α)}

/-- Keys that the same keys agree with find the same value. -/
theorem get?_congr (h : ∀ key ∈ entries.map Prod.fst, (key == k) = (key == k')) :
    (mk entries).get? k = (mk entries).get? k' := by
  induction entries with
  | nil => rfl
  | cons e rest ih =>
    obtain ⟨hfirst, hrest⟩ := List.forall_mem_cons.1 h
    rw [get?_cons, get?_cons, hfirst, ih hrest]

/-- An insert changes no lookup of another key, where no key agrees with both. -/
theorem get?_insertEntry_of_beq_eq_false
    (h : ∀ key ∈ entries.map Prod.fst, (key == k) = true → (key == k') = false)
    (hne : (k == k') = false) :
    (mk (insertEntry k u entries)).get? k' = (mk entries).get? k' := by
  induction entries with
  | nil =>
    show (mk [(k, u)]).get? k' = _
    rw [get?_cons, hne]
    rfl
  | cons e rest ih =>
    obtain ⟨hfirst, hrest⟩ := List.forall_mem_cons.1 h
    rw [insertEntry_cons]
    by_cases hsame : (e.1 == k) = true
    · rw [if_pos hsame, get?_cons, get?_cons, hfirst hsame]
      rfl
    · rw [if_neg hsame, get?_cons, get?_cons, ih hrest]

end Mapping

/-! ## Equality -/

namespace Value

/-- Equality of three values is transitive from either side. -/
def TransitiveAt (a b c : Value) : Prop :=
  ((a == b) = true → (b == c) = true → (a == c) = true) ∧
    ((c == b) = true → (b == a) = true → (c == a) = true)

/-- The values that are found under keys that agree are transitively equal, if all values are.  A
value is looked up in the next mapping and stands on the right of what is found there. -/
theorem exists_get?_trans {as bs cs : Mapping Value} {e : Key × Value} (hS : Separates S)
    (ha : (mapping as).IntegersIn S) (hb : (mapping bs).IntegersIn S)
    (hc : (mapping cs).IntegersIn S)
    (hvalues : ∀ x ∈ as.values, ∀ y ∈ bs.values, ∀ z ∈ cs.values, TransitiveAt x y z)
    (he : e ∈ as.entries) (hab : ∃ v, bs.get? e.1 = some v ∧ (v == e.2) = true)
    (hbc : ∀ f ∈ bs.entries, ∃ v, cs.get? f.1 = some v ∧ (v == f.2) = true) :
    ∃ v, cs.get? e.1 = some v ∧ (v == e.2) = true := by
  obtain ⟨v, hv, hve⟩ := hab
  obtain ⟨f, hf, rfl⟩ := Option.map_eq_some_iff.1 hv
  have hmem : f ∈ bs.entries := List.mem_of_find?_eq_some hf
  have hagree : (f.1 == e.1) = true := by simpa using List.find?_some hf
  obtain ⟨w, hw, hwf⟩ := hbc f hmem
  have hsame : cs.get? f.1 = cs.get? e.1 := by
    refine Mapping.get?_congr fun key hkey => ?_
    exact Key.beq_congr hS (hc.keys key hkey) (hb.keys _ (List.mem_map_of_mem hmem))
      (ha.keys _ (List.mem_map_of_mem he)) hagree
  refine ⟨w, hsame ▸ hw, ?_⟩
  exact (hvalues e.2 (List.mem_map_of_mem he) f.2 (List.mem_map_of_mem hmem) w
    (Mapping.mem_values_of_get? hw)).2 hwf hve

theorem SameValue.trans (hS : Separates S) (ha : a.IntegersIn S) (hb : b.IntegersIn S)
    (hc : c.IntegersIn S)
    (hchildren : ∀ x ∈ a.children, ∀ y ∈ b.children, ∀ z ∈ c.children, TransitiveAt x y z)
    (hab : SameValue a b) (hbc : SameValue b c) : SameValue a c := by
  cases hab with
  | float hxy =>
    cases hbc with
    | float hyz => exact .float (Double.beq_trans hxy hyz)
  | array hab =>
    cases hbc with
    | array hbc =>
      refine .array (forall₂_trans_of_mem (fun x hx y hy z hz => ?_) hab hbc)
      exact (hchildren x hx y hy z hz).1
  | mapping hsize hfound =>
    cases hbc with
    | mapping hsize' hfound' =>
      refine .mapping (hsize.trans hsize') fun e he => ?_
      exact exists_get?_trans hS ha hb hc hchildren he (hfound e he) hfound'
  | _ => exact hbc

/-- **Where rounding keeps the integers apart, strict equality is transitive.**  A lookup in a
mapping changes sides, so either direction of the induction needs the other one a level below. -/
theorem transitiveAt (hS : Separates S) (ha : a.IntegersIn S) (hb : b.IntegersIn S)
    (hc : c.IntegersIn S) : TransitiveAt a b c := by
  induction a using children_induction generalizing b c with
  | step a ih =>
    have hchildren : ∀ x ∈ a.children, ∀ y ∈ b.children, ∀ z ∈ c.children, TransitiveAt x y z :=
      fun x hx y hy z hz => ih x hx (ha.child hx) (hb.child hy) (hc.child hz)
    unfold TransitiveAt
    simp only [beq_iff_sameValue]
    constructor
    · exact SameValue.trans hS ha hb hc hchildren
    · exact SameValue.trans hS hc hb ha fun z hz y hy x hx => (hchildren x hx y hy z hz).symm

end Value

end RecordQuery

import Mathlib.Data.List.Forall2
import Mathlib.Data.List.Perm.Subperm
import RecordQuery.Path.Resolve
import RecordQuery.Proofs.Records.Inserting

/-!
# Equality of mappings

Two mappings are compared by their sizes and by lookups from one side only.  As no key comes twice
on either side, this is enough: the keys found are as many as there are, so none is left over.

* `Value.children_induction` — induction over the levels of a value;
* `equals_eq_flipped` — **the two readings of strict equality are one**, so `beq_mapping` says
  directly what equality of mappings is;
* `Mapping.Rearranges` — entries in another order, up to equality of keys and values;
* `beq_mapping_unordered` — **equality of mappings ignores the order and nothing else**.
-/

namespace RecordQuery

namespace Value

/-! ## Level by level -/

mutual

/-- What holds of a value whenever it holds one level down holds of all values. -/
@[elab_as_elim]
theorem children_induction {motive : Value → Prop}
    (step : ∀ v, (∀ w ∈ v.children, motive w) → motive v) : ∀ v, motive v
  | .null => step _ nofun
  | .boolean _ => step _ nofun
  | .integer _ => step _ nofun
  | .float _ => step _ nofun
  | .text _ => step _ nofun
  | .array items => step _ (items_induction step items)
  | .mapping ⟨entries⟩ => step _ fun w hw => by
    obtain ⟨e, he, rfl⟩ := List.mem_map.1 hw
    exact entries_induction step entries e he

theorem items_induction {motive : Value → Prop}
    (step : ∀ v, (∀ w ∈ v.children, motive w) → motive v) :
    ∀ items : List Value, ∀ w ∈ items, motive w
  | [] => nofun
  | item :: rest =>
    List.forall_mem_cons.2 ⟨children_induction step item, items_induction step rest⟩

theorem entries_induction {motive : Value → Prop}
    (step : ∀ v, (∀ w ∈ v.children, motive w) → motive v) :
    ∀ entries : List (Key × Value), ∀ e ∈ entries, motive e.2
  | [] => nofun
  | (_, v) :: rest =>
    List.forall_mem_cons.2 ⟨children_induction step v, entries_induction step rest⟩

end

/-! ## Both readings of equality -/

theorem equalsEntries_eq_all (as : List (Key × Value)) (bs : Mapping Value) :
    equalsEntries as bs = as.all fun e => (bs.get? e.1).any (equalsFlipped e.2) := by
  induction as with
  | nil => simp [equalsEntries]
  | cons e rest ih =>
    rw [equalsEntries, ih, List.all_cons]
    cases bs.get? e.1 <;> rfl

theorem equalsFound_eq_any (as : List (Key × Value)) (k : Key) (b : Value) :
    equalsFound as k b = ((Mapping.mk as).get? k).any fun a => equals a b := by
  induction as with
  | nil => simp [equalsFound, Mapping.get?]
  | cons e rest ih =>
    rw [equalsFound, Mapping.get?_cons, ih]
    split <;> rfl

theorem equalsList_eq_flipped {as : List Value}
    (h : ∀ a ∈ as, ∀ b, a.equals b = b.equalsFlipped a ∧ a.equalsFlipped b = b.equals a)
    (bs : List Value) :
    equalsList as bs = equalsListFlipped bs as ∧ equalsListFlipped as bs = equalsList bs as := by
  induction as generalizing bs with
  | nil => cases bs <;> simp [equalsList, equalsListFlipped]
  | cons a as ih =>
    obtain ⟨hfirst, hrest⟩ := List.forall_mem_cons.1 h
    cases bs with
    | nil => simp [equalsList, equalsListFlipped]
    | cons b bs =>
      obtain ⟨hab, hba⟩ := hfirst b
      obtain ⟨hlist, hflipped⟩ := ih hrest bs
      simp only [equalsList, equalsListFlipped, hab, hba, hlist, hflipped, and_self]

theorem equals_mapping_eq_flipped {as : Mapping Value}
    (h : ∀ a ∈ as.values, ∀ b, a.equals b = b.equalsFlipped a ∧ a.equalsFlipped b = b.equals a)
    (bs : Mapping Value) :
    (mapping as).equals (mapping bs) = (mapping bs).equalsFlipped (mapping as) ∧
      (mapping as).equalsFlipped (mapping bs) = (mapping bs).equals (mapping as) := by
  obtain ⟨as⟩ := as
  obtain ⟨bs⟩ := bs
  simp only [equals, equalsFlipped, equalsEntries_eq_all, equalsFound_eq_any, Mapping.size]
  constructor
  · congr 1
    rw [Bool.eq_iff_iff, List.all_eq_true, List.all_eq_true]
    refine forall₂_congr fun e he => ?_
    have hvalue : e.2.equalsFlipped = fun b => b.equals e.2 :=
      funext fun b => (h e.2 (List.mem_map_of_mem he) b).2
    rw [hvalue]
  · congr 1
    refine List.all_congr rfl fun e => ?_
    cases hfound : (Mapping.mk as).get? e.1 with
    | none => rfl
    | some a => exact (h a (Mapping.mem_values_of_get? hfound) e.2).1

/-- **The two readings of strict equality are one**, with the sides exchanged. -/
theorem equals_eq_flipped (a b : Value) :
    a.equals b = b.equalsFlipped a ∧ a.equalsFlipped b = b.equals a := by
  induction a using children_induction generalizing b with
  | step a ih =>
    cases a <;> cases b
    case array.array as bs =>
      simp only [equals, equalsFlipped]
      exact equalsList_eq_flipped ih bs
    case mapping.mapping as bs => exact equals_mapping_eq_flipped ih bs
    all_goals simp only [equals, equalsFlipped, and_self]

/-- **What equality of mappings is**: they are of one size, and every value of the first is equal to
the one that is found under its key in the second. -/
theorem beq_mapping (a b : Mapping Value) :
    (mapping a == mapping b) =
      (a.size == b.size && a.entries.all fun e => (b.get? e.1).any fun v => v == e.2) := by
  show (mapping a).equals (mapping b) = _
  rw [(equals_eq_flipped _ _).1]
  obtain ⟨as⟩ := a
  obtain ⟨bs⟩ := b
  simp only [equalsFlipped, equalsFound_eq_any]
  rfl

/-- What strict equality compares, kind by kind. -/
inductive SameValue : Value → Value → Prop
  | null : SameValue null null
  | boolean (b : Bool) : SameValue (boolean b) (boolean b)
  | integer (n : ℤ) : SameValue (integer n) (integer n)
  | float {x y : Double} (hxy : (x == y) = true) : SameValue (float x) (float y)
  | text (s : String) : SameValue (text s) (text s)
  | array {as bs : List Value} (hitems : List.Forall₂ (fun a b => (a == b) = true) as bs) :
      SameValue (array as) (array bs)
  | mapping {as bs : Mapping Value} (hsize : as.size = bs.size)
      (hfound : ∀ e ∈ as.entries, ∃ v, bs.get? e.1 = some v ∧ (v == e.2) = true) :
      SameValue (mapping as) (mapping bs)

theorem equalsList_eq_true_iff {as bs : List Value} :
    equalsList as bs = true ↔ List.Forall₂ (fun a b => (a == b) = true) as bs := by
  induction as generalizing bs with
  | nil => cases bs <;> simp [equalsList]
  | cons a as ih =>
    cases bs with
    | nil => simp [equalsList]
    | cons b bs =>
      rw [equalsList, Bool.and_eq_true, ih, List.forall₂_cons]
      rfl

theorem beq_mapping_iff {as bs : Mapping Value} : (mapping as == mapping bs) = true ↔
    as.size = bs.size ∧ ∀ e ∈ as.entries, ∃ v, bs.get? e.1 = some v ∧ (v == e.2) = true := by
  rw [beq_mapping, Bool.and_eq_true, beq_iff_eq, List.all_eq_true]
  simp only [Option.any_eq_true]

/-- **Strict equality compares values of one kind**; values of different kinds are never equal. -/
theorem beq_iff_sameValue {a b : Value} : (a == b) = true ↔ SameValue a b := by
  constructor
  · intro h
    cases a <;> cases b
    case mapping.mapping as bs => exact .mapping (beq_mapping_iff.1 h).1 (beq_mapping_iff.1 h).2
    all_goals
      change equals _ _ = true at h
      simp only [equals, Bool.false_eq_true, beq_iff_eq] at h
    case null.null => exact .null
    case boolean.boolean a b => exact h ▸ .boolean a
    case integer.integer m n => exact h ▸ .integer m
    case float.float x y => exact .float h
    case text.text s t => exact h ▸ .text s
    case array.array as bs => exact .array (equalsList_eq_true_iff.1 h)
  · intro h
    cases h with
    | mapping hsize hfound => exact beq_mapping_iff.2 ⟨hsize, hfound⟩
    | array hitems =>
      show equals _ _ = true
      rw [equals]
      exact equalsList_eq_true_iff.2 hitems
    | float hxy =>
      show equals _ _ = true
      rw [equals]
      exact hxy
    | _ =>
      show equals _ _ = true
      simp [equals]

end Value

namespace Mapping

variable {a b c d : Mapping Value} {pairs pairs' : List (Key × Value)} {k : Key}

/-- The entries of the second mapping are those of the first in another order, up to equality of
keys and values. -/
def Rearranges (a b : Mapping Value) : Prop :=
  ∃ entries, entries.Perm a.entries ∧
    List.Forall₂ (fun e f => (f.1 == e.1) = true ∧ (f.2 == e.2) = true) entries b.entries

/-- All keys are texts or integers, and none of them comes twice. -/
structure ExactMap {α : Type} (m : Mapping α) : Prop where
  exact : ExactKeys m.entries
  nodup : m.keys.Nodup

theorem exactMap_ofList {α : Type} {pairs : List (Key × α)} (h : ExactKeys pairs) :
    (ofList pairs).ExactMap :=
  ⟨exactKeys_ofList h, nodup_keys_ofList h⟩

namespace ExactMap

/-! ## Lookups -/

theorem distinct {α : Type} {m : Mapping α} (h : m.ExactMap) : Key.Distinct m.keys := by
  have hkeys : ∀ k ∈ m.keys, k.IsExact := exactKeys_iff.1 h.exact
  refine h.nodup.imp_of_mem fun {k k'} hk hk' hne => ?_
  rw [Bool.eq_false_iff]
  exact fun hagree => hne ((Key.beq_iff_eq (hkeys k hk) (hkeys k' hk')).1 hagree)

theorem get?_of_mem_entries {α : Type} {m : Mapping α} {e : Key × α} (h : m.ExactMap)
    (he : e ∈ m.entries) : m.get? e.1 = some e.2 := by
  have hexact : e.1.IsExact := h.exact e he
  exact get?_of_mem h.distinct ((Key.beq_iff_eq hexact hexact).2 rfl) he

/-- Lookups find the entries and nothing else. -/
theorem get?_eq_some_iff {α : Type} {m : Mapping α} {v : α} (h : m.ExactMap) (hk : k.IsExact) :
    m.get? k = some v ↔ (k, v) ∈ m.entries := by
  constructor
  · intro hfound
    obtain ⟨e, he, rfl⟩ := Option.map_eq_some_iff.1 hfound
    have hmem := List.mem_of_find?_eq_some he
    have hagree : (e.1 == k) = true := by simpa using List.find?_some he
    rwa [← (Key.beq_iff_eq (h.exact e hmem) hk).1 hagree]
  · exact fun hmem => h.get?_of_mem_entries hmem

theorem of_perm {α : Type} {m m' : Mapping α} (h : m.ExactMap) (hperm : m'.entries.Perm m.entries) :
    m'.ExactMap := by
  constructor
  · exact fun e he => h.exact e (hperm.mem_iff.1 he)
  · exact (hperm.map Prod.fst).nodup_iff.2 h.nodup

/-- Inserts that come in another order make the same entries in another order. -/
theorem perm_ofList {α : Type} {m : Mapping α} {entries : List (Key × α)} (h : m.ExactMap)
    (hperm : entries.Perm m.entries) : (ofList entries).entries.Perm m.entries := by
  have hdistinct : Key.Distinct (Mapping.mk entries).keys := (h.of_perm hperm).distinct
  rw [ofList_eq_mk hdistinct]
  exact hperm

/-! ## Equality and order -/

/-- Equality looks each entry of the first mapping up in the second one. -/
theorem beq_iff (ha : a.ExactMap) (hb : b.ExactMap) :
    (Value.mapping a == Value.mapping b) = true ↔
      a.size = b.size ∧ ∀ e ∈ a.entries, ∃ v, (e.1, v) ∈ b.entries ∧ (v == e.2) = true := by
  rw [Value.beq_mapping, Bool.and_eq_true, List.all_eq_true, beq_iff_eq]
  refine and_congr_right fun _ => forall₂_congr fun e he => ?_
  rw [Option.any_eq_true]
  refine exists_congr fun v => ?_
  rw [hb.get?_eq_some_iff (ha.exact e he)]

/-- The entry of the second mapping that belongs to one of the first. -/
def partner (b : Mapping Value) (e : Key × Value) : Key × Value := (e.1, (b.get? e.1).getD e.2)

theorem exists_of_forall₂ {α β : Type} {R : α → β → Prop} {xs : List α} {ys : List β}
    (h : List.Forall₂ R xs ys) {x : α} (hx : x ∈ xs) : ∃ y ∈ ys, R x y := by
  induction h with
  | nil => cases hx
  | @cons x' y xs ys hxy _ ih =>
    rcases List.mem_cons.1 hx with rfl | hx
    · exact ⟨y, List.mem_cons_self, hxy⟩
    · obtain ⟨y', hy', hR⟩ := ih hx
      exact ⟨y', List.mem_cons_of_mem _ hy', hR⟩

/-- **The entries that are found are all there are**: their keys are distinct, and they are as many
as the entries of the second mapping. -/
theorem perm_map_partner (ha : a.ExactMap) (hsize : a.size = b.size)
    (hfound : ∀ e ∈ a.entries, partner b e ∈ b.entries) :
    (a.entries.map (partner b)).Perm b.entries := by
  have hkeys : (a.entries.map (partner b)).map Prod.fst = a.keys := by
    rw [List.map_map]
    rfl
  have hnodup : (a.entries.map (partner b)).Nodup := by
    refine List.Nodup.of_map Prod.fst ?_
    rw [hkeys]
    exact ha.nodup
  have hsubset : a.entries.map (partner b) ⊆ b.entries := by
    intro f hf
    obtain ⟨e, he, rfl⟩ := List.mem_map.1 hf
    exact hfound e he
  refine (hnodup.subperm hsubset).perm_of_length_le ?_
  rw [List.length_map]
  exact Nat.le_of_eq hsize.symm

/-- **Equality is equality up to the order of entries.** -/
theorem beq_iff_rearranges (ha : a.ExactMap) (hb : b.ExactMap) :
    (Value.mapping a == Value.mapping b) = true ↔ a.Rearranges b := by
  have hself : ∀ e ∈ a.entries, (e.1 == e.1) = true := fun e he =>
    (Key.beq_iff_eq (ha.exact e he) (ha.exact e he)).2 rfl
  rw [beq_iff ha hb]
  constructor
  · rintro ⟨hsize, hall⟩
    have hpartner : ∀ e ∈ a.entries,
        partner b e ∈ b.entries ∧ ((partner b e).2 == e.2) = true := by
      intro e he
      obtain ⟨v, hmem, hequal⟩ := hall e he
      have hv : partner b e = (e.1, v) := by simp [partner, hb.get?_of_mem_entries hmem]
      rw [hv]
      exact ⟨hmem, hequal⟩
    have hperm := perm_map_partner ha hsize fun e he => (hpartner e he).1
    have hpairs : List.Forall₂ (fun e f => (f.1 == e.1) = true ∧ (f.2 == e.2) = true) a.entries
        (a.entries.map (partner b)) := by
      rw [List.forall₂_map_right_iff, List.forall₂_same]
      exact fun e he => ⟨hself e he, (hpartner e he).2⟩
    obtain ⟨entries, hforall, hentries⟩ := List.perm_comp_forall₂ hperm.symm hpairs.flip
    exact ⟨entries, hentries, hforall.flip⟩
  · rintro ⟨entries, hperm, hforall⟩
    refine ⟨hperm.length_eq.symm.trans hforall.length_eq, fun e he => ?_⟩
    obtain ⟨f, hf, hkey, hequal⟩ := exists_of_forall₂ hforall (hperm.mem_iff.2 he)
    have heq : f.1 = e.1 := (Key.beq_iff_eq (hb.exact f hf) (ha.exact e he)).1 hkey
    exact ⟨f.2, heq ▸ hf, hequal⟩

theorem beq_of_perm (ha : a.ExactMap) (hb : b.ExactMap) (hc : c.entries.Perm a.entries)
    (hd : d.entries.Perm b.entries) :
    (Value.mapping c == Value.mapping d) = (Value.mapping a == Value.mapping b) := by
  have hsizes : c.size = d.size ↔ a.size = b.size := by
    show c.entries.length = d.entries.length ↔ a.entries.length = b.entries.length
    rw [hc.length_eq, hd.length_eq]
  rw [Bool.eq_iff_iff, beq_iff (ha.of_perm hc) (hb.of_perm hd), beq_iff ha hb, hsizes]
  simp only [hc.mem_iff, hd.mem_iff]

/-- Equality of mappings is symmetric where equality of their values is. -/
theorem beq_symm (ha : a.ExactMap) (hb : b.ExactMap)
    (h : ∀ v ∈ a.values, ∀ w ∈ b.values, (v == w) = (w == v))
    (hequal : (Value.mapping a == Value.mapping b) = true) :
    (Value.mapping b == Value.mapping a) = true := by
  obtain ⟨hsize, _⟩ := (beq_iff ha hb).1 hequal
  obtain ⟨entries, hperm, hforall⟩ := (beq_iff_rearranges ha hb).1 hequal
  refine (beq_iff hb ha).2 ⟨hsize.symm, fun f hf => ?_⟩
  obtain ⟨e, he, hkey, hvalue⟩ := exists_of_forall₂ hforall.flip hf
  have hmem : e ∈ a.entries := hperm.mem_iff.1 he
  have heq : f.1 = e.1 := (Key.beq_iff_eq (hb.exact f hf) (ha.exact e hmem)).1 hkey
  refine ⟨e.2, heq ▸ hmem, ?_⟩
  rw [h e.2 (List.mem_map_of_mem hmem) f.2 (List.mem_map_of_mem hf)]
  exact hvalue

/-- Mappings that are equal have the same keys. -/
theorem mem_keys_iff_of_beq (ha : a.ExactMap) (hb : b.ExactMap)
    (h : (Value.mapping a == Value.mapping b) = true) : k ∈ a.keys ↔ k ∈ b.keys := by
  obtain ⟨entries, hperm, hforall⟩ := (beq_iff_rearranges ha hb).1 h
  have hkeys : ∀ e ∈ a.entries, ∀ f ∈ b.entries, (f.1 == e.1) = true → f.1 = e.1 :=
    fun e he f hf => (Key.beq_iff_eq (hb.exact f hf) (ha.exact e he)).1
  constructor
  · intro hk
    obtain ⟨e, he, rfl⟩ := List.mem_map.1 hk
    obtain ⟨f, hf, hkey, _⟩ := exists_of_forall₂ hforall (hperm.mem_iff.2 he)
    rw [← hkeys e he f hf hkey]
    exact List.mem_map_of_mem hf
  · intro hk
    obtain ⟨f, hf, rfl⟩ := List.mem_map.1 hk
    obtain ⟨e, he, hkey, _⟩ := exists_of_forall₂ hforall.flip hf
    rw [hkeys e (hperm.mem_iff.1 he) f hf hkey]
    exact List.mem_map_of_mem (hperm.mem_iff.1 he)

end ExactMap

/-- **Equality of mappings ignores the order and nothing else**, for mappings that are made by
inserts under texts and integers.  They are equal just if one is a rearrangement of the other; so
the order of the inserts makes no difference, the sides may be exchanged if those of the values may,
and there are the same keys on both sides. -/
theorem beq_mapping_unordered (h : ExactKeys pairs) (h' : ExactKeys pairs') :
    let a := ofList pairs
    let b := ofList pairs'
    ((Value.mapping a == Value.mapping b) = true ↔ a.Rearranges b) ∧
    (∀ entries entries', entries.Perm a.entries → entries'.Perm b.entries →
      (Value.mapping (ofList entries) == Value.mapping (ofList entries')) =
        (Value.mapping a == Value.mapping b)) ∧
    ((∀ v ∈ a.values, ∀ w ∈ b.values, (v == w) = (w == v)) →
      (Value.mapping a == Value.mapping b) = (Value.mapping b == Value.mapping a)) ∧
    ((∃ k, ¬ (k ∈ a.keys ↔ k ∈ b.keys)) → (Value.mapping a == Value.mapping b) = false) := by
  intro a b
  have ha : a.ExactMap := exactMap_ofList h
  have hb : b.ExactMap := exactMap_ofList h'
  refine ⟨ha.beq_iff_rearranges hb, fun entries entries' hperm hperm' => ?_, fun hsides => ?_, ?_⟩
  · exact ha.beq_of_perm hb (ha.perm_ofList hperm) (hb.perm_ofList hperm')
  · rw [Bool.eq_iff_iff]
    constructor
    · exact ha.beq_symm hb hsides
    · exact hb.beq_symm ha fun w hw v hv => (hsides v hv w hw).symm
  · rintro ⟨k, hk⟩
    rw [Bool.eq_false_iff]
    exact fun hequal => hk (ha.mem_keys_iff_of_beq hb hequal)

/-- Two entries in either order, one of them with a mapping inside. -/
theorem beq_mapping_unordered_pair :
    let inner := Value.ofPairs [(.float .one, .text "x")]
    let pairs := [(Key.text "a", inner), (.integer 1, .null)]
    let pairs' := [(Key.integer 1, Value.null), (.text "a", inner)]
    ExactKeys pairs ∧ ExactKeys pairs' ∧
      (Value.mapping (ofList pairs) == Value.mapping (ofList pairs')) = true := by
  intro inner pairs pairs'
  have hexact : ExactKeys pairs := by simp [pairs, ExactKeys, Key.IsExact]
  have hexact' : ExactKeys pairs' := by simp [pairs', ExactKeys, Key.IsExact]
  have hnull : (Value.null == Value.null) = true := by decide +kernel
  have hinner : (inner == inner) = true := by decide +kernel
  refine ⟨hexact, hexact', (beq_mapping_unordered hexact hexact').1.2 ⟨pairs', .swap _ _ _, ?_⟩⟩
  exact .cons ⟨rfl, hnull⟩ (.cons ⟨rfl, hinner⟩ .nil)

end Mapping

end RecordQuery

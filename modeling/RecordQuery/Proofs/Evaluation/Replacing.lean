import RecordQuery.Proofs.Evaluation.ByValue

/-!
# Numbers of another kind inside of a value

A number may be an integer, a double or a boolean, and `==` compares all of them by value.  It looks
into sequences in the same way, but mappings are compared strictly, and with them everything that is
in them.  So the place of a number decides whether its kind matters.

* `Frame`, `Place` — where a number stands: the sequences and mappings around it;
* `SameNumber` — two values stand for one number;
* `indistinct_fill` — **inside of sequences only the number matters**;
* `looselyEquals_fill_eq_false` — **inside of a mapping the kind matters too**;
* `kind_matters_in_mappings` — both together.
-/

namespace RecordQuery

namespace Value

/-! ## Places -/

/-- A value with a gap: one item of a sequence, or the value of one entry of a mapping. -/
inductive Frame
  | item (before after : List Value)
  | field (before : List (Key × Value)) (k : Key) (after : List (Key × Value))

/-- Fills the gap. -/
def Frame.fill : Frame → Value → Value
  | item before after, v => array (before ++ v :: after)
  | field before k after, v => mapping ⟨before ++ (k, v) :: after⟩

/-- Whether the gap is in a mapping. -/
def Frame.isField : Frame → Bool
  | item _ _ => false
  | field _ _ _ => true

/-- A place inside of a value: the frames around it from the outermost on. -/
abbrev Place := List Frame

/-- Puts a value at a place. -/
def Place.fill (place : Place) (v : Value) : Value := place.foldr Frame.fill v

variable {S : Set ℤ} {v w b : Value} {place : Place} {frame : Frame}

@[simp] theorem Place.fill_cons (frame : Frame) (place : Place) (v : Value) :
    Place.fill (frame :: place) v = frame.fill (place.fill v) := rfl

/-- The values stand for one number, whatever their kinds. -/
def SameNumber (v w : Value) : Prop :=
  ∃ x y, v.number? = some x ∧ w.number? = some y ∧ (x == y) = true

theorem SameNumber.symm (h : SameNumber v w) : SameNumber w v := by
  obtain ⟨x, y, hx, hy, hxy⟩ := h
  refine ⟨y, x, hy, hx, ?_⟩
  rwa [Double.beq_comm]

/-- The integers that are not mistaken for the value: if it is an integer, those that become another
double, and itself. -/
def apartFrom (v : Value) : Set ℤ :=
  {m | ∀ n, v = integer n → (Double.ofInt m == Double.ofInt n) = true → m = n}

/-! ## Sequences around a number -/

theorem forall₂_replace {α β : Type} {R : α → β → Prop} {x y : α} {before after : List α}
    {zs : List β} (h : ∀ z ∈ zs, R x z ↔ R y z) :
    List.Forall₂ R (before ++ x :: after) zs ↔ List.Forall₂ R (before ++ y :: after) zs := by
  induction before generalizing zs with
  | nil =>
    cases zs with
    | nil => simp
    | cons z zs =>
      rw [List.nil_append, List.nil_append, List.forall₂_cons, List.forall₂_cons,
        h z List.mem_cons_self]
  | cons first before ih =>
    cases zs with
    | nil => simp
    | cons z zs =>
      rw [List.cons_append, List.cons_append, List.forall₂_cons, List.forall₂_cons,
        ih fun z' hz' => h z' (List.mem_cons_of_mem _ hz')]

theorem looselyEquals_array_iff {xs : List Value} : (array xs).looselyEquals b = true ↔
    ∃ bs, b = array bs ∧ List.Forall₂ (fun x y => x.looselyEquals y = true) xs bs := by
  have happart : Apart (array xs) b := fun _ _ hxs => nomatch hxs
  rw [looselyEquals_iff happart]
  constructor
  · intro h
    cases h with
    | number hx => cases hx
    | array hitems => exact ⟨_, rfl, hitems⟩
    | other _ hnot hab =>
      obtain ⟨bs, rfl⟩ := (beq_iff_sameValue.1 hab).array_iff.1 ⟨xs, rfl⟩
      exact absurd ⟨rfl, rfl⟩ (hnot xs bs)
  · rintro ⟨bs, rfl, hitems⟩
    exact .array hitems

theorem looselyEquals_array_right_iff {xs : List Value} : b.looselyEquals (array xs) = true ↔
    ∃ bs, b = array bs ∧ List.Forall₂ (fun x y => y.looselyEquals x = true) xs bs := by
  have happart : Apart b (array xs) := fun _ _ _ hxs => nomatch hxs
  rw [looselyEquals_iff happart]
  constructor
  · intro h
    cases h with
    | number _ hx => cases hx
    | array hitems => exact ⟨_, rfl, hitems.flip⟩
    | other _ hnot hab =>
      obtain ⟨bs, rfl⟩ := (beq_iff_sameValue.1 hab).array_iff.2 ⟨xs, rfl⟩
      exact absurd ⟨rfl, rfl⟩ (hnot bs xs)
  · rintro ⟨bs, rfl, hitems⟩
    exact .array hitems.flip

theorem SameNumber.looselySame (h : SameNumber v w) (hb : LooselySame v b) : LooselySame w b := by
  obtain ⟨x, y, hx, hy, hxy⟩ := h.symm
  cases hb with
  | number hv hb hvb =>
    cases hv.symm.trans hy
    exact .number hx hb (Double.beq_trans hxy hvb)
  | array _ => cases hy
  | other hnone _ _ => cases hnone.symm.trans hy

theorem SameNumber.looselySame_right (h : SameNumber v w) (hb : LooselySame b v) :
    LooselySame b w := by
  obtain ⟨x, y, hx, hy, hxy⟩ := h
  cases hb with
  | number hb hv hbv =>
    cases hv.symm.trans hx
    exact .number hb hy (Double.beq_trans hbv hxy)
  | array _ => cases hx
  | other hnone _ hbv =>
    rw [(beq_iff_sameValue.1 hbv).number?_eq_none_iff] at hnone
    cases hnone.symm.trans hx

theorem IntegersIn.apart_apartFrom (h : b.IntegersIn v.apartFrom) : Apart v b ∧ Apart b v := by
  have happart : Apart b v := by
    rintro m n rfl hv hmn
    cases h with
    | integer hm => exact hm n hv hmn
  refine ⟨fun n m hv hb hnm => ?_, happart⟩
  rw [Double.beq_comm] at hnm
  exact (happart m n hb hv hnm).symm

/-- Both values are equal to the same values, on either side. -/
def Indistinct (v w b : Value) : Prop :=
  (v.looselyEquals b = true ↔ w.looselyEquals b = true) ∧
    (b.looselyEquals v = true ↔ b.looselyEquals w = true)

theorem SameNumber.indistinct (h : SameNumber v w) (hv : b.IntegersIn v.apartFrom)
    (hw : b.IntegersIn w.apartFrom) : Indistinct v w b := by
  unfold Indistinct
  rw [looselyEquals_iff hv.apart_apartFrom.1, looselyEquals_iff hv.apart_apartFrom.2,
    looselyEquals_iff hw.apart_apartFrom.1, looselyEquals_iff hw.apart_apartFrom.2]
  exact ⟨⟨h.looselySame, h.symm.looselySame⟩, ⟨h.looselySame_right, h.symm.looselySame_right⟩⟩

/-- One sequence more around two values makes no difference. -/
theorem indistinct_item {before after : List Value}
    (h : ∀ b' ∈ b.children, Indistinct v w b') :
    Indistinct ((Frame.item before after).fill v) ((Frame.item before after).fill w) b := by
  simp only [Indistinct, Frame.fill, looselyEquals_array_iff, looselyEquals_array_right_iff]
  constructor
  · refine exists_congr fun bs => and_congr_right fun hb => ?_
    subst hb
    exact forall₂_replace fun b' hb' => (h b' hb').1
  · refine exists_congr fun bs => and_congr_right fun hb => ?_
    subst hb
    exact forall₂_replace fun b' hb' => (h b' hb').2

/-- **Inside of sequences only the number matters**: a value of another kind that stands for the
same number is equal to the same values. -/
theorem indistinct_fill (h : SameNumber v w) (hplace : ∀ frame ∈ place, frame.isField = false)
    (hv : b.IntegersIn v.apartFrom) (hw : b.IntegersIn w.apartFrom) :
    Indistinct (place.fill v) (place.fill w) b := by
  induction place generalizing b with
  | nil => exact h.indistinct hv hw
  | cons frame place ih =>
    obtain ⟨hframe, hrest⟩ := List.forall_mem_cons.1 hplace
    cases frame with
    | item before after =>
      exact indistinct_item fun b' hb' => ih hrest (hv.child hb') (hw.child hb')
    | field before k after => cases hframe

/-! ## Mappings around a number -/

/-- The keys of the mapping that the gap is in. -/
def Frame.keys : Frame → List Key
  | item _ _ => []
  | field before k after => before.map Prod.fst ++ k :: after.map Prod.fst

theorem distinct_frames (h : (place.fill v).Throughout (fun _ => True) Key.Distinct) :
    ∀ frame ∈ place, Key.Distinct frame.keys := by
  induction place with
  | nil => exact nofun
  | cons frame place ih =>
    rw [Place.fill_cons] at h
    cases frame with
    | item before after =>
      cases h with
      | array hitems =>
        refine List.forall_mem_cons.2 ⟨.nil, ih (hitems _ ?_)⟩
        exact List.mem_append_right _ List.mem_cons_self
    | field before k after =>
      cases h with
      | mapping hkeys hvalues =>
        refine List.forall_mem_cons.2 ⟨?_, ih (hvalues _ ?_)⟩
        · rwa [Mapping.keys, List.map_append, List.map_cons] at hkeys
        · rw [Mapping.values, List.map_append, List.map_cons]
          exact List.mem_append_right _ List.mem_cons_self

theorem forall₂_middle {α : Type} {R : α → α → Prop} {x y : α} {before after after' : List α}
    (h : List.Forall₂ R (before ++ x :: after) (before ++ y :: after')) : R x y := by
  induction before with
  | nil => exact (List.forall₂_cons.1 h).1
  | cons _ before ih => exact ih (List.forall₂_cons.1 h).2

/-- What is found under the key of the gap is what fills it. -/
theorem get?_eq_some_of_distinct {before after : List (Key × Value)} {k : Key} {u : Value}
    (hdistinct : Key.Distinct (Frame.field before k after).keys)
    (h : (Mapping.mk (before ++ (k, v) :: after)).get? k = some u) : u = v := by
  obtain ⟨e, he, rfl⟩ := Option.map_eq_some_iff.1 h
  have hagree : (e.1 == k) = true := by simpa using List.find?_some he
  obtain ⟨_, hlater, hbefore⟩ := List.pairwise_append.1 hdistinct
  have hafter := (List.pairwise_cons.1 hlater).1
  rcases List.mem_append.1 (List.mem_of_find?_eq_some he) with hmem | hmem
  · rw [hbefore e.1 (List.mem_map_of_mem hmem) k List.mem_cons_self] at hagree
    cases hagree
  · rcases List.mem_cons.1 hmem with rfl | hmem
    · rfl
    · rw [Key.beq_comm, hafter e.1 (List.mem_map_of_mem hmem)] at hagree
      cases hagree

theorem SameValue.typeName_eq {a b : Value} (h : SameValue a b) : a.typeName = b.typeName := by
  cases h <;> rfl

/-- **Values of different kinds are not equal strictly**, whatever is around them.  A lookup in a
mapping changes sides, so the induction is over both orders of the two values. -/
theorem not_fill_beq_fill (hdistinct : ∀ frame ∈ place, Key.Distinct frame.keys)
    (hkind : v.typeName ≠ w.typeName) : ¬ (place.fill v == place.fill w) = true := by
  induction place generalizing v w with
  | nil => exact fun h => hkind (beq_iff_sameValue.1 h).typeName_eq
  | cons frame place ih =>
    obtain ⟨hframe, hrest⟩ := List.forall_mem_cons.1 hdistinct
    rw [Place.fill_cons, Place.fill_cons, beq_iff_sameValue]
    intro h
    cases frame with
    | item before after =>
      cases h with
      | array hitems =>
        exact ih hrest hkind (forall₂_middle (R := fun a b : Value => (a == b) = true) hitems)
    | field before k after =>
      cases h with
      | mapping _ hfound =>
        have hmem : (k, Place.fill place v) ∈ before ++ (k, Place.fill place v) :: after :=
          List.mem_append_right _ List.mem_cons_self
        obtain ⟨u, hu, hequal⟩ := hfound _ hmem
        rw [get?_eq_some_of_distinct hframe hu] at hequal
        exact ih hrest hkind.symm hequal

/-- **Inside of a mapping the kind matters too**: a value of another kind is not equal any more. -/
theorem looselyEquals_fill_eq_false (hdistinct : ∀ frame ∈ place, Key.Distinct frame.keys)
    (hkind : v.typeName ≠ w.typeName) (hplace : ∃ frame ∈ place, frame.isField = true) :
    (place.fill v).looselyEquals (place.fill w) = false := by
  rw [Bool.eq_false_iff]
  induction place with
  | nil => simp at hplace
  | cons frame place ih =>
    rw [Place.fill_cons, Place.fill_cons]
    intro h
    cases frame with
    | item before after =>
      rw [Frame.fill, Frame.fill, looselyEquals_array_iff] at h
      obtain ⟨_, hitems, h⟩ := h
      cases hitems
      refine ih (List.forall_mem_cons.1 hdistinct).2 ?_
        (forall₂_middle (R := fun a b : Value => a.looselyEquals b = true) h)
      simpa [Frame.isField] using hplace
    | field before k after =>
      have happart : Apart ((Frame.field before k after).fill (Place.fill place v))
          ((Frame.field before k after).fill (Place.fill place w)) := fun _ _ hv => nomatch hv
      rw [looselyEquals_iff happart] at h
      cases h with
      | number hv => cases hv
      | other _ _ hequal =>
        have hne := not_fill_beq_fill hdistinct hkind
        exact hne hequal

/-! ## Any place -/

theorem integersIn_of_forall (h : ∀ n, n ∈ S) (b : Value) : b.IntegersIn S := by
  have hkey : ∀ k : Key, k.IntegersIn S := by
    intro k
    cases k with
    | integer n => exact h n
    | _ => trivial
  induction b using children_induction with
  | step b ih =>
    cases b with
    | null => exact .null
    | boolean b => exact .boolean b
    | integer n => exact .integer (h n)
    | float x => exact .float x
    | text s => exact .text s
    | array items => exact .array ih
    | mapping fields => exact .mapping (fun k _ => hkey k) ih

/-- Below `2 ^ 53` no integer is mistaken for another one. -/
theorem integersIn_apartFrom (h : ∀ n, v = integer n → n.natAbs < 2 ^ 53) (b : Value) :
    b.IntegersIn v.apartFrom :=
  integersIn_of_forall (fun _ n hv hmn => Double.eq_of_beq_ofInt (h n hv) hmn) b

end Value

/-- **The kind of a number matters in mappings and nowhere else.**  Two values of different kinds
stand for one number.  If there are only sequences around it, each of them may be put in the place
of the other one, on either side of `==`, unless an integer is mistaken for another one, which never
happens below `2 ^ 53`.  If there is a mapping around it, that makes the whole unequal. -/
theorem kind_matters_in_mappings (token : Token) {v w : Value} (h : v.SameNumber w)
    (hkind : v.typeName ≠ w.typeName) (place : Value.Place) :
    ((∀ frame ∈ place, frame.isField = false) → ∀ b : Value,
      b.IntegersIn v.apartFrom → b.IntegersIn w.apartFrom →
        applyBinary token .equal (place.fill v) b = applyBinary token .equal (place.fill w) b ∧
        applyBinary token .equal b (place.fill v) = applyBinary token .equal b (place.fill w)) ∧
    ((∀ n, v = .integer n → n.natAbs < 2 ^ 53) → ∀ b : Value, b.IntegersIn v.apartFrom) ∧
    ((∃ frame ∈ place, frame.isField = true) → (place.fill v).Built →
      applyBinary token .equal (place.fill v) (place.fill w) = .ok false) := by
  refine ⟨fun hplace b hv hw => ?_, Value.integersIn_apartFrom, fun hplace hbuilt => ?_⟩
  · obtain ⟨hleft, hright⟩ := Value.indistinct_fill h hplace hv hw
    simp only [applyBinary]
    rw [Bool.eq_iff_iff.2 hleft, Bool.eq_iff_iff.2 hright]
    exact ⟨rfl, rfl⟩
  · simp only [applyBinary]
    rw [Value.looselyEquals_fill_eq_false (Value.distinct_frames hbuilt.distinct) hkind hplace]

/-- The integer one and the double one, inside of a sequence and inside of a mapping. -/
theorem kind_matters_in_mappings_one :
    let token : Token := ⟨"==", ⟨2, 2⟩, .binary, .text, false⟩
    let v := Value.integer 1
    let w := Value.float .one
    let sequence : Value.Place := [.item [] []]
    let field : Value.Place := [.field [] (.text "a") []]
    v.SameNumber w ∧ v.typeName ≠ w.typeName ∧ (field.fill v).Built ∧
      applyBinary token .equal (sequence.fill v) (sequence.fill w) =
        applyBinary token .equal (sequence.fill w) (sequence.fill w) ∧
      applyBinary token .equal (field.fill v) (field.fill w) = .ok false := by
  intro token v w sequence field
  have hnumber : v.SameNumber w := ⟨.ofInt 1, .one, rfl, rfl, by decide +kernel⟩
  have hkind : v.typeName ≠ w.typeName := by decide
  have hbuilt : (field.fill v).Built := .insert .empty (.text "a") (.integer 1)
  have hfield := (kind_matters_in_mappings token hnumber hkind field).2.2
    ⟨_, List.mem_cons_self, rfl⟩
  obtain ⟨hsequence, hsmall, _⟩ := kind_matters_in_mappings token hnumber hkind sequence
  refine ⟨hnumber, hkind, hbuilt, ?_, hfield hbuilt⟩
  refine (hsequence (by simp [sequence, Value.Frame.isField]) _ (hsmall ?_ _) ?_).1
  · intro n hn
    rw [← Value.integer.inj hn]
    decide
  · have hdouble : ∀ n, w ≠ .integer n := nofun
    exact Value.integersIn_apartFrom (fun n hn => absurd hn (hdouble n)) _

/-- A record equals itself, but not any more when the double one takes the place of the integer one
in it, although the two numbers are equal. -/
theorem not_equal_in_mapping :
    let record (v : Value) := Value.array [.ofPairs [(.text "a", v)]]
    (Value.integer 1).looselyEquals (.float .one) = true ∧
      (record (.integer 1)).looselyEquals (record (.integer 1)) = true ∧
      (record (.integer 1)).looselyEquals (record (.float .one)) = false := by
  decide +kernel

end RecordQuery

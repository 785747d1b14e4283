import RecordQuery.Proofs.Evaluation.ByValue

/-!
# Transitive comparisons

Two integers are compared exactly, but an integer meets a double only after it is rounded.  So two
integers that differ may both be equal to the double between them.  This is the one thing that
comparisons lose: they are transitive just where no two integers round to one double.

* `looselyEquals_trans` — **where rounding keeps the integers apart, equality is transitive**;
* `compareList?_then`, `compare?_then` — **and so is the order**;
* `looselyEquals_between`, `compare?_between`, `get?_insert_between` — the double between two
  integers;
* `transitive_iff_separates` — **where comparisons are transitive**.
-/

namespace RecordQuery

open Double (Separates)

variable {S : Set ℤ} {a b c : Value} {as bs cs : List Value}

namespace Value

/-! ## Equality -/

theorem LooselySame.trans
    (hchildren : ∀ x ∈ a.children, ∀ y ∈ b.children, ∀ z ∈ c.children,
      x.looselyEquals y = true → y.looselyEquals z = true → x.looselyEquals z = true)
    (hstrict : (a == b) = true → (b == c) = true → (a == c) = true) (hab : LooselySame a b)
    (hbc : LooselySame b c) : LooselySame a c := by
  cases hab with
  | number ha hb hxy =>
    cases hbc with
    | number hb' hc hyz =>
      cases hb.symm.trans hb'
      exact .number ha hc (Double.beq_trans hxy hyz)
    | array _ => cases hb
    | other hnone _ _ => cases hb.symm.trans hnone
  | array hab =>
    cases hbc with
    | number hb _ _ => cases hb
    | array hbc => exact .array (forall₂_trans_of_mem hchildren hab hbc)
    | other _ hnot hbc =>
      obtain ⟨cs, rfl⟩ := (beq_iff_sameValue.1 hbc).array_iff.1 ⟨_, rfl⟩
      exact absurd ⟨rfl, rfl⟩ (hnot _ cs)
  | other ha hnot hab =>
    have hsame := beq_iff_sameValue.1 hab
    cases hbc with
    | number hb _ _ => cases hb.symm.trans (hsame.number?_eq_none_iff.1 ha)
    | array _ =>
      obtain ⟨as, rfl⟩ := hsame.array_iff.2 ⟨_, rfl⟩
      exact absurd ⟨rfl, rfl⟩ (hnot as _)
    | other _ _ hbc =>
      refine .other ha ?_ (hstrict hab hbc)
      rintro as cs ⟨rfl, rfl⟩
      obtain ⟨bs, rfl⟩ := hsame.array_iff.1 ⟨as, rfl⟩
      exact hnot as bs ⟨rfl, rfl⟩

/-- **Where rounding keeps the integers apart, equality is transitive.** -/
theorem looselyEquals_trans (hS : Separates S) (ha : a.IntegersIn S) (hb : b.IntegersIn S)
    (hc : c.IntegersIn S) (hab : a.looselyEquals b = true) (hbc : b.looselyEquals c = true) :
    a.looselyEquals c = true := by
  induction a using children_induction generalizing b c with
  | step a ih =>
    rw [looselyEquals_iff (ha.apart hS hb)] at hab
    rw [looselyEquals_iff (hb.apart hS hc)] at hbc
    rw [looselyEquals_iff (ha.apart hS hc)]
    refine hab.trans (fun x hx y hy z hz => ?_) (transitiveAt hS ha hb hc).1 hbc
    exact ih x hx (ha.child hx) (hb.child hy) (hc.child hz)

/-! ## Order -/

theorem compareList?_cons_eq_some_iff {order : Ordering} :
    compareList? (a :: as) (b :: bs) = some order ↔ ∃ first, a.compare? b = some first ∧
      ((first = .eq ∧ compareList? as bs = some order) ∨ (first ≠ .eq ∧ order = first)) := by
  rw [compareList?]
  cases a.compare? b with
  | none => simp
  | some first => cases first <;> simp [eq_comm]

/-- Of two orders the first one that is no equality decides, and neither of them goes down. -/
def ThenAt (a b c : Value) : Prop :=
  ∀ order order', a.compare? b = some order → b.compare? c = some order' → order.isLE = true →
    order'.isLE = true → a.compare? c = some (order.then order')

theorem eq_lt_of_isLE {order : Ordering} (hle : order.isLE = true) (hne : order ≠ .eq) :
    order = .lt := by
  cases order
  · rfl
  · contradiction
  · cases hle

theorem compareList?_then {order order' : Ordering}
    (hitems : ∀ a ∈ as, ∀ b ∈ bs, ∀ c ∈ cs, ThenAt a b c) (hab : compareList? as bs = some order)
    (hbc : compareList? bs cs = some order') (hle : order.isLE = true) (hle' : order'.isLE = true) :
    compareList? as cs = some (order.then order') := by
  induction as generalizing bs cs order order' with
  | nil =>
    cases bs with
    | nil =>
      cases hab
      exact hbc
    | cons b bs =>
      cases hab
      cases cs with
      | nil =>
        cases hbc
        cases hle'
      | cons c cs => rfl
  | cons a as ih =>
    cases bs with
    | nil =>
      cases hab
      cases hle
    | cons b bs =>
      cases cs with
      | nil =>
        cases hbc
        cases hle'
      | cons c cs =>
        obtain ⟨first, hfirst, hrest⟩ := compareList?_cons_eq_some_iff.1 hab
        obtain ⟨first', hfirst', hrest'⟩ := compareList?_cons_eq_some_iff.1 hbc
        have hitem := hitems a List.mem_cons_self b List.mem_cons_self c List.mem_cons_self first
          first' hfirst hfirst'
        rw [compareList?_cons_eq_some_iff]
        rcases hrest with ⟨rfl, hrest⟩ | ⟨hne, rfl⟩
        · rcases hrest' with ⟨rfl, hrest'⟩ | ⟨hne', rfl⟩
          · refine ⟨.eq, hitem rfl rfl, .inl ⟨rfl, ih ?_ hrest hrest' hle hle'⟩⟩
            exact fun x hx y hy z hz => hitems x (List.mem_cons_of_mem _ hx) y
              (List.mem_cons_of_mem _ hy) z (List.mem_cons_of_mem _ hz)
          · obtain rfl := eq_lt_of_isLE hle' hne'
            refine ⟨.lt, hitem rfl rfl, .inr ⟨nofun, ?_⟩⟩
            cases order
            · rfl
            · rfl
            · cases hle
        · obtain rfl := eq_lt_of_isLE hle hne
          have hle'' : first'.isLE = true := by
            rcases hrest' with ⟨rfl, _⟩ | ⟨_, rfl⟩
            · rfl
            · exact hle'
          exact ⟨.lt, hitem rfl hle'', .inr ⟨nofun, rfl⟩⟩

/-- **Where rounding keeps the integers apart, the order is transitive**, and it says which of the
two steps made the difference. -/
theorem compare?_then (hS : Separates S) (ha : a.IntegersIn S) (hb : b.IntegersIn S)
    (hc : c.IntegersIn S) : ThenAt a b c := by
  induction a using children_induction generalizing b c with
  | step a ih =>
    intro order order' hab hbc hle hle'
    rw [compare?_iff (ha.apart hS hb)] at hab
    rw [compare?_iff (hb.apart hS hc)] at hbc
    rw [compare?_iff (ha.apart hS hc)]
    cases hab with
    | number hx hy hxy =>
      cases hbc with
      | number hy' hz hyz =>
        cases hy.symm.trans hy'
        exact .number hx hz (Double.compare?_then hxy hyz hle hle')
      | text _ _ => cases hy
      | array _ => cases hy
    | text s t =>
      cases hbc with
      | number hy _ _ => cases hy
      | text _ u =>
        rw [← compare_then hle hle']
        exact .text s u
    | array hab =>
      cases hbc with
      | number hy _ _ => cases hy
      | array hbc =>
        refine .array (compareList?_then (fun x hx y hy z hz => ?_) hab hbc hle hle')
        exact ih x hx (ha.child hx) (hb.child hy) (hc.child hz)

end Value

/-! ## Where comparisons are transitive -/

/-- Equality of values with these integers is transitive. -/
def EqualityTransitive (token : Token) (S : Set ℤ) : Prop :=
  ∀ a b c : Value, a.IntegersIn S → b.IntegersIn S → c.IntegersIn S →
    applyBinary token .equal a b = .ok true → applyBinary token .equal b c = .ok true →
      applyBinary token .equal a c = .ok true

/-- The order of values with these integers is transitive. -/
def OrderTransitive (token : Token) (S : Set ℤ) : Prop :=
  ∀ a b c : Value, a.IntegersIn S → b.IntegersIn S → c.IntegersIn S →
    applyBinary token .lessEqual a b = .ok true → applyBinary token .lessEqual b c = .ok true →
      applyBinary token .lessEqual a c = .ok true

/-- Equality of keys with these integers is transitive. -/
def KeysTransitive (S : Set ℤ) : Prop :=
  ∀ k k' k'' : Key, k.IntegersIn S → k'.IntegersIn S → k''.IntegersIn S →
    (k == k') = true → (k' == k'') = true → (k == k'') = true

/-- An insert into a mapping with these integers changes its own key only. -/
def InsertsApart (S : Set ℤ) : Prop :=
  ∀ (m : Mapping Value) (k k' : Key) (v : Value), (∀ key ∈ m.keys, key.IntegersIn S) →
    k.IntegersIn S → k'.IntegersIn S → (k == k') = false → (m.insert k v).get? k' = m.get? k'

variable {token : Token}

theorem applyBinary_equal_iff :
    applyBinary token .equal a b = .ok true ↔ a.looselyEquals b = true := by
  simp [applyBinary]

theorem applyBinary_lessEqual_iff : applyBinary token .lessEqual a b = .ok true ↔
    ∃ order, a.compare? b = some order ∧ order.isLE = true := by
  rw [applyBinary]
  cases a.compare? b with
  | none => simp
  | some order => cases order <;> simp [BinaryOp.holds]

theorem equalityTransitive_of_separates (hS : Separates S) : EqualityTransitive token S := by
  intro a b c ha hb hc hab hbc
  rw [applyBinary_equal_iff] at hab hbc ⊢
  exact Value.looselyEquals_trans hS ha hb hc hab hbc

theorem orderTransitive_of_separates (hS : Separates S) : OrderTransitive token S := by
  intro a b c ha hb hc hab hbc
  rw [applyBinary_lessEqual_iff] at hab hbc ⊢
  obtain ⟨order, hab, hle⟩ := hab
  obtain ⟨order', hbc, hle'⟩ := hbc
  refine ⟨_, Value.compare?_then hS ha hb hc order order' hab hbc hle hle', ?_⟩
  cases order <;> cases order' <;> first | rfl | assumption

theorem insertsApart_of_separates (hS : Separates S) : InsertsApart S := by
  intro m k k' v hm hk hk' hne
  refine Mapping.get?_insertEntry_of_beq_eq_false (fun key hkey hagree => ?_) hne
  rw [Bool.eq_false_iff]
  intro hother
  rw [Key.beq_comm] at hagree
  have hsame := Key.beq_trans hS hk (hm key hkey) hk' hagree hother
  rw [hne] at hsame
  cases hsame

/-! ### The double between two integers -/

section Between

variable {m n : ℤ}

/-- An integer equals the double that it becomes, and so do all integers that become this double. -/
theorem looselyEquals_between (h : (Double.ofInt m == Double.ofInt n) = true) :
    (Value.integer m).looselyEquals (.float (.ofInt m)) = true ∧
      (Value.float (.ofInt m)).looselyEquals (.integer n) = true := by
  have hself : (Double.ofInt m == Double.ofInt m) = true := Double.beq_ofInt_iff.2 rfl
  simp only [Value.looselyEquals]
  exact ⟨hself, h⟩

theorem compare?_between (h : (Double.ofInt m == Double.ofInt n) = true) :
    (Value.integer m).compare? (.float (.ofInt m)) = some .eq ∧
      (Value.float (.ofInt m)).compare? (.integer n) = some .eq := by
  have hself : (Double.ofInt m == Double.ofInt m) = true := Double.beq_ofInt_iff.2 rfl
  simp only [Value.compare?]
  exact ⟨beq_iff_eq.1 hself, beq_iff_eq.1 h⟩

theorem separates_of_equalityTransitive (hS : EqualityTransitive token S) : Separates S := by
  intro m hm n hn h
  obtain ⟨hab, hbc⟩ := looselyEquals_between h
  have hac := hS _ _ _ (.integer hm) (.float _) (.integer hn)
    (applyBinary_equal_iff.2 hab) (applyBinary_equal_iff.2 hbc)
  rw [applyBinary_equal_iff, Value.looselyEquals, beq_iff_eq] at hac
  exact hac

theorem separates_of_orderTransitive (hS : OrderTransitive token S) : Separates S := by
  have hle : ∀ m ∈ S, ∀ n ∈ S, (Double.ofInt m == Double.ofInt n) = true → m ≤ n := by
    intro m hm n hn h
    obtain ⟨hab, hbc⟩ := compare?_between h
    have hac := hS _ _ _ (.integer hm) (.float _) (.integer hn)
      (applyBinary_lessEqual_iff.2 ⟨_, hab, rfl⟩) (applyBinary_lessEqual_iff.2 ⟨_, hbc, rfl⟩)
    obtain ⟨order, horder, hisLE⟩ := applyBinary_lessEqual_iff.1 hac
    rw [Value.compare?] at horder
    cases horder
    rwa [Std.isLE_compare] at hisLE
  intro m hm n hn h
  refine le_antisymm (hle m hm n hn h) (hle n hn m hm ?_)
  rwa [Double.beq_comm]

theorem beq_between (h : (Double.ofInt m == Double.ofInt n) = true) :
    (Key.integer m == Key.float (.ofInt m)) = true ∧
      (Key.float (.ofInt m) == Key.integer n) = true := by
  refine ⟨Double.beq_ofInt_iff.2 rfl, ?_⟩
  rw [Key.beq_comm]
  show (Double.ofInt n == Double.ofInt m) = true
  rwa [Double.beq_comm]

theorem beq_integer_iff : (Key.integer m == Key.integer n) = true ↔ m = n := by
  have hexact : (Key.integer m == Key.integer n) = true ↔ Key.integer m = Key.integer n :=
    Key.beq_iff_eq trivial trivial
  rw [hexact, Key.integer.injEq]

theorem separates_of_keysTransitive (hS : KeysTransitive S) : Separates S := by
  intro m hm n hn h
  obtain ⟨hab, hbc⟩ := beq_between h
  exact beq_integer_iff.1 (hS (.integer m) (.float (.ofInt m)) (.integer n) hm trivial hn hab hbc)

/-- An insert under an integer replaces the value of an equal double, and so that of all integers
that become this double. -/
theorem get?_insert_between {x : Double} {u v : Value} (hm : (Key.float x == Key.integer m) = true)
    (hn : (Key.float x == Key.integer n) = true) :
    (Mapping.mk [(Key.float x, u)]).get? (.integer n) = some u ∧
      ((Mapping.mk [(Key.float x, u)]).insert (.integer m) v).get? (.integer n) = some v := by
  have hinsert : (Mapping.mk [(Key.float x, u)]).insert (.integer m) v = ⟨[(.float x, v)]⟩ := by
    rw [Mapping.insert, Mapping.insertEntry_cons, if_pos hm]
  rw [hinsert, Mapping.get?_cons, Mapping.get?_cons, if_pos hn, if_pos hn]
  exact ⟨rfl, rfl⟩

theorem separates_of_insertsApart (hS : InsertsApart S) : Separates S := by
  intro m hm n hn h
  by_contra hne
  obtain ⟨hab, hbc⟩ := beq_between h
  rw [Key.beq_comm] at hab
  obtain ⟨hbefore, hafter⟩ := get?_insert_between (u := .null) (v := .boolean true) hab hbc
  have hapart : (Key.integer m == Key.integer n) = false := by
    rw [Bool.eq_false_iff]
    exact fun hagree => hne (beq_integer_iff.1 hagree)
  have hsame := hS ⟨[(.float (.ofInt m), .null)]⟩ (.integer m) (.integer n) (.boolean true)
    (by simp [Mapping.keys, Key.IntegersIn]) hm hn hapart
  rw [hbefore, hafter] at hsame
  cases hsame

end Between

/-- **Comparisons are transitive just where no two integers become one double.**  Whatever integers
there are in the values, in their keys and in the keys of a mapping: equality, order and equality of
keys are transitive, and an insert changes no other key, just if rounding keeps these integers
apart.  It keeps all integers up to `2 ^ 53` apart. -/
theorem transitive_iff_separates (token : Token) (S : Set ℤ) :
    (EqualityTransitive token S ↔ Separates S) ∧ (OrderTransitive token S ↔ Separates S) ∧
      (KeysTransitive S ↔ Separates S) ∧ (InsertsApart S ↔ Separates S) ∧
      Separates {n | n.natAbs ≤ 2 ^ 53} := by
  refine ⟨⟨?_, ?_⟩, ⟨?_, ?_⟩, ⟨?_, ?_⟩, ⟨?_, ?_⟩, Double.separates_le⟩
  · exact separates_of_equalityTransitive
  · exact equalityTransitive_of_separates
  · exact separates_of_orderTransitive
  · exact orderTransitive_of_separates
  · exact separates_of_keysTransitive
  · exact fun hS k k' k'' hk hk' hk'' => Key.beq_trans hS hk hk' hk''
  · exact separates_of_insertsApart
  · exact insertsApart_of_separates

/-- The first odd integer above `2 ^ 53` equals the double `2 ^ 53`, which equals the integer
`2 ^ 53`; but the two integers differ, and an insert under one of them changes the other one. -/
theorem not_transitive_above :
    let border := Double.ofInt 9007199254740992
    let m := Mapping.mk [(Key.float border, Value.null)]
    border ≠ .nan ∧
    ((Value.integer 9007199254740993).looselyEquals (.float border) = true ∧
      (Value.float border).looselyEquals (.integer 9007199254740992) = true ∧
      (Value.integer 9007199254740993).looselyEquals (.integer 9007199254740992) = false) ∧
    ((Value.integer 9007199254740993).compare? (.float border) = some .eq ∧
      (Value.float border).compare? (.integer 9007199254740992) = some .eq ∧
      (Value.integer 9007199254740993).compare? (.integer 9007199254740992) = some .gt) ∧
    ((Key.integer 9007199254740993 == Key.float border) = true ∧
      (Key.float border == Key.integer 9007199254740992) = true ∧
      (Key.integer 9007199254740993 == Key.integer 9007199254740992) = false) ∧
    m.get? (.integer 9007199254740992) = some .null ∧
      (m.insert (.integer 9007199254740993) (.boolean true)).get? (.integer 9007199254740992) =
        some (.boolean true) := by
  intro border m
  have hborder : Double.ofInt 9007199254740993 = border := by decide +kernel
  have hequal : (Double.ofInt 9007199254740993 == border) = true := by
    rw [hborder]
    exact Double.beq_ofInt_iff.2 rfl
  have hloose := looselyEquals_between hequal
  have horder := compare?_between hequal
  have hkeys := beq_between hequal
  rw [hborder] at hloose horder hkeys
  have hinsert := get?_insert_between (u := .null) (v := .boolean true)
    (Key.beq_comm _ _ ▸ hkeys.1) hkeys.2
  refine ⟨by decide +kernel, ⟨hloose.1, hloose.2, ?_⟩, ⟨horder.1, horder.2, ?_⟩,
    ⟨hkeys.1, hkeys.2, by decide⟩, hinsert⟩
  · simp [Value.looselyEquals]
  · rw [Value.compare?]
    rfl

end RecordQuery

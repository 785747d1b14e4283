import RecordQuery.Proofs.Evaluation.Printing

/-!
# The shape of results

Sequences could be nested to any depth and a mapping could be any value, but what is computed is
simpler than that.  Whatever is looked up or worked out is no mapping, for a path that ends on a
mapping leads to its keys; and no operation puts a sequence into a sequence.

* `resolve_ne_mapping` — **a path never leads to a mapping**;
* `Evaluated.Shallow` — a value that is no mapping, or a sequence of plain values and failures;
* `shallow_negate`, `shallow_broadcast`, `shallow_flatten` — what the operations make is shallow;
* `shallow_of_eval`, `ne_mapping_of_print` — **so is what a tree comes to**, and what it prints is
  no mapping;
* `flat_of_eval` — no tree, whatever its constants, comes to a sequence inside of a sequence.

Only the items of a sequence may be mappings: the items of items may be anything.
-/

namespace RecordQuery

/-- Whether a value is a mapping. -/
def Value.isMapping : Value → Bool
  | mapping _ => true
  | _ => false

variable {segments : List Segment} {v w : Value} {vs : List Value} {x y z : Evaluated}
  {items : List ResultItem} {token : Token}

/-! ## Where paths lead -/

theorem ne_mapping_of_keySet? (h : v.keySet? = some w) : w.isMapping = false := by
  cases v <;> cases h <;> rfl

theorem ne_mapping_of_endpoint (v : Value) : v.endpoint.isMapping = false := by
  cases v <;> rfl

/-- Branches put together are one of them or a sequence. -/
theorem ne_mapping_of_collapse (hvs : ∀ v ∈ vs, v.isMapping = false) (h : collapse vs = some w) :
    w.isMapping = false := by
  match vs with
  | [] => cases h
  | [v] =>
    cases h
    exact hvs _ List.mem_cons_self
  | _ :: _ :: _ =>
    cases h
    rfl

/-- **Segments never lead to a mapping.** -/
theorem ne_mapping_of_resolveAt (h : resolveAt segments v = some w) : w.isMapping = false := by
  induction segments generalizing v w with
  | nil =>
    cases h
    exact ne_mapping_of_endpoint v
  | cons segment rest ih =>
    unfold resolveAt at h
    split at h
    · obtain ⟨u, _, hu⟩ := Option.bind_eq_some_iff.1 h
      exact ih hu
    · obtain ⟨u, _, hu⟩ := Option.bind_eq_some_iff.1 h
      exact ih hu
    · obtain ⟨u, _, hu⟩ := Option.bind_eq_some_iff.1 h
      exact ih hu
    · refine ne_mapping_of_collapse ?_ h
      intro u hu
      obtain ⟨child, _, hchild⟩ := List.mem_filterMap.1 hu
      exact ih hchild
    · obtain ⟨keys, hkeys, hbranches⟩ := Option.bind_eq_some_iff.1 h
      refine ne_mapping_of_collapse ?_ hbranches
      intro u hu
      rcases List.mem_cons.1 hu with rfl | hu
      · exact ne_mapping_of_keySet? hkeys
      · split at hu
        · cases hu
        · exact ih (Option.mem_toList.1 hu)
    · cases h

theorem resolve_ne_mapping {path : FieldPath} (h : path.resolve v = some w) :
    w.isMapping = false := ne_mapping_of_resolveAt h

/-! ## Shallow results -/

/-- The items that did not fail are plain values. -/
def PlainItems (items : List ResultItem) : Prop := ∀ x, .ok x ∈ items → ∃ v, x = .value v

/-- A value that is no mapping, or a sequence of plain values and of failures. -/
def Evaluated.Shallow : Evaluated → Prop
  | value v => v.isMapping = false
  | sequence items => PlainItems items

/-- The operation on single items makes plain values only. -/
def MakesPlain (f : ResultItem → ResultItem) : Prop := ∀ item y, f item = .ok y → ∃ v, y = .value v

theorem plainItems_map {f : ResultItem → ResultItem} (hf : MakesPlain f) (items : List ResultItem) :
    PlainItems (items.map f) := by
  intro x hx
  obtain ⟨item, _, hitem⟩ := List.mem_map.1 hx
  exact hf item x hitem

theorem plainItems_ofValues (vs : List Value) : PlainItems (Evaluated.ofValues vs) := by
  intro x hx
  obtain ⟨v, _, hv⟩ := List.mem_map.1 hx
  cases hv
  exact ⟨v, rfl⟩

theorem shallow_ofBool (b : Bool) : (Evaluated.ofBool b).Shallow := rfl

/-- The items of a plain value are plain values. -/
theorem plainItems_of_view_value (h : (Evaluated.value v).view = .items items) :
    PlainItems items := by
  unfold Evaluated.view at h
  split at h
  · rename_i heq
    cases heq
  · cases h
    exact plainItems_ofValues _
  · cases h
    exact plainItems_ofValues _
  · cases h

theorem Evaluated.Shallow.view (hx : x.Shallow) (h : x.view = .items items) : PlainItems items := by
  cases x with
  | value v => exact plainItems_of_view_value h
  | sequence items' =>
    cases h
    exact hx

/-- What is left of a shallow result when all of its items are asked for is no mapping. -/
theorem Evaluated.Shallow.toValue (hx : x.Shallow) (h : x.toValue = .ok v) :
    v.isMapping = false := by
  cases x with
  | value u =>
    rw [Evaluated.toValue] at h
    cases h
    exact hx
  | sequence items =>
    rw [Evaluated.toValue] at h
    obtain ⟨vs, _, rfl⟩ := Except.map_eq_ok_iff.1 h
    rfl

/-! ## Operations -/

theorem makesPlain_negateItem : MakesPlain negateItem := by
  intro item y h
  obtain ⟨x, _, hx⟩ := Except.bind_eq_ok_iff.1 h
  obtain ⟨b, _, hb⟩ := Except.bind_eq_ok_iff.1 hx
  cases hb
  exact ⟨_, rfl⟩

theorem shallow_negate (x : Evaluated) : (negate x).Shallow := by
  unfold negate
  split
  · exact plainItems_map makesPlain_negateItem _
  · exact shallow_ofBool _

theorem makesPlain_applyToItem (settled : Option Bool) (apply : Value → Except EvalError Bool) :
    MakesPlain (applyToItem settled apply) := by
  intro item y h
  obtain ⟨x, _, hx⟩ := Except.bind_eq_ok_iff.1 h
  cases settled with
  | some b =>
    cases hx
    exact ⟨_, rfl⟩
  | none =>
    obtain ⟨v, _, hv⟩ := Except.bind_eq_ok_iff.1 hx
    obtain ⟨b, _, hb⟩ := Except.bind_eq_ok_iff.1 hv
    cases hb
    exact ⟨_, rfl⟩

theorem plainItems_applyToPairs (apply : Value → Value → Except EvalError Bool)
    (as bs : List Value) : PlainItems (applyToPairs apply as bs) := by
  intro x hx
  rw [applyToPairs_eq] at hx
  obtain ⟨a, _, ha⟩ := List.mem_flatMap.1 hx
  obtain ⟨b, _, hb⟩ := List.mem_map.1 ha
  obtain ⟨result, _, rfl⟩ := Except.map_eq_ok_iff.1 hb
  exact ⟨_, rfl⟩

theorem shallow_broadcast {op : BinaryOp} (h : broadcast token op x y = .ok z) : z.Shallow := by
  unfold broadcast at h
  dsimp only at h
  split at h
  · obtain ⟨b, _, rfl⟩ := Except.map_eq_ok_iff.1 h
    exact shallow_ofBool b
  · cases h
    exact plainItems_map (makesPlain_applyToItem _ _) _
  · cases h
    exact plainItems_map (makesPlain_applyToItem _ _) _
  · obtain ⟨as, _, has⟩ := Except.bind_eq_ok_iff.1 h
    obtain ⟨bs, _, hbs⟩ := Except.bind_eq_ok_iff.1 has
    cases hbs
    exact plainItems_applyToPairs _ as bs

theorem makesPlain_applyToTextItem (token : Token) (method : Method) (apply : String → Value) :
    MakesPlain (applyToTextItem token method apply) := by
  intro item y h
  obtain ⟨x, _, hx⟩ := Except.bind_eq_ok_iff.1 h
  obtain ⟨v, _, hv⟩ := Except.bind_eq_ok_iff.1 hx
  split at hv
  · cases hv
    exact ⟨_, rfl⟩
  · cases hv

theorem shallow_applyToTexts {method : Method} {apply : String → Value}
    (happly : ∀ s, (apply s).isMapping = false) (h : applyToTexts token method apply x = .ok y) :
    y.Shallow := by
  unfold applyToTexts at h
  split at h
  · cases h
    exact happly _
  · cases h
  · cases h
    exact plainItems_map (makesPlain_applyToTextItem _ _ _) _

/-- The items of a plain value are plain, so no sequence is among the items of items. -/
theorem plainItems_flattenItem {item : ResultItem} (hitem : ∀ y, item = .ok y → ∃ v, y = .value v) :
    PlainItems (flattenItem token item) := by
  cases item with
  | error e => simp [flattenItem, PlainItems]
  | ok x =>
    obtain ⟨v, rfl⟩ := hitem x rfl
    rw [flattenItem]
    split
    · rename_i hv
      exact plainItems_of_view_value hv
    · simp [PlainItems]

theorem plainItems_flatMap_flattenItem (hitems : PlainItems items) :
    PlainItems (items.flatMap (flattenItem token)) := by
  intro y hy
  obtain ⟨item, hitem, hinner⟩ := List.mem_flatMap.1 hy
  refine plainItems_flattenItem ?_ y hinner
  rintro z rfl
  exact hitems z hitem

theorem shallow_flatten (hx : x.Shallow) (h : flatten token x = .ok y) : y.Shallow := by
  unfold flatten at h
  split at h
  · rename_i items hitems
    cases h
    exact plainItems_flatMap_flattenItem (hx.view hitems)
  · cases h

theorem orInterrupt_eq_ok_iff {α : Type} {r : Except EvalError α} {a : α} :
    orInterrupt r = .ok a ↔ r = .ok a := by
  cases r <;> simp [orInterrupt]

/-- Whatever a method makes of a shallow result is shallow. -/
theorem shallow_applyMethod {method : Method} (hx : x.Shallow)
    (h : applyMethod token method x = .ok y) : y.Shallow := by
  cases method <;> rw [applyMethod] at h
  case len =>
    obtain ⟨n, _, rfl⟩ := Except.map_eq_ok_iff.1 (orInterrupt_eq_ok_iff.1 h)
    rfl
  case any =>
    obtain ⟨b, _, rfl⟩ := Except.map_eq_ok_iff.1 (orInterrupt_eq_ok_iff.1 h)
    exact shallow_ofBool b
  case all =>
    obtain ⟨b, _, rfl⟩ := Except.map_eq_ok_iff.1 (orInterrupt_eq_ok_iff.1 h)
    exact shallow_ofBool b
  case split => exact shallow_applyToTexts (fun _ => rfl) (orInterrupt_eq_ok_iff.1 h)
  case lower => exact shallow_applyToTexts (fun _ => rfl) (orInterrupt_eq_ok_iff.1 h)
  case upper => exact shallow_applyToTexts (fun _ => rfl) (orInterrupt_eq_ok_iff.1 h)
  case reduce => exact shallow_flatten hx (orInterrupt_eq_ok_iff.1 h)
  case print => split at h <;> cases h

/-! ## Trees -/

/-- The operand is no constant mapping. -/
def Operand.Plain : Operand → Prop
  | number v => v.isMapping = false
  | path _ => True

/-- No constant of the tree is a mapping. -/
def Node.Plain : Node → Prop
  | operand leaf _ => leaf.Plain
  | method _ argument _ => argument.Plain
  | unary _ inner _ => inner.Plain
  | binary _ left right _ => left.Plain ∧ right.Plain
  | keyword _ _ field _ => field.Plain

variable {leaf : Operand} {tree : Node} {record : Value}

theorem shallow_operand (h : leaf.Plain) (record : Value) : (leaf.eval record).Shallow := by
  cases leaf with
  | number v => exact h
  | path route =>
    show ((route.resolve record).getD .null).isMapping = false
    cases hr : route.resolve record with
    | none => rfl
    | some w => exact resolve_ne_mapping hr

/-- **What a tree comes to is shallow**, by recursion on the tree. -/
theorem shallow_of_eval (ht : tree.Plain) (h : tree.eval record = .ok x) : x.Shallow := by
  induction tree generalizing x with
  | operand leaf token =>
    cases h
    exact shallow_operand ht record
  | method m argument token ih =>
    rw [Node.eval] at h
    obtain ⟨y, hy, hx⟩ := Except.bind_eq_ok_iff.1 h
    exact shallow_applyMethod (ih ht hy) hx
  | unary op inner token ih =>
    cases op
    rw [Node.eval] at h
    obtain ⟨y, _, hx⟩ := Except.bind_eq_ok_iff.1 h
    cases hx
    exact shallow_negate y
  | binary op left right token ihl ihr =>
    rw [Node.eval] at h
    obtain ⟨y, _, hx⟩ := Except.bind_eq_ok_iff.1 h
    obtain ⟨z, _, hz⟩ := Except.bind_eq_ok_iff.1 hx
    exact shallow_broadcast (orInterrupt_eq_ok_iff.1 hz)
  | keyword k pattern field token =>
    cases k
    obtain ⟨b, _, rfl⟩ := Except.map_eq_ok_iff.1 (orInterrupt_eq_ok_iff.1 h)
    exact shallow_ofBool b

/-- **What a tree prints is no mapping**: it is the value of a shallow result. -/
theorem ne_mapping_of_print (ht : tree.Plain) (h : tree.eval record = .error (.print v)) :
    v.isMapping = false := by
  induction tree with
  | operand leaf token => cases h
  | method m argument token ih =>
    have ha : argument.Plain := ht
    rw [Node.eval] at h
    rcases Except.bind_eq_error_iff.1 h with h | ⟨x, hx, h⟩
    · exact ih ha h
    · obtain ⟨rfl, hv⟩ := applyMethod_eq_print_iff.1 h
      exact (shallow_of_eval ha hx).toValue hv
  | unary op inner token ih =>
    cases op
    rw [Node.eval] at h
    rcases Except.bind_eq_error_iff.1 h with h | ⟨x, _, h⟩
    · exact ih ht h
    · cases h
  | binary op left right token ihl ihr =>
    rw [Node.eval] at h
    rcases Except.bind_eq_error_iff.1 h with h | ⟨x, _, h⟩
    · exact ihl ht.1 h
    rcases Except.bind_eq_error_iff.1 h with h | ⟨y, _, h⟩
    · exact ihr ht.2 h
    · exact absurd h orInterrupt_ne_print
  | keyword k pattern field token =>
    cases k
    exact absurd h orInterrupt_ne_print

/-! ## Trees with any constants -/

/-- The items that a result has are plain values, unless they failed; a value is flat, even if it is
a mapping. -/
def Evaluated.Flat (x : Evaluated) : Prop := ∀ items, x.view = .items items → PlainItems items

theorem Evaluated.Shallow.flat (hx : x.Shallow) : x.Flat := fun _ => hx.view

theorem flat_value (v : Value) : (Evaluated.value v).Flat := fun _ => plainItems_of_view_value

/-- What a method makes of a flat result is flat. -/
theorem flat_applyMethod {method : Method} (hx : x.Flat) (h : applyMethod token method x = .ok y) :
    y.Flat := by
  cases method <;> rw [applyMethod] at h
  case len | any | all =>
    obtain ⟨_, _, rfl⟩ := Except.map_eq_ok_iff.1 (orInterrupt_eq_ok_iff.1 h)
    exact flat_value _
  case split | lower | upper =>
    exact (shallow_applyToTexts (fun _ => rfl) (orInterrupt_eq_ok_iff.1 h)).flat
  case reduce =>
    have h := orInterrupt_eq_ok_iff.1 h
    unfold flatten at h
    split at h
    · rename_i items hitems
      cases h
      rintro _ ⟨⟩
      exact plainItems_flatMap_flattenItem (hx items hitems)
    · cases h
  case print => split at h <;> cases h

/-- **What a tree comes to is flat**, whatever constants are in it. -/
theorem flat_of_eval (h : tree.eval record = .ok x) : x.Flat := by
  induction tree generalizing x with
  | operand leaf token =>
    cases h
    cases leaf <;> exact flat_value _
  | method m argument token ih =>
    obtain ⟨y, hy, hx⟩ := Except.bind_eq_ok_iff.1 h
    exact flat_applyMethod (ih hy) hx
  | unary op inner token ih =>
    cases op
    obtain ⟨y, _, hx⟩ := Except.bind_eq_ok_iff.1 h
    cases hx
    exact (shallow_negate y).flat
  | binary op left right token ihl ihr =>
    obtain ⟨y, _, hx⟩ := Except.bind_eq_ok_iff.1 h
    obtain ⟨z, _, hz⟩ := Except.bind_eq_ok_iff.1 hx
    exact (shallow_broadcast (orInterrupt_eq_ok_iff.1 hz)).flat
  | keyword k pattern field token =>
    cases k
    obtain ⟨b, _, rfl⟩ := Except.map_eq_ok_iff.1 (orInterrupt_eq_ok_iff.1 h)
    exact flat_value _

end RecordQuery

import RecordQuery.Proofs.Compiling.Composition
import RecordQuery.Proofs.Evaluation.Consuming
import RecordQuery.Proofs.Evaluation.Unplaced

/-!
# Double negation

`not` asks each item of a result whether it is true, and an item that is a sequence is true if it is
not empty.  Matching looks into the items for a scalar that is true.  So `not not` keeps what matches
and adds what is hollow: not empty, but with nothing true inside.

* `Value.IsHollow` — true as a whole, with no true scalar inside;
* `isMatch_negate_negate_items` — **a result that is negated twice matches as its items say**;
* `scanItems_of_someMatch_eq_ok` — the items say what the match says, unless one of them is hollow;
* `Enclosable.compilesTo_not_not` — the tree of a query behind `not not`;
* `double_negation_adds_hollow` — **`not not` keeps the answer, and keeps hollow results too**.
-/

namespace RecordQuery

open Evaluated

/-- Not empty, but with no scalar inside that is true. -/
def Value.IsHollow (v : Value) : Prop := v.isTruthy = true ∧ v.isMatch = false

/-- Some item of the result is hollow. -/
def Evaluated.HasHollow (x : Evaluated) : Prop :=
  ∃ items v, x.view = .items items ∧ .ok (.value v) ∈ items ∧ v.IsHollow

variable {x x' : Evaluated} {items items' : List ResultItem} {v : Value} {b : Bool}

/-! ## Items -/

/-- Negated items are truth values, so they match as they are true. -/
theorem someMatch_map_negateItem (items : List ResultItem) :
    someMatch (items.map negateItem) = scanItems false (items.map negateItem) := by
  induction items with
  | nil => rfl
  | cons item rest ih =>
    rw [List.map_cons]
    cases hitem : negateItem item with
    | error e =>
      rw [someMatch]
      exact (scanItems_failed rfl).symm
    | ok y =>
      obtain ⟨w, _, hw⟩ := Except.bind_eq_ok_iff.1 hitem
      obtain ⟨truthy, _, hy⟩ := Except.bind_eq_ok_iff.1 hw
      cases hy
      rw [someMatch, ih]
      cases truthy <;> rfl

/-- **A result that is negated twice matches as its items say.** -/
theorem isMatch_negate_negate_items (h : x.view = .items items) :
    (negate (negate x)).isMatch = scanItems false items := by
  rw [isMatch_of_view (view_negate_items (view_negate_items h)), someMatch_map_negateItem,
    scanItems_map_negateItem, scanItems_map_negateItem, Bool.not_not]
  cases scanItems false items with
  | error e => rfl
  | ok b => exact congrArg Except.ok (Bool.not_not b)

/-- Where there is one scalar, a second negation takes the first one back. -/
theorem isMatch_negate_negate_scalar (h : x.view = .scalar v) :
    (negate (negate x)).isMatch = .ok v.isTruthy := by
  have htwice : negate (negate x) = .ofBool v.negated.negated.isTruthy := by
    rw [negate, view_negate_scalar h]
    simp [isTruthy_negated]
  rw [htwice, isTruthy_negated, isTruthy_negated, Bool.not_not]
  rfl

/-- **The items say what the match says, unless one of them is hollow.** -/
theorem scanItems_of_someMatch_eq_ok (hplain : PlainItems items) (h : someMatch items = .ok b) :
    ∃ b', scanItems false items = .ok b' ∧
      (b' = true ↔ b = true ∨ ∃ v, .ok (.value v) ∈ items ∧ v.IsHollow) := by
  cases b with
  | true => exact ⟨true, scanItems_of_someMatch h, by simp⟩
  | false =>
    induction items with
    | nil => exact ⟨false, rfl, by simp⟩
    | cons item rest ih =>
      cases item with
      | error e => cases h
      | ok y =>
        obtain ⟨w, rfl⟩ := hplain y List.mem_cons_self
        rw [someMatch, Evaluated.isMatch] at h
        have hw : w.isMatch = false := by
          cases hmatch : w.isMatch with
          | false => rfl
          | true =>
            rw [hmatch] at h
            cases h
        rw [hw] at h
        have hrest : PlainItems rest := fun x hx => hplain x (List.mem_cons_of_mem _ hx)
        cases htruthy : w.isTruthy with
        | true =>
          have hother : scanItems false (.ok (.value w) :: rest) = .ok true :=
            scanItems_other (congrArg Except.ok htruthy)
          exact ⟨true, hother, iff_of_true rfl (.inr ⟨w, List.mem_cons_self, htruthy, hw⟩)⟩
        | false =>
          have hpassed : scanItems false (.ok (.value w) :: rest) = scanItems false rest :=
            scanItems_passed (congrArg Except.ok htruthy)
          obtain ⟨b', hscan, hb'⟩ := ih hrest h
          refine ⟨b', hpassed.trans hscan, ?_⟩
          simp only [hb', List.mem_cons, Except.ok.injEq, Evaluated.value.injEq]
          simp [or_and_right, exists_or, Value.IsHollow, htruthy]

/-! ## Results -/

/-- A scalar matches if it is true. -/
theorem isMatch_of_view_scalar (h : x.view = .scalar v) : x.isMatch = .ok v.isTruthy := by
  cases x with
  | sequence items => cases h
  | value w =>
    rw [Evaluated.isMatch]
    cases w <;> cases h
    all_goals rw [Value.isMatch]
    all_goals simp

/-- **What matches is kept, and what has a hollow item is added**, if its items are plain. -/
theorem isMatch_negate_negate (hflat : x.Flat) (h : x.isMatch = .ok b) :
    ∃ b', (negate (negate x)).isMatch = .ok b' ∧ (b' = true ↔ b = true ∨ x.HasHollow) := by
  cases hview : x.view with
  | scalar v =>
    refine ⟨b, ?_, by simp [Evaluated.HasHollow, hview]⟩
    rw [isMatch_negate_negate_scalar hview, ← isMatch_of_view_scalar hview, h]
  | items items =>
    rw [isMatch_of_view hview] at h
    obtain ⟨b', hscan, hb'⟩ := scanItems_of_someMatch_eq_ok (hflat items hview) h
    refine ⟨b', (isMatch_negate_negate_items hview).trans hscan, ?_⟩
    simpa [Evaluated.HasHollow, hview] using hb'

/-! ## Queries -/

variable {q : String} {tree l : Node} {words : List Token}

theorem Enclosable.compilesTo_not_not (hq : Enclosable q.toList l words) :
    CompilesTo ("not not (" ++ q ++ ")")
      (.unary .not (.unary .not l (Token.word "not" .unary false))
        (Token.word "not" .unary false)) := by
  obtain ⟨n, hn, hnl⟩ := hq.derives
  have hoperand := @reads _ _ _ hq .unary [' '] [] _ (by simp [Text.isBlank]) (by decide) reads_end
  have hinner := @reads_bare 0 .unary .unary [' '] _ _ "not" (by simp [Text.isBlank]) (by decide)
    (stops_at_blank _) rfl (by decide) (by decide) hoperand
  have hread := @reads_bare 0 .start .unary [] _ _ "not" (by simp) (by decide)
    (stops_at_blank _) rfl (by decide) (by decide) hinner
  have hnot : Derives .unary 0
      (Token.word "not" .unary false :: Token.word "not" .unary false :: enclosed words)
      (.unary .not (.unary .not n (Token.word "not" .unary false))
        (Token.word "not" .unary false)) :=
    .not ⟨rfl, rfl⟩ (.not ⟨rfl, rfl⟩ (.atom (derives_enclosed hn)))
  refine compilesTo_of_reads (by simp [String.toList_append]) hread hnot ?_
  rw [Node.detached, Node.detached, Node.detached, Node.detached, hnl]

theorem compute_not_not {t t' : Token} {record : Value} (h : tree.compute record = .value x) :
    (Node.unary .not (.unary .not tree t) t').compute record = .value (negate (negate x)) := by
  rw [compute_eq_value_iff] at h ⊢
  simp only [Node.eval, h]
  rfl

/-- A query has an answer on a record if it comes to a result that has one. -/
theorem Query.isMatch_eq_ok_iff {query : Query} {record : Value} :
    query.isMatch record = .ok b ↔ ∃ x, query.evaluate record = .value x ∧ x.isMatch = .ok b := by
  unfold Query.isMatch Query.check
  cases query.evaluate record with
  | value x => cases h : x.isMatch <;> simp [h]
  | print v => simp
  | failure e => simp

theorem Evaluated.Alike.isMatch_eq_ok (h : x.Alike x') (hx : x'.isMatch = .ok b) :
    x.isMatch = .ok b := by
  have hmatch := h.isMatch
  rw [hx] at hmatch
  generalize x.isMatch = answer at hmatch ⊢
  cases hmatch with
  | came heq => rw [heq]

/-- **`not not` keeps what matches, and adds what has a hollow item.**  A query of which no more than
126 parentheses are open at once is compiled behind `not not`, too.  On every record on which the
query has an answer, so has this one: it keeps the record if the query does, and also if an item of
the result is hollow, and in no other case. -/
theorem double_negation_adds_hollow (hq : Query.compile q = .ok ⟨q, some tree⟩)
    (hd : NestsAtMost 126 q) :
    ∃ query, Query.compile ("not not (" ++ q ++ ")") = .ok query ∧
      ∀ record b, Query.isMatch ⟨q, some tree⟩ record = .ok b →
        ∃ x b', Query.evaluate ⟨q, some tree⟩ record = .value x ∧ query.isMatch record = .ok b' ∧
          (b' = true ↔ b = true ∨ x.HasHollow) := by
  obtain ⟨words, henclosable⟩ := exists_enclosable ⟨tree, hq, rfl⟩ hd
  obtain ⟨outer, houter, hsame⟩ := henclosable.compilesTo_not_not
  refine ⟨_, houter, fun record b hb => ?_⟩
  obtain ⟨x, hx, hmatch⟩ := Query.isMatch_eq_ok_iff.1 hb
  have hx : tree.compute record = .value x := hx
  obtain ⟨b', htwice, hb'⟩ :=
    isMatch_negate_negate (flat_of_eval (compute_eq_value_iff.1 hx)) hmatch
  refine ⟨x, b', hx, Query.isMatch_eq_ok_iff.2 ?_, hb'⟩
  have halike := alike_compute hsame record
  rw [compute_not_not hx] at halike
  show ∃ y, outer.compute record = .value y ∧ y.isMatch = .ok b'
  generalize outer.compute record = outcome at halike ⊢
  cases halike with
  | value hy => exact ⟨_, rfl, hy.isMatch_eq_ok htwice⟩

/-- A field that holds a sequence in a sequence, with nothing true inside: it does not match, but it
does behind `not not`. -/
theorem double_negation_adds_hollow_zero :
    let leaf := Node.operand (.path ⟨[.key "a"]⟩) ⟨"a", ⟨0, 1⟩, .text, .start, false⟩
    let record := Value.ofPairs [(.text "a", .array [.array [.integer 0]])]
    Query.compile "a" = .ok ⟨"a", some leaf⟩ ∧ NestsAtMost 126 "a" ∧
      Query.isMatch ⟨"a", some leaf⟩ record = .ok false ∧
      ∃ query, Query.compile ("not not (" ++ "a" ++ ")") = .ok query ∧
        query.isMatch record = .ok true := by
  intro leaf record
  have htokens : tokenize "a".toList =
      .ok [⟨"a", ⟨0, 1⟩, .text, .start, false⟩, ⟨"", ⟨1, 0⟩, .finish, .text, false⟩] := by cbv
  have hq : Query.compile "a" = .ok ⟨"a", some leaf⟩ :=
    compile_eq_ok_iff.2 ⟨_, htokens, .of_atom (.operand rfl rfl) _⟩
  have hd : NestsAtMost 126 "a" := by
    intro tokens ht
    cases htokens.symm.trans ht
    exact opensAtMost_of_countKind (by decide)
  have hmatch : Query.isMatch ⟨"a", some leaf⟩ record = .ok false := by rfl
  refine ⟨hq, hd, hmatch, ?_⟩
  obtain ⟨query, hquery, hall⟩ := double_negation_adds_hollow hq hd
  obtain ⟨x, b', hx, hb', hiff⟩ := hall record false hmatch
  have hresult : Query.evaluate ⟨"a", some leaf⟩ record =
      .value (.value (.array [.array [.integer 0]])) := by rfl
  cases hresult.symm.trans hx
  have hhollow : (Evaluated.value (.array [.array [.integer 0]])).HasHollow :=
    ⟨_, .array [.integer 0], rfl, List.mem_cons_self, by decide +kernel, by decide +kernel⟩
  rw [hiff.2 (.inr hhollow)] at hb'
  exact ⟨query, hquery, hb'⟩

/-- The two queries on that record, one after the other. -/
theorem double_negation_differs :
    let record := Value.ofPairs [(.text "a", .array [.array [.integer 0]])]
    (Query.compile "a").toOption.map (fun query => (query.isMatch record).toOption) =
        some (some false) ∧
      (Query.compile "not not (a)").toOption.map (fun query => (query.isMatch record).toOption) =
        some (some true) := by
  intro record
  constructor
  · decide +kernel
  · decide +kernel

end RecordQuery

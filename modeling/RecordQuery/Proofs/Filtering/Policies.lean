import Mathlib.Data.Nat.Notation
import RecordQuery.Proofs.Result
import RecordQuery.Query

/-!
# What a filter keeps

A query has an answer to a record or fails on it, and whether a failure ends the run is a matter
of the policy: `print` always ends it, and an error does unless such records are left out.

* `Query.answers`, `Query.keeps` — there is an answer, and it is yes;
* `Query.stop?` — the failure with which a record ends the run under a policy;
* `firstFailure?` — the failure of the first record that ends a run, whatever the run collects;
* `filterFrom_eq` — **a run ends there, or keeps all records with the answer yes**;
* `filter_exact` — the two policies, and what they have to do with each other.
-/

namespace RecordQuery

/-- The same failure, of the record with another number. -/
def FilterError.at (index : ℕ) : FilterError → FilterError
  | eval _ e => eval index e
  | print _ v => print index v

/-! ## The first failure of a run -/

/-- The failure of the first record that ends a run, with the number of this record. -/
def firstFailure? (stop : Value → Option FilterError) (index : ℕ) :
    List Value → Option FilterError
  | [] => none
  | record :: records =>
    match stop record with
    | some e => some (e.at index)
    | none => firstFailure? stop (index + 1) records

section FirstFailure

variable {stop : Value → Option FilterError} {index : ℕ} {records : List Value} {e : FilterError}

theorem firstFailure?_eq_none_iff :
    firstFailure? stop index records = none ↔ ∀ record ∈ records, stop record = none := by
  induction records generalizing index with
  | nil => simp [firstFailure?]
  | cons record records ih =>
    rw [firstFailure?, List.forall_mem_cons]
    cases stop record with
    | some e => simp
    | none => simp [ih]

theorem firstFailure?_eq_some_iff :
    firstFailure? stop index records = some e ↔
      ∃ before record behind e₀, records = before ++ record :: behind ∧
        (∀ record ∈ before, stop record = none) ∧ stop record = some e₀ ∧
        e = e₀.at (index + before.length) := by
  induction records generalizing index with
  | nil => simp [firstFailure?]
  | cons first records ih =>
    rw [firstFailure?]
    constructor
    · intro h
      cases hs : stop first with
      | some e₀ =>
        rw [hs] at h
        cases h
        exact ⟨[], first, records, e₀, rfl, by simp, hs, rfl⟩
      | none =>
        rw [hs] at h
        obtain ⟨before, record, behind, e₀, rfl, hnone, hsome, rfl⟩ := ih.1 h
        refine ⟨first :: before, record, behind, e₀, rfl, ?_, hsome, ?_⟩
        · exact List.forall_mem_cons.2 ⟨hs, hnone⟩
        · rw [List.length_cons, Nat.add_right_comm, Nat.add_assoc]
    · rintro ⟨before, record, behind, e₀, hrs, hnone, hsome, rfl⟩
      cases before with
      | nil =>
        obtain ⟨rfl, rfl⟩ := List.cons.inj hrs
        rw [hsome]
        rfl
      | cons other before =>
        obtain ⟨rfl, rfl⟩ := List.cons.inj hrs
        obtain ⟨hfirst, hbefore⟩ := List.forall_mem_cons.1 hnone
        have hplace : index + (first :: before).length = index + 1 + before.length := by
          rw [List.length_cons]
          omega
        rw [hfirst]
        exact ih.2 ⟨before, record, behind, e₀, rfl, hbefore, hsome, by rw [hplace]⟩

end FirstFailure

namespace Query

/-- Whether there is an answer to a record. -/
def answers (query : Query) (record : Value) : Bool :=
  match query.isMatch record with
  | .ok _ => true
  | .error _ => false

/-- Whether the answer to a record is yes. -/
def keeps (query : Query) (record : Value) : Bool :=
  match query.isMatch record with
  | .ok b => b
  | .error _ => false

/-- The failure with which a record ends a run under a policy, if it does. -/
def stop? (query : Query) (policy : ErrorPolicy) (record : Value) : Option FilterError :=
  match query.isMatch record, policy with
  | .ok _, _ => none
  | .error (.eval _ _), .skipRecord => none
  | .error e, _ => some e

/-- The records with the answer yes, each with its number, which is counted from `index` on. -/
def keptFrom (query : Query) (index : ℕ) (records : List Value) : List (ℕ × Value) :=
  ((records.zipIdx index).filter fun entry => query.keeps entry.1).map Prod.swap

/-- The records that a query keeps, without their numbers. -/
def filtered (query : Query) (policy : ErrorPolicy) (records : List Value) :
    Except FilterError (List Value) :=
  (query.filter policy records).map fun kept => kept.map Prod.snd

variable {query : Query} {policy : ErrorPolicy} {record : Value} {records xs ys : List Value}
  {index : ℕ} {kept : List (ℕ × Value)} {e : FilterError} {b : Bool}

/-! ## One record -/

/-- The number of a record plays no part in its answer. -/
theorem check_eq (query : Query) (index : ℕ) (record : Value) :
    query.check index record = (query.isMatch record).mapError (FilterError.at index) := by
  unfold isMatch check
  cases query.evaluate record with
  | value x =>
    dsimp only
    cases x.isMatch <;> rfl
  | print v => rfl
  | failure e => rfl

theorem keeps_eq_true_iff : query.keeps record = true ↔ query.isMatch record = .ok true := by
  unfold keeps
  cases query.isMatch record <;> simp

theorem answers_eq_true_iff :
    query.answers record = true ↔ ∃ b, query.isMatch record = .ok b := by
  unfold answers
  cases query.isMatch record <;> simp

theorem eq_zero_of_isMatch_print {v : Value} (h : query.isMatch record = .error (.print index v)) :
    index = 0 := by
  unfold isMatch check at h
  split at h
  · split at h <;> cases h
  · cases h
    rfl
  · cases h

theorem stop?_failFast_eq_some_iff :
    query.stop? .failFast record = some e ↔ query.isMatch record = .error e := by
  unfold stop?
  rcases query.isMatch record with (_ | _) | _ <;> simp

theorem stop?_failFast_eq_none_iff :
    query.stop? .failFast record = none ↔ ∃ b, query.isMatch record = .ok b := by
  unfold stop?
  rcases query.isMatch record with (_ | _) | _ <;> simp

/-- Where failing records are left out, only `print` ends a run. -/
theorem stop?_skipRecord_eq_some_iff :
    query.stop? .skipRecord record = some e ↔
      ∃ v, e = .print 0 v ∧ query.isMatch record = .error (.print 0 v) := by
  unfold stop?
  rcases h : query.isMatch record with (_ | ⟨i, v⟩) | b
  · simp
  · obtain rfl := eq_zero_of_isMatch_print h
    simp [eq_comm]
  · simp

theorem stop?_skipRecord_eq_none_iff :
    query.stop? .skipRecord record = none ↔ ∀ v, query.isMatch record ≠ .error (.print 0 v) := by
  rw [Option.eq_none_iff_forall_ne_some]
  simp only [ne_eq, stop?_skipRecord_eq_some_iff, not_exists, not_and]
  exact ⟨fun h v => h _ v rfl, fun h _ v _ => h v⟩

/-- A record that is kept ends no run. -/
theorem stop?_eq_none_of_keeps (h : query.keeps record = true) :
    query.stop? policy record = none := by
  unfold stop?
  rw [keeps_eq_true_iff.1 h]

/-! ## The whole run -/

theorem filterFrom_cons (query : Query) (policy : ErrorPolicy) (index : ℕ) (record : Value)
    (records : List Value) :
    query.filterFrom policy index (record :: records) =
      match query.stop? policy record with
      | some e => .error (e.at index)
      | none => (query.filterFrom policy (index + 1) records).map fun kept =>
          if query.keeps record then (index, record) :: kept else kept := by
  rw [filterFrom, check_eq]
  unfold stop? keeps
  rcases query.isMatch record with (⟨i, e⟩ | ⟨i, v⟩) | (_ | _)
  · cases policy
    · rfl
    · cases query.filterFrom .skipRecord (index + 1) records <;> rfl
  · rfl
  · cases query.filterFrom policy (index + 1) records <;> rfl
  · cases query.filterFrom policy (index + 1) records <;> rfl

theorem keptFrom_cons (query : Query) (index : ℕ) (record : Value) (records : List Value) :
    query.keptFrom index (record :: records) =
      if query.keeps record then (index, record) :: query.keptFrom (index + 1) records
      else query.keptFrom (index + 1) records := by
  rw [keptFrom, List.zipIdx_cons, List.filter_cons]
  split <;> rfl

/-- **A run ends at the first record that ends it, or keeps all records with the answer yes.** -/
theorem filterFrom_eq (query : Query) (policy : ErrorPolicy) (index : ℕ) (records : List Value) :
    query.filterFrom policy index records =
      match firstFailure? (query.stop? policy) index records with
      | some e => .error e
      | none => .ok (query.keptFrom index records) := by
  induction records generalizing index with
  | nil => rfl
  | cons record records ih =>
    rw [filterFrom_cons, keptFrom_cons, firstFailure?]
    cases query.stop? policy record with
    | some e => rfl
    | none =>
      simp only [ih]
      cases firstFailure? (query.stop? policy) (index + 1) records <;> rfl

theorem filterFrom_eq_ok_iff :
    query.filterFrom policy index records = .ok kept ↔
      (∀ record ∈ records, query.stop? policy record = none) ∧
        kept = query.keptFrom index records := by
  rw [filterFrom_eq, ← @firstFailure?_eq_none_iff _ index]
  cases firstFailure? (query.stop? policy) index records <;> simp [eq_comm]

theorem filterFrom_eq_error_iff :
    query.filterFrom policy index records = .error e ↔
      firstFailure? (query.stop? policy) index records = some e := by
  rw [filterFrom_eq]
  cases firstFailure? (query.stop? policy) index records <;> simp

theorem map_snd_keptFrom (query : Query) (index : ℕ) (records : List Value) :
    (query.keptFrom index records).map Prod.snd = records.filter query.keeps := by
  induction records generalizing index with
  | nil => rfl
  | cons record records ih =>
    rw [keptFrom_cons, List.filter_cons]
    split
    · rw [List.map_cons, ih]
    · exact ih _

theorem filtered_eq_ok_iff {values : List Value} :
    query.filtered policy records = .ok values ↔
      (∀ record ∈ records, query.stop? policy record = none) ∧
        values = records.filter query.keeps := by
  simp only [filtered, filter, Except.map_eq_ok_iff, filterFrom_eq_ok_iff]
  constructor
  · rintro ⟨_, ⟨hall, rfl⟩, rfl⟩
    exact ⟨hall, map_snd_keptFrom query 0 records⟩
  · rintro ⟨hall, rfl⟩
    exact ⟨_, ⟨hall, rfl⟩, map_snd_keptFrom query 0 records⟩

/-! ## The two policies -/

/-- What a query keeps of some records, under the two policies. -/
structure FiltersExactly (query : Query) (records : List Value) : Prop where
  /-- Where an error ends the run, every record must have an answer. -/
  failFast_ok : ∀ values, query.filtered .failFast records = .ok values ↔
    (∀ record ∈ records, ∃ b, query.isMatch record = .ok b) ∧ values = records.filter query.keeps
  /-- Otherwise the run ends with the failure of the first record without an answer. -/
  failFast_error : ∀ e, query.filter .failFast records = .error e ↔
    ∃ before record behind e₀, records = before ++ record :: behind ∧
      (∀ record ∈ before, ∃ b, query.isMatch record = .ok b) ∧
      query.isMatch record = .error e₀ ∧ e = e₀.at before.length
  skipRecord_ne_eval : ∀ i e, query.filter .skipRecord records ≠ .error (.eval i e)
  /-- Where errors are left out, the run still ends with the first record that prints. -/
  skipRecord_print : ∀ i v, query.filter .skipRecord records = .error (.print i v) ↔
    ∃ before record behind, records = before ++ record :: behind ∧ i = before.length ∧
      (∀ record ∈ before, ∀ w, query.isMatch record ≠ .error (.print 0 w)) ∧
      query.isMatch record = .error (.print 0 v)
  skipRecord_otherwise : (∀ record ∈ records, ∀ v, query.isMatch record ≠ .error (.print 0 v)) →
    query.filtered .skipRecord records = query.filtered .failFast (records.filter query.answers)
  /-- The numbers of the records that are kept are their places. -/
  numbers : ∀ policy kept, query.filter policy records = .ok kept → kept = query.keptFrom 0 records
  append : ∀ policy more values, query.filtered policy (records ++ more) = .ok values ↔
    ∃ kept kept', query.filtered policy records = .ok kept ∧
      query.filtered policy more = .ok kept' ∧ values = kept ++ kept'
  again : ∀ policy kept, query.filtered policy records = .ok kept →
    query.filtered policy kept = .ok kept

theorem filtered_append {values : List Value} :
    query.filtered policy (xs ++ ys) = .ok values ↔
      ∃ kept kept', query.filtered policy xs = .ok kept ∧
        query.filtered policy ys = .ok kept' ∧ values = kept ++ kept' := by
  simp only [filtered_eq_ok_iff, List.forall_mem_append, List.filter_append]
  constructor
  · rintro ⟨⟨hx, hy⟩, rfl⟩
    exact ⟨_, _, ⟨hx, rfl⟩, ⟨hy, rfl⟩, rfl⟩
  · rintro ⟨_, _, ⟨hx, rfl⟩, ⟨hy, rfl⟩, rfl⟩
    exact ⟨⟨hx, hy⟩, rfl⟩

/-- Without `print`, to leave out errors is to leave out the records that fail. -/
theorem filtered_skipRecord
    (h : ∀ record ∈ records, ∀ v, query.isMatch record ≠ .error (.print 0 v)) :
    query.filtered .skipRecord records = query.filtered .failFast (records.filter query.answers) := by
  have hskip : query.filtered .skipRecord records = .ok (records.filter query.keeps) :=
    filtered_eq_ok_iff.2 ⟨fun record hr => stop?_skipRecord_eq_none_iff.2 (h record hr), rfl⟩
  have hkept : (records.filter query.answers).filter query.keeps = records.filter query.keeps := by
    rw [List.filter_filter]
    refine List.filter_congr fun record _ => ?_
    unfold keeps answers
    cases query.isMatch record <;> simp
  rw [hskip, eq_comm, filtered_eq_ok_iff]
  refine ⟨fun record hr => ?_, hkept.symm⟩
  exact stop?_failFast_eq_none_iff.2 (answers_eq_true_iff.1 (List.mem_filter.1 hr).2)

/-- **The filter is exact**: it keeps the records with the answer yes, in their order, or it ends at
the first record at which its policy makes it end. -/
theorem filter_exact (query : Query) (records : List Value) : query.FiltersExactly records where
  failFast_ok _ := by
    rw [filtered_eq_ok_iff]
    simp only [stop?_failFast_eq_none_iff]
  failFast_error _ := by
    rw [filter, filterFrom_eq_error_iff, firstFailure?_eq_some_iff]
    simp only [stop?_failFast_eq_none_iff, stop?_failFast_eq_some_iff, Nat.zero_add]
  skipRecord_ne_eval i e h := by
    rw [filter, filterFrom_eq_error_iff, firstFailure?_eq_some_iff] at h
    obtain ⟨_, _, _, _, _, _, hs, he⟩ := h
    obtain ⟨v, rfl, _⟩ := stop?_skipRecord_eq_some_iff.1 hs
    cases he
  skipRecord_print i v := by
    rw [filter, filterFrom_eq_error_iff, firstFailure?_eq_some_iff]
    simp only [stop?_skipRecord_eq_none_iff, stop?_skipRecord_eq_some_iff, Nat.zero_add]
    constructor
    · rintro ⟨before, record, behind, _, hrs, hnone, ⟨w, rfl, hw⟩, he⟩
      cases he
      exact ⟨before, record, behind, hrs, rfl, hnone, hw⟩
    · rintro ⟨before, record, behind, hrs, rfl, hnone, hv⟩
      exact ⟨before, record, behind, _, hrs, hnone, ⟨v, rfl, hv⟩, rfl⟩
  skipRecord_otherwise := filtered_skipRecord
  numbers _ _ h := (filterFrom_eq_ok_iff.1 h).2
  append _ _ _ := filtered_append
  again policy kept h := by
    obtain ⟨_, rfl⟩ := filtered_eq_ok_iff.1 h
    refine filtered_eq_ok_iff.2 ⟨fun record hr => ?_, ?_⟩
    · exact stop?_eq_none_of_keeps (List.mem_filter.1 hr).2
    · rw [List.filter_filter]
      simp only [Bool.and_self]

end Query

end RecordQuery

import Mathlib.Data.List.Forall2
import Mathlib.Data.Nat.Notation
import RecordQuery.Path.Parse

/-!
# What a single key says

A key is one of two special segments, or a number behind its mark, or else just a text.  Only the
marked ones can fail to be read.

* `Segment.Reads`, `Segment.parse_eq_ok_iff` — **what a key is read as**;
* `Segment.IsReadable`, `Segment.exists_reads_iff` — which keys are read as anything;
* `Segment.parse_missing` — why the others are not.
-/

namespace RecordQuery

theorem stripMark?_eq_none_iff {mark : String} {text : List Char} :
    stripMark? mark text = none ↔ ¬ mark.toList <+: text := by
  unfold stripMark?
  rw [Option.eq_none_iff_forall_ne_some]
  constructor
  · rintro h ⟨rest, hrest⟩
    exact h rest (List.isPrefixOf?_eq_some_iff_append_eq.2 hrest)
  · exact fun h rest hrest => h ⟨rest, List.isPrefixOf?_eq_some_iff_append_eq.1 hrest⟩

namespace Segment

/-- What a key says: a wildcard, the key set, a number behind its mark, or just itself. -/
inductive Reads : List Char → Segment → Prop
  | any : Reads "$ANY".toList .any
  | self : Reads "$SELF".toList .self
  | number {rest : List Char} {x : Double} : Numeral.double? (Text.trim rest) = some x →
      Reads (numberMark.toList ++ rest) (.number (Numeral.integer? (Text.trim rest)) x)
  | key {raw : List Char} : raw ≠ "$ANY".toList → raw ≠ "$SELF".toList →
      ¬ numberMark.toList <+: raw → Reads raw (.key (String.ofList raw))

/-- Behind the mark of a number there is the text of one, with blanks around it. -/
def IsReadable (raw : List Char) : Prop :=
  ∀ rest, raw = numberMark.toList ++ rest → ∃ x, Numeral.double? (Text.trim rest) = some x

variable {raw rest : List Char} {offset : ℕ} {segment : Segment} {x : Double} {e : PathError}

/-! ### The reader case by case -/

theorem parse_key (hany : raw ≠ "$ANY".toList) (hself : raw ≠ "$SELF".toList)
    (hmark : ¬ numberMark.toList <+: raw) : parse raw offset = .ok (.key (String.ofList raw)) := by
  rw [parse, if_neg hany, if_neg hself, stripMark?_eq_none_iff.2 hmark]

theorem parse_marked (rest : List Char) (offset : ℕ) :
    parse (numberMark.toList ++ rest) offset =
      parseNumber (numberMark.toList ++ rest) rest offset := by
  have hany : numberMark.toList ++ rest ≠ "$ANY".toList := nofun
  have hself : numberMark.toList ++ rest ≠ "$SELF".toList := nofun
  have hmark : stripMark? numberMark (numberMark.toList ++ rest) = some rest :=
    List.isPrefixOf?_eq_some_iff_append_eq.2 rfl
  rw [parse, if_neg hany, if_neg hself, hmark]

theorem parse_number (hx : Numeral.double? (Text.trim rest) = some x) :
    parse (numberMark.toList ++ rest) offset =
      .ok (.number (Numeral.integer? (Text.trim rest)) x) := by
  rw [parse_marked, parseNumber, hx]

theorem parse_missing (hx : Numeral.double? (Text.trim rest) = none) :
    parse (numberMark.toList ++ rest) offset =
      .error ⟨.missingNumber (String.ofList rest), offset, (numberMark.toList ++ rest).length⟩ := by
  rw [parse_marked, parseNumber, hx]

/-- What a key may be: special, marked as a number, or a text. -/
theorem eq_special_or_marked_or_text (raw : List Char) :
    raw = "$ANY".toList ∨ raw = "$SELF".toList ∨ (∃ rest, raw = numberMark.toList ++ rest) ∨
      (raw ≠ "$ANY".toList ∧ raw ≠ "$SELF".toList ∧ ¬ numberMark.toList <+: raw) := by
  by_cases hany : raw = "$ANY".toList
  · exact .inl hany
  · by_cases hself : raw = "$SELF".toList
    · exact .inr (.inl hself)
    · by_cases hmark : numberMark.toList <+: raw
      · obtain ⟨rest, hrest⟩ := hmark
        exact .inr (.inr (.inl ⟨rest, hrest.symm⟩))
      · exact .inr (.inr (.inr ⟨hany, hself, hmark⟩))

/-- **What a single key says.** -/
theorem parse_eq_ok_iff : parse raw offset = .ok segment ↔ Reads raw segment := by
  constructor
  · intro h
    rcases eq_special_or_marked_or_text raw with rfl | rfl | ⟨rest, rfl⟩ | ⟨hany, hself, hmark⟩
    · cases h
      exact .any
    · cases h
      exact .self
    · cases hx : Numeral.double? (Text.trim rest) with
      | none =>
        rw [parse_missing hx] at h
        cases h
      | some x =>
        rw [parse_number hx] at h
        cases h
        exact .number hx
    · rw [parse_key hany hself hmark] at h
      cases h
      exact .key hany hself hmark
  · intro h
    cases h with
    | any => rfl
    | self => rfl
    | number hx => exact parse_number hx
    | key hany hself hmark => exact parse_key hany hself hmark

/-- Every key says something, but for those that are marked as numbers and hold none. -/
theorem exists_reads_iff : (∃ segment, Reads raw segment) ↔ IsReadable raw := by
  constructor
  · rintro ⟨segment, h⟩ rest rfl
    have hparse := (@parse_eq_ok_iff _ 0 _).2 h
    cases hx : Numeral.double? (Text.trim rest) with
    | none =>
      rw [parse_missing hx] at hparse
      cases hparse
    | some x => exact ⟨x, rfl⟩
  · intro h
    rcases eq_special_or_marked_or_text raw with rfl | rfl | ⟨rest, rfl⟩ | ⟨hany, hself, hmark⟩
    · exact ⟨.any, .any⟩
    · exact ⟨.self, .self⟩
    · obtain ⟨x, hx⟩ := h rest rfl
      exact ⟨_, .number hx⟩
    · exact ⟨_, .key hany hself hmark⟩

end Segment

end RecordQuery

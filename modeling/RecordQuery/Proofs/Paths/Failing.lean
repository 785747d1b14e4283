import Mathlib.Data.List.TakeWhile
import RecordQuery.Proofs.Paths.Brackets
import RecordQuery.Proofs.Paths.Segments
import RecordQuery.Proofs.Result

/-!
# Where a path fails

The reader of a path knows how many characters it has read, and tells of a failure where it stands
in the path.

* `Segment.shows_of_parse`, `FieldPath.shows_of_parseKeys`, `FieldPath.shows_of_parse` — **a failure
  shows a part of the path**, and not an empty one.
-/

namespace RecordQuery

/-- The error is about a place in front of a position. -/
def PathError.Fits (e : PathError) (stop : ℕ) : Prop := e.offset + e.length ≤ stop

variable {raw text : List Char} {offset : ℕ} {e : PathError}

theorem PathError.Fits.mono {stop stop' : ℕ} (h : e.Fits stop) (hle : stop ≤ stop') :
    e.Fits stop' := Nat.le_trans h hle

/-- A key that cannot be read is shown as a whole; it holds the mark of a number. -/
theorem Segment.shows_of_parse (h : Segment.parse raw offset = .error e) :
    0 < e.length ∧ e.Fits (offset + raw.length) := by
  rcases eq_special_or_marked_or_text raw with rfl | rfl | ⟨rest, rfl⟩ | ⟨hany, hself, hmark⟩
  · cases h
  · cases h
  · cases hx : Numeral.double? (Text.trim rest) with
    | none =>
      rw [parse_missing hx] at h
      cases h
      exact ⟨Nat.succ_pos _, Nat.le_refl _⟩
    | some x =>
      rw [parse_number hx] at h
      cases h
  · rw [parse_key hany hself hmark] at h
    cases h

namespace FieldPath

/-- What stands in front of a character is shorter than the text. -/
theorem length_takeWhile_lt {c : Char} {cs : List Char} (h : cs.contains c) :
    (cs.takeWhile (· != c)).length < cs.length := by
  refine Nat.lt_of_le_of_ne (List.takeWhile_prefix _).length_le fun heq => ?_
  have hall := (List.takeWhile_prefix (· != c)).eq_of_length heq
  have hnot := List.takeWhile_eq_self_iff.1 hall c (by simpa using h)
  simp at hnot

/-- A failure behind the head shows a key, or a bracket with all that follows it, or all that
follows the last key. -/
theorem shows_of_parseKeys {cs : List Char} (h : parseKeys offset cs = .error e) :
    0 < e.length ∧ e.Fits (offset + cs.length) := by
  induction cs using keys_induction generalizing offset with
  | bare cs hbare =>
    rw [parseKeys_bare hbare] at h
    split_ifs at h with hblanks
    cases h
    refine ⟨List.length_pos_of_ne_nil ?_, Nat.le_refl _⟩
    rintro rfl
    exact hblanks rfl
  | closed key rest hkey ih =>
    have hlength : ('[' :: (key ++ ']' :: rest)).length = 1 + key.length + 1 + rest.length := by
      simp only [List.length_cons, List.length_append]
      omega
    rw [parseKeys_closed hkey] at h
    rcases Except.bind_eq_error_iff.1 h with hsegment | ⟨_, _, h⟩
    · obtain ⟨hpos, hfits⟩ := Segment.shows_of_parse hsegment
      exact ⟨hpos, hfits.mono (by omega)⟩
    · rcases Except.bind_eq_error_iff.1 h with hothers | ⟨_, _, h⟩
      · obtain ⟨hpos, hfits⟩ := ih hothers
        exact ⟨hpos, hfits.mono (by omega)⟩
      · cases h
  | unclosed cs hunclosed =>
    rw [parseKeys_unclosed hunclosed] at h
    cases h
    simp only [PathError.Fits, List.length_cons]
    omega

/-- **A failure shows a part of the path.** -/
theorem shows_of_parse (h : parse text = .error e) : 0 < e.length ∧ e.Fits text.length := by
  have hsplit := congrArg List.length
    (List.takeWhile_append_dropWhile (p := (· != '[')) (l := text))
  rw [List.length_append] at hsplit
  rw [parse] at h
  split_ifs at h with hstray hbare
  · cases h
    exact ⟨Nat.one_pos, Nat.le_trans (length_takeWhile_lt hstray) (by omega)⟩
  · rcases Except.bind_eq_error_iff.1 h with hkeys | ⟨_, _, h⟩
    · obtain ⟨hpos, hfits⟩ := shows_of_parseKeys hkeys
      exact ⟨hpos, hfits.mono (by omega)⟩
    · cases h
  · rcases Except.bind_eq_error_iff.1 h with hfirst | ⟨_, _, h⟩
    · obtain ⟨hpos, hfits⟩ := Segment.shows_of_parse hfirst
      exact ⟨hpos, hfits.mono (by omega)⟩
    · rcases Except.bind_eq_error_iff.1 h with hkeys | ⟨_, _, h⟩
      · obtain ⟨hpos, hfits⟩ := shows_of_parseKeys hkeys
        exact ⟨hpos, hfits.mono (by omega)⟩
      · cases h

theorem fits_of_parse (h : parse text = .error e) : e.Fits text.length := (shows_of_parse h).2

end FieldPath

end RecordQuery

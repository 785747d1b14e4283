import RecordQuery.Path.Resolve
import RecordQuery.Proofs.Paths.Displaying

/-!
# Numbers as places of a sequence

A number in a path stands for a place of a sequence if it is the text of an integer, of whatever
size.  Only integers of 64 bits are kept as such, but no sequence is so long that another one would
be a place of it.  Negative places count from the end, and the distance to the end of the smallest
integer is one more than the largest integer, so that it is kept without a sign.

* `Numeral.IsInteger` — the text of an integer with blanks around it;
* `Numeral.IsInteger.parse`, `FieldPath.parse_bracketed` — such a number is always read, and alone
  in brackets it is a path;
* `itemAtWord?`, `itemAtWord?_eq` — **in words of 64 bits nothing wraps around**;
* `Segment.Indexes` — the item that a number leads to;
* `indexes_as_written` — **numbers index a sequence as the integers that they are**.
-/

namespace RecordQuery

variable {text front written behind : List Char} {z i : ℤ} {items : List Value}
  {rest : List Segment} {offset : ℕ} {x : Double} {segment : Segment}

/-! ## Integers between blanks -/

namespace Numeral

/-- The text of an integer, with blanks around it or not. -/
def IsInteger (text : List Char) (z : ℤ) : Prop :=
  ∃ front written behind, text = front ++ (written ++ behind) ∧ (∀ c ∈ front, Text.isBlank c) ∧
    (∀ c ∈ behind, Text.isBlank c) ∧ Writes written z

/-- Without the blanks, the text of the integer is left. -/
theorem isInteger_iff : IsInteger text z ↔ Writes (Text.trim text) z := by
  constructor
  · rintro ⟨front, written, behind, rfl, hfront, hbehind, hwrites⟩
    have htrim : Text.trim (front ++ (written ++ behind)) = written :=
      Text.trim_between hwrites.ne_nil hfront hbehind
        (fun c hc => hwrites.not_blank c (List.mem_of_head? hc))
        fun c hc => hwrites.not_blank c (List.mem_of_getLast? hc)
    rwa [htrim]
  · intro hwrites
    obtain ⟨front, behind, htext, hfront, hbehind⟩ := Text.exists_trim text
    exact ⟨front, _, behind, htext, hfront, hbehind, hwrites⟩

/-- **A number that is an integer is always read**, and kept as one if it fits. -/
theorem IsInteger.parse (h : IsInteger text z) :
    ∃ x, ∀ offset, Segment.parse (Segment.numberMark.toList ++ text) offset =
      .ok (.number (if fits z then some z else none) x) := by
  have hwrites := isInteger_iff.1 h
  obtain ⟨x, hx⟩ := hwrites.double?
  refine ⟨x, fun offset => ?_⟩
  rw [Segment.parse_number hx, hwrites.integer?_eq]

theorem ne_bracket_of_isBlank {c : Char} (h : Text.isBlank c) : c ≠ '[' ∧ c ≠ ']' := by
  refine ⟨?_, ?_⟩
  · rintro rfl
    exact absurd h (by decide)
  · rintro rfl
    exact absurd h (by decide)

theorem IsInteger.bare (h : IsInteger text z) : ∀ c ∈ text, c ≠ '[' ∧ c ≠ ']' := by
  obtain ⟨front, written, behind, rfl, hfront, hbehind, hwrites⟩ := h
  intro c hc
  rcases List.mem_append.1 hc with hc | hc
  · exact ne_bracket_of_isBlank (hfront c hc)
  · rcases List.mem_append.1 hc with hc | hc
    · exact hwrites.bare c hc
    · exact ne_bracket_of_isBlank (hbehind c hc)

end Numeral

/-- A key in brackets is a path of one segment. -/
theorem FieldPath.parse_bracketed (hbalanced : Balanced 0 text)
    (hreads : Segment.Reads text segment) :
    FieldPath.parse ('[' :: (text ++ [']'])) = .ok ⟨[segment]⟩ := by
  have hwritten : FieldPath.WrittenAs ('[' :: (text ++ [']'])) [] [text] [] :=
    { text_eq := by simp [bracketed]
      head_bare := nofun
      keys_balanced := by simpa using hbalanced
      blanks_blank := nofun
      blanks_nil := fun _ => rfl }
  refine hwritten.parse_eq ?_
  rw [FieldPath.parts, if_pos ⟨rfl, List.cons_ne_nil _ _⟩]
  exact .cons hreads .nil

/-! ## Places in words -/

/-- The item at a place, where places and lengths are words of 64 bits. -/
def itemAtWord? (items : List Value) (index : Int64) : Option Value :=
  if index < 0 then
    let size := UInt64.ofNat items.length
    let distance := index.abs.toUInt64
    if distance ≤ size then items[(size - distance).toNat]? else none
  else items[index.toUInt64.toNat]?

theorem toInt_word (h : Numeral.fits i) : (Int64.ofInt i).toInt = i := by
  obtain ⟨hlow, hhigh⟩ := Numeral.fits_iff.1 h
  exact Int64.toInt_ofInt_of_le hlow hhigh

theorem word_neg_iff (h : Numeral.fits i) : Int64.ofInt i < 0 ↔ i < 0 := by
  rw [Int64.lt_iff_toInt_lt, toInt_word h, Int64.toInt_zero]

/-- The distance to the end has no sign, so that it is right for the smallest word too. -/
theorem toNat_abs_word (h : Numeral.fits i) :
    (Int64.ofInt i).abs.toUInt64.toNat = i.natAbs := by
  obtain ⟨hlow, hhigh⟩ := Numeral.fits_iff.1 h
  have hsigned : i.bmod (2 ^ 64) = i := by
    have hword := toInt_word h
    rwa [Int64.toInt_ofInt] at hword
  show (Int64.ofInt i).toBitVec.abs.toNat = i.natAbs
  rw [Int64.toBitVec_ofInt, BitVec.toNat_abs, BitVec.msb_eq_toInt, BitVec.toInt_ofInt,
    BitVec.toNat_ofInt, hsigned]
  by_cases hneg : i < 0
  · rw [decide_eq_true hneg, if_pos rfl]
    omega
  · rw [decide_eq_false hneg, if_neg Bool.false_ne_true]
    omega

theorem toNat_word (h : Numeral.fits i) (hi : 0 ≤ i) :
    (Int64.ofInt i).toUInt64.toNat = i.toNat := by
  have hhigh := (Numeral.fits_iff.1 h).2
  show (Int64.ofInt i).toBitVec.toNat = i.toNat
  rw [Int64.toBitVec_ofInt, BitVec.toNat_ofInt]
  omega

/-- **In words nothing wraps around**, with sequences as long as memory can hold. -/
theorem itemAtWord?_eq (h : Numeral.fits i) (hlength : items.length ≤ 2 ^ 63) :
    itemAtWord? items (Int64.ofInt i) = itemAt? items i := by
  have hsize : (UInt64.ofNat items.length).toNat = items.length :=
    UInt64.toNat_ofNat_of_lt' (Nat.lt_of_le_of_lt hlength (by decide))
  unfold itemAtWord? itemAt?
  dsimp only
  by_cases hi : 0 ≤ i
  · rw [if_pos hi, if_neg (mt (word_neg_iff h).1 (by omega)), toNat_word h hi]
  · have hreach : (Int64.ofInt i).abs.toUInt64 ≤ UInt64.ofNat items.length ↔
        i.natAbs ≤ items.length := by
      rw [UInt64.le_iff_toNat_le, toNat_abs_word h, hsize]
    rw [if_neg hi, if_pos ((word_neg_iff h).2 (by omega))]
    by_cases hle : i.natAbs ≤ items.length
    · rw [if_pos hle, if_pos (hreach.2 hle), UInt64.toNat_sub_of_le _ _ (hreach.2 hle), hsize,
        toNat_abs_word h]
    · rw [if_neg hle, if_neg (mt hreach.1 hle)]

/-! ## The item that a number leads to -/

/-- Behind a number, the way leads on from the item that is so many places behind the start or in
front of the end of a sequence, and ends if there is none. -/
structure Segment.Indexes (segment : Segment) (z : ℤ) (items : List Value) : Prop where
  from_start : ∀ n (h : n < items.length), z = n → ∀ rest,
    resolveAt (segment :: rest) (.array items) = resolveAt rest items[n]
  from_end : ∀ n (h : n < items.length), items.length + z = n → z < 0 → ∀ rest,
    resolveAt (segment :: rest) (.array items) = resolveAt rest items[n]
  outside : z < -items.length ∨ items.length ≤ z → ∀ rest,
    resolveAt (segment :: rest) (.array items) = none
  /-- The place is found in words of 64 bits, if there is a word for it. -/
  words : ∀ i x, segment = .number (some i) x →
    (Int64.ofInt i).toInt = i ∧ itemAtWord? items (Int64.ofInt i) = itemAt? items i

theorem resolveAt_number (i : ℤ) (x : Double) :
    resolveAt (.number (some i) x :: rest) (.array items) =
      (itemAt? items i).bind (resolveAt rest) := rfl

theorem resolveAt_unplaced (x : Double) :
    resolveAt (.number none x :: rest) (.array items) = none := rfl

/-- A number that fits is the place that it says. -/
theorem indexes_number (h : Numeral.fits z) (hlength : items.length ≤ 2 ^ 63) (x : Double) :
    Segment.Indexes (.number (some z) x) z items where
  from_start n hn hz rest := by
    have hitem : itemAt? items z = some items[n] := by
      rw [itemAt?, if_pos (by omega), hz, Int.toNat_natCast, List.getElem?_eq_getElem hn]
    rw [resolveAt_number, hitem, Option.bind_some]
  from_end n hn hz hneg rest := by
    have hplace : items.length - z.natAbs = n := by omega
    have hitem : itemAt? items z = some items[n] := by
      rw [itemAt?, if_neg (by omega), if_pos (by omega), hplace, List.getElem?_eq_getElem hn]
    rw [resolveAt_number, hitem, Option.bind_some]
  outside hz rest := by
    have hitem : itemAt? items z = none := by
      unfold itemAt?
      by_cases hneg : 0 ≤ z
      · rw [if_pos hneg, List.getElem?_eq_none (by omega)]
      · rw [if_neg hneg, if_neg (by omega)]
    rw [resolveAt_number, hitem, Option.bind_none]
  words := by
    rintro i x ⟨⟩
    exact ⟨toInt_word h, itemAtWord?_eq h hlength⟩

/-- A number that does not fit is no place of any sequence. -/
theorem indexes_unplaced (h : ¬ Numeral.fits z) (hlength : items.length ≤ 2 ^ 63) (x : Double) :
    Segment.Indexes (.number none x) z items where
  from_start n hn hz := by
    rw [Numeral.fits_iff] at h
    omega
  from_end n hn hz hneg := by
    rw [Numeral.fits_iff] at h
    omega
  outside _ _ := resolveAt_unplaced x
  words := nofun

/-- What a number in a path leads to at a sequence.  The bytes of a sequence in memory are counted
in 63 bits, so it has no more than `2 ^ 63` items. -/
structure IndexesAsWritten (text : List Char) : Prop where
  /-- The text of an integer is read, and the number leads to the place that it says. -/
  integer : ∀ z, Numeral.IsInteger text z → ∃ segment,
    (∀ offset, Segment.parse (Segment.numberMark.toList ++ text) offset = .ok segment) ∧
      FieldPath.parse ('[' :: (Segment.numberMark.toList ++ text ++ [']'])) = .ok ⟨[segment]⟩ ∧
      ∀ items : List Value, items.length ≤ 2 ^ 63 → segment.Indexes z items
  /-- Any other number leads nowhere. -/
  other : (∀ z, ¬ Numeral.IsInteger text z) → ∀ segment offset,
    Segment.parse (Segment.numberMark.toList ++ text) offset = .ok segment →
      ∀ items rest, resolveAt (segment :: rest) (.array items) = none

/-- **Numbers index a sequence as the integers that they are**, of whatever size. -/
theorem indexes_as_written (text : List Char) : IndexesAsWritten text where
  integer z h := by
    obtain ⟨x, hparse⟩ := h.parse
    have hmark : ∀ c ∈ Segment.numberMark.toList, c ≠ '[' ∧ c ≠ ']' :=
      List.all_iff_forall_prop.1 (by decide)
    have hbare : ∀ c ∈ Segment.numberMark.toList ++ text, c ≠ '[' ∧ c ≠ ']' := by
      intro c hc
      exact (List.mem_append.1 hc).elim (hmark c) (h.bare c)
    refine ⟨_, hparse, FieldPath.parse_bracketed (balanced_of_bare hbare)
      (Segment.parse_eq_ok_iff.1 (hparse 0)), fun items hlength => ?_⟩
    by_cases hfits : Numeral.fits z
    · rw [if_pos hfits]
      exact indexes_number hfits hlength x
    · rw [if_neg hfits]
      exact indexes_unplaced hfits hlength x
  other h segment offset hparse items rest := by
    have hnone : Numeral.integer? (Text.trim text) = none := by
      rw [Option.eq_none_iff_forall_ne_some]
      intro z hz
      exact h z (Numeral.isInteger_iff.2 (Numeral.integer?_eq_some_iff.1 hz).1)
    cases hx : Numeral.double? (Text.trim text) with
    | none =>
      rw [Segment.parse_missing hx] at hparse
      cases hparse
    | some x =>
      rw [Segment.parse_number hx, hnone] at hparse
      cases hparse
      exact resolveAt_unplaced x

/-- The smallest place of a sequence, one below the integers of 64 bits, and no integer at all. -/
theorem indexes_as_written_edges :
    let items : List Value := [.text "a", .text "b"]
    (∃ segment, FieldPath.parse "[d_$ -002 ]".toList = .ok ⟨[segment]⟩ ∧
        resolveAt [segment] (.array items) = some (.text "a")) ∧
      (∃ segment, FieldPath.parse "[d_$-9223372036854775809]".toList = .ok ⟨[segment]⟩ ∧
        resolveAt [segment] (.array items) = none) ∧
      ∃ segment, Segment.parse "d_$1.0".toList 0 = .ok segment ∧
        resolveAt [segment] (.array items) = none := by
  intro items
  have hdigits : ∀ d ∈ "002".toList, d.isDigit := List.all_iff_forall_prop.1 (by decide)
  have hsmallest : Numeral.IsInteger " -002 ".toList (-2) :=
    Numeral.isInteger_iff.2 (.minus (List.cons_ne_nil _ _) hdigits)
  have hlong : ∀ d ∈ "9223372036854775809".toList, d.isDigit :=
    List.all_iff_forall_prop.1 (by decide)
  have hbelow : Numeral.IsInteger "-9223372036854775809".toList (-9223372036854775809) :=
    Numeral.isInteger_iff.2 (.minus (List.cons_ne_nil _ _) hlong)
  have hpoint : ∀ z, ¬ Numeral.IsInteger "1.0".toList z := fun z h =>
    absurd ((Numeral.isInteger_iff.1 h).digit_or_sign '.' (by decide)) (by decide)
  refine ⟨?_, ?_, ?_⟩
  · obtain ⟨segment, _, hparse, hindexes⟩ := (indexes_as_written _).integer _ hsmallest
    exact ⟨segment, hparse, (hindexes items (by decide)).from_end 0 (by decide) rfl (by decide) []⟩
  · obtain ⟨segment, _, hparse, hindexes⟩ := (indexes_as_written _).integer _ hbelow
    exact ⟨segment, hparse, (hindexes items (by decide)).outside (.inl (by decide)) []⟩
  · exact ⟨_, rfl, (indexes_as_written _).other hpoint _ 0 rfl items []⟩

end RecordQuery

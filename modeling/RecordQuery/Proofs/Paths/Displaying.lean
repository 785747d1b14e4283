import Mathlib.Data.Bool.AllAny
import RecordQuery.Proofs.Numbers.Numerals
import RecordQuery.Proofs.Paths.Fields

/-!
# Paths read back from their text

A path is displayed with its first segment bare and all others in brackets, and a number by its
index alone.  The reader knows nothing of segments, only of brackets and marks.  It finds the same
segments again where no key looks like something else.

* `toList_display` — the text of a path is a head and keys in brackets;
* `FieldPath.Displayable` — **which paths can be told from their text**;
* `Segment.ReadsBack` — what a segment comes back as: a number has the double nearest to its index;
* `FieldPath.parse_display` — **these paths are read back**, segment by segment.
-/

namespace RecordQuery

variable {text : List Char} {z i : ℤ} {name : String} {segment : Segment} {segments : List Segment}
  {path : FieldPath}

/-! ## The text of a path -/

/-- The characters of a segment as it is displayed. -/
def Segment.characters (segment : Segment) : List Char := segment.display.toList

theorem toList_foldl_display (segments : List Segment) (text : String) :
    (segments.foldl (fun text segment => text ++ "[" ++ segment.display ++ "]") text).toList =
      text.toList ++ bracketed (segments.map Segment.characters) := by
  induction segments generalizing text with
  | nil => exact (List.append_nil _).symm
  | cons segment segments ih =>
    have hopen : "[".toList = ['['] := rfl
    have hclose : "]".toList = [']'] := rfl
    rw [List.foldl_cons, ih, List.map_cons, bracketed_cons, String.toList_append,
      String.toList_append, String.toList_append, hopen, hclose]
    simp only [Segment.characters, List.append_assoc, List.cons_append, List.nil_append]

/-- **A path is displayed as a head and keys in brackets.** -/
theorem toList_display (first : Segment) (rest : List Segment) :
    (FieldPath.display ⟨first :: rest⟩).toList =
      first.characters ++ bracketed (rest.map Segment.characters) :=
  toList_foldl_display rest first.display

/-! ## Texts without brackets -/

/-- A text without brackets has none that do not match. -/
theorem balanced_of_bare (h : ∀ c ∈ text, c ≠ '[' ∧ c ≠ ']') : Balanced 0 text := by
  have hopen : text.count '[' = 0 := List.count_eq_zero.2 fun hc => (h '[' hc).1 rfl
  have hclose : text.count ']' = 0 := List.count_eq_zero.2 fun hc => (h ']' hc).2 rfl
  refine ⟨fun before behind htext => ?_, by rw [hopen, hclose]⟩
  rw [htext, List.count_append] at hclose
  omega

theorem Numeral.Writes.bare (h : Writes text z) : ∀ c ∈ text, c ≠ '[' ∧ c ≠ ']' := by
  intro c hc
  rcases h.digit_or_sign c hc with hdigit | rfl | rfl
  · refine ⟨?_, ?_⟩
    · rintro rfl
      exact absurd hdigit (by decide)
    · rintro rfl
      exact absurd hdigit (by decide)
  · decide
  · decide

/-! ## Single segments -/

namespace Segment

/-- A segment that can be told from its text inside a path: a text key that is none of the special
ones, or a number with an index, or one that is special itself. -/
inductive IsDisplayable : Segment → Prop
  | key {name : String} : Balanced 0 name.toList → name ≠ "$ANY" → name ≠ "$SELF" →
      ¬ numberMark.toList <+: name.toList → IsDisplayable (.key name)
  | number {i : ℤ} {x : Double} : Numeral.fits i → IsDisplayable (.number (some i) x)
  | any : IsDisplayable .any
  | self : IsDisplayable .self

/-- What a segment comes back as: a number with the double nearest to its index, and all others as
they are. -/
inductive ReadsBack : Segment → Segment → Prop
  | key (name : String) : ReadsBack (.key name) (.key name)
  | number (i : ℤ) (x : Double) : ReadsBack (.number (some i) x) (.number (some i) (Double.ofInt i))
  | any : ReadsBack .any .any
  | self : ReadsBack .self .self

theorem characters_number (i : ℤ) (x : Double) :
    (number (some i) x).characters = numberMark.toList ++ (integerText i).toList :=
  String.toList_append

/-- An index is read back from its digits. -/
theorem reads_number (x : Double) (h : Numeral.fits i) :
    Reads (number (some i) x).characters (.number (some i) (Double.ofInt i)) := by
  have hwrites := Numeral.writes_integerText i
  have htrim : Text.trim (integerText i).toList = (integerText i).toList :=
    Text.trim_of_not_blank hwrites.not_blank
  have hreads := @Reads.number (integerText i).toList (Double.ofInt i)
  rw [htrim, Numeral.integer?_eq_some_iff.2 ⟨hwrites, h⟩] at hreads
  rw [characters_number]
  exact hreads (Numeral.double?_integerText i)

/-- **A segment is read back from its text.** -/
theorem IsDisplayable.reads (h : segment.IsDisplayable) :
    ∃ read, Reads segment.characters read ∧ ReadsBack segment read := by
  cases h with
  | key hbalanced hany hself hmark =>
    exact ⟨_, IsFieldName.reads ⟨hbalanced, hany, hself, hmark⟩, .key _⟩
  | number hfits => exact ⟨_, reads_number _ hfits, .number _ _⟩
  | any => exact ⟨_, .any, .any⟩
  | self => exact ⟨_, .self, .self⟩

/-- Only text keys have brackets in their text. -/
theorem bare_characters (hkey : ∀ name, segment ≠ .key name) (h : segment.IsDisplayable) :
    ∀ c ∈ segment.characters, c ≠ '[' ∧ c ≠ ']' := by
  cases h with
  | key => exact absurd rfl (hkey _)
  | @number i x _ =>
    have hmark : ∀ c ∈ numberMark.toList, c ≠ '[' ∧ c ≠ ']' :=
      List.all_iff_forall_prop.1 (by decide)
    intro c hc
    rw [characters_number] at hc
    rcases List.mem_append.1 hc with hc | hc
    · exact hmark c hc
    · exact (Numeral.writes_integerText i).bare c hc
  | any => exact List.all_iff_forall_prop.1 (by decide)
  | self => exact List.all_iff_forall_prop.1 (by decide)

/-- The brackets of a segment match, so that it can stand in brackets. -/
theorem IsDisplayable.balanced (h : segment.IsDisplayable) : Balanced 0 segment.characters := by
  by_cases hkey : ∃ name, segment = .key name
  · obtain ⟨name, rfl⟩ := hkey
    cases h with
    | key hbalanced => exact hbalanced
  · exact balanced_of_bare (bare_characters (fun name heq => hkey ⟨name, heq⟩) h)

theorem exists_readsBack (h : ∀ segment ∈ segments, segment.IsDisplayable) :
    ∃ reads, List.Forall₂ Reads (segments.map characters) reads ∧
      List.Forall₂ ReadsBack segments reads := by
  induction segments with
  | nil => exact ⟨[], .nil, .nil⟩
  | cons segment segments ih =>
    obtain ⟨hfirst, hrest⟩ := List.forall_mem_cons.1 h
    obtain ⟨read, hread, hback⟩ := hfirst.reads
    obtain ⟨reads, hreads, hbacks⟩ := ih hrest
    exact ⟨read :: reads, .cons hread hreads, .cons hback hbacks⟩

end Segment

/-! ## Whole paths -/

namespace FieldPath

/-- A path that can be told from its text: each segment can, and a text key in front has no brackets
at all and is empty only if it stands alone. -/
structure Displayable (path : FieldPath) : Prop where
  nonempty : path.segments ≠ []
  segments : ∀ segment ∈ path.segments, segment.IsDisplayable
  head : ∀ name rest, path.segments = .key name :: rest →
    (∀ c ∈ name.toList, c ≠ '[' ∧ c ≠ ']') ∧ (name = "" → rest = [])

/-- The text of such a path is written as a head, keys in brackets and nothing behind them. -/
theorem Displayable.writtenAs {first : Segment} {rest : List Segment}
    (h : Displayable ⟨first :: rest⟩) :
    WrittenAs (display ⟨first :: rest⟩).toList first.characters (rest.map Segment.characters)
      [] where
  text_eq := by rw [toList_display, List.append_nil]
  head_bare := by
    by_cases hkey : ∃ name, first = .key name
    · obtain ⟨name, rfl⟩ := hkey
      exact (h.head name rest rfl).1
    · exact Segment.bare_characters (fun name heq => hkey ⟨name, heq⟩)
        (h.segments first List.mem_cons_self)
  keys_balanced := List.forall_mem_map.2 fun segment hsegment =>
    (h.segments segment (List.mem_cons_of_mem first hsegment)).balanced
  blanks_blank := nofun
  blanks_nil := fun _ => rfl

/-- No part of such a path is left out. -/
theorem Displayable.parts_eq {first : Segment} {rest : List Segment}
    (h : Displayable ⟨first :: rest⟩) :
    parts first.characters (rest.map Segment.characters) =
      (first :: rest).map Segment.characters := by
  refine if_neg ?_
  rintro ⟨hempty, hrest⟩
  cases h.segments first List.mem_cons_self with
  | @key name _ _ _ _ =>
    have hname : name = "" := String.toList_injective hempty
    rw [(h.head name rest rfl).2 hname] at hrest
    exact hrest rfl
  | number =>
    rw [Segment.characters_number] at hempty
    cases hempty
  | any => cases hempty
  | self => cases hempty

/-- **A path that can be told from its text is read back from it**, with as many segments, of the
same kinds and in the same order, with the same texts and indices. -/
theorem parse_display (h : path.Displayable) :
    ∃ read, parse path.display.toList = .ok read ∧
      List.Forall₂ Segment.ReadsBack path.segments read.segments := by
  obtain ⟨segments⟩ := path
  obtain ⟨first, rest, rfl⟩ := List.exists_cons_of_ne_nil h.nonempty
  obtain ⟨reads, hreads, hbacks⟩ := Segment.exists_readsBack h.segments
  rw [← h.parts_eq] at hreads
  exact ⟨⟨reads⟩, h.writtenAs.parse_eq hreads, hbacks⟩

/-- A key with brackets of its own, the smallest index, and both special segments. -/
theorem parse_display_nested :
    let path : FieldPath := ⟨[.key "pos", .key "a[b]", .number (some (-9223372036854775808)) .nan,
      .any, .self]⟩
    path.Displayable ∧ path.display = "pos[a[b]][d_$-9223372036854775808][$ANY][$SELF]" ∧
      ∃ read, parse path.display.toList = .ok read ∧
        List.Forall₂ Segment.ReadsBack path.segments read.segments := by
  intro path
  have hbare : ∀ c ∈ "pos".toList, c ≠ '[' ∧ c ≠ ']' := List.all_iff_forall_prop.1 (by decide)
  have hnested : Balanced 0 "a[b]".toList := by simp [balanced_cons_iff, balanced_nil_iff]
  have hpath : path.Displayable := by
    refine ⟨List.cons_ne_nil _ _, ?_, ?_⟩
    · simp only [path, List.forall_mem_cons]
      exact ⟨.key (balanced_of_bare hbare) (by decide) (by decide) (by decide),
        .key hnested (by decide) (by decide) (by decide), .number (by decide), .any, .self, nofun⟩
    · rintro name rest ⟨⟩
      exact ⟨hbare, nofun⟩
  exact ⟨hpath, by rfl, parse_display hpath⟩

end FieldPath

end RecordQuery

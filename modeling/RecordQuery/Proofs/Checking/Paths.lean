import RecordQuery.Proofs.Checking.Operations
import RecordQuery.Proofs.Paths.Failing

/-!
# Reading a path by index

A path may be read in place: a key is the part of the text between an opening bracket and the one
that closes it, and to find the latter a counter goes up and down with the brackets.  The search ends
where the counter comes back to zero, so it is never lowered below.

* `closing?`, `FieldPath.keysChecked`, `FieldPath.parseChecked` — the reader by index, from checked
  operations;
* `closes` — **the counter is never lowered below zero**, and the bracket that it finds ends the key
  for the reader of a path too;
* `FieldPath.parseChecked_eq` — **no operation fails, and the result is that of `FieldPath.parse`**.
-/

namespace RecordQuery

namespace FieldPath

/-! ## The reader by index -/

/-- The place of the bracket that closes the first one, if there is one.  The text starts at a place,
behind so many open brackets. -/
def closing? (index depth : ℕ) : List Char → Option (Option ℕ)
  | [] => some none
  | c :: cs =>
    if c = '[' then closing? (index + 1) (depth + 1) cs
    else if c = ']' then do
      let depth ← Checked.minus? depth 1
      if depth = 0 then some (some index) else closing? (index + 1) depth cs
    else closing? (index + 1) depth cs

theorem le_of_closing? {index depth close : ℕ} {cs : List Char}
    (h : closing? index depth cs = some (some close)) : index ≤ close := by
  induction cs generalizing index depth with
  | nil => cases h
  | cons c cs ih =>
    rw [closing?] at h
    split_ifs at h
    · exact Nat.le_of_succ_le (ih h)
    · obtain ⟨depth', _, h⟩ := Option.bind_eq_some_iff.1 h
      split_ifs at h
      · cases h
        exact Nat.le_refl _
      · exact Nat.le_of_succ_le (ih h)
    · exact Nat.le_of_succ_le (ih h)

/-- Reads the keys in brackets from a place on. -/
def keysChecked (text : List Char) (start : ℕ) : Checked PathError (List Segment) :=
  if _hstart : start < text.length then do
    let c ← Checked.need text[start]?
    if c = '[' then
      match _hclose : closing? start 0 (text.drop start) with
      | none => Checked.need none
      | some none => do
        let length ← Checked.need (Checked.minus? text.length start)
        .of (.error ⟨.neverClosed, start, length⟩)
      | some (some close) => do
        let key ← Checked.need (Checked.slice? text (start + 1) close)
        let segment ← .of (Segment.parse key (start + 1))
        let others ← keysChecked text (close + 1)
        .of (.ok (segment :: others))
    else do
      let rest ← Checked.need (Checked.slice? text start text.length)
      if rest.all Text.isBlank then .of (.ok [])
      else do
        let length ← Checked.need (Checked.minus? text.length start)
        .of (.error ⟨.trailing, start, length⟩)
  else .of (.ok [])
termination_by text.length - start
decreasing_by
  have := le_of_closing? _hclose
  omega

/-- Reads a path. -/
def parseChecked (text : List Char) : Checked PathError FieldPath := do
  let stop := text.findIdx (· == '[')
  let head ← Checked.need (Checked.slice? text 0 stop)
  match head.findIdx? (· == ']') with
  | some offset => .of (.error ⟨.strayClose, offset, 1⟩)
  | none =>
    if 0 < stop ∨ stop = text.length then do
      let head ← Checked.need (Checked.slice? text 0 stop)
      let first ← .of (Segment.parse head 0)
      let segments ← keysChecked text stop
      .of (.ok ⟨first :: segments⟩)
    else do
      let segments ← keysChecked text stop
      .of (.ok ⟨segments⟩)

/-! ## Keys -/

/-- What the search for the closing bracket says of a text, and what the reader of a key does with
it: either no bracket closes the key, or one does and the key is what stands in front of it. -/
def Closes (offset depth : ℕ) (cs : List Char) : Prop :=
  (closing? offset (depth + 1) cs = some none ∧ ∀ opened key,
    parseKey opened offset depth key cs =
      .error ⟨.neverClosed, opened, offset + cs.length - opened⟩) ∨
  ∃ inside behind, cs = inside ++ ']' :: behind ∧
    closing? offset (depth + 1) cs = some (some (offset + inside.length)) ∧
    ∀ opened key, parseKey opened offset depth key cs = (do
      let segment ← Segment.parse (key.reverse ++ inside) (opened + 1)
      let others ← parseKeys (offset + inside.length + 1) behind
      .ok (segment :: others))

/-- A character that does not close the key belongs to it. -/
theorem Closes.cons {offset depth depth' : ℕ} {c : Char} {cs : List Char}
    (h : Closes (offset + 1) depth' cs)
    (hclosing : closing? offset (depth + 1) (c :: cs) = closing? (offset + 1) (depth' + 1) cs)
    (hkey : ∀ opened key, parseKey opened offset depth key (c :: cs) =
      parseKey opened (offset + 1) depth' (c :: key) cs) :
    Closes offset depth (c :: cs) := by
  rcases h with ⟨hnone, hread⟩ | ⟨inside, behind, rfl, hsome, hread⟩
  · refine .inl ⟨hclosing.trans hnone, fun opened key => ?_⟩
    rw [hkey, hread, List.length_cons, Nat.add_right_comm, Nat.add_assoc]
  · have hplace : offset + 1 + inside.length = offset + (c :: inside).length := by
      rw [List.length_cons]
      omega
    refine .inr ⟨c :: inside, behind, rfl, ?_, fun opened key => ?_⟩
    · rw [hclosing, hsome, hplace]
    · rw [hkey, hread, hplace, List.reverse_cons, List.append_assoc, List.singleton_append]

/-- **The counter of open brackets is never lowered below zero**, and what it finds is what the
reader of a key finds. -/
theorem closes (offset depth : ℕ) (cs : List Char) : Closes offset depth cs := by
  induction cs generalizing offset depth with
  | nil => exact .inl ⟨rfl, fun _ _ => rfl⟩
  | cons c cs ih =>
    by_cases hopen : c = '['
    · refine (ih (offset + 1) (depth + 1)).cons ?_ fun opened key => ?_
      · rw [closing?, if_pos hopen]
      · rw [parseKey.eq_def]
        exact if_pos hopen
    · by_cases hclose : c = ']'
      · have hlower : closing? offset (depth + 1) (c :: cs) =
            if depth = 0 then some (some offset) else closing? (offset + 1) depth cs := by
          rw [closing?, if_neg hopen, if_pos hclose, Checked.minus?_add]
          rfl
        cases depth with
        | zero =>
          refine .inr ⟨[], cs, by rw [hclose]; rfl, hlower, fun opened key => ?_⟩
          rw [parseKey, if_neg hopen, if_pos hclose, List.append_nil, List.length_nil]
        | succ depth =>
          refine (ih (offset + 1) depth).cons hlower fun opened key => ?_
          rw [parseKey, if_neg hopen, if_pos hclose]
      · refine (ih (offset + 1) depth).cons ?_ fun opened key => ?_
        · rw [closing?, if_neg hopen, if_neg hclose]
        · rw [parseKey.eq_def]
          dsimp only
          rw [if_neg hopen, if_neg hclose]

/-- With an index behind the part that was read, the keys are read as they are from character to
character. -/
theorem keysChecked_append (front rest : List Char) :
    keysChecked (front ++ rest) front.length = .of (parseKeys front.length rest) := by
  cases rest with
  | nil => rw [keysChecked, dif_neg (by simp), parseKeys]
  | cons c cs =>
    have hstart : front.length < (front ++ c :: cs).length := by
      rw [List.length_append, List.length_cons]
      omega
    have hlength : Checked.minus? (front ++ c :: cs).length front.length = some (cs.length + 1) := by
      rw [List.length_append, Nat.add_comm, Checked.minus?_add, List.length_cons]
    rw [keysChecked, dif_pos hstart, Checked.getElem?_between, Checked.need_some_bind, parseKeys]
    split_ifs with hopen hblank
    · have hsearch : closing? front.length 0 ((front ++ c :: cs).drop front.length) =
          closing? (front.length + 1) 1 cs := by
        rw [List.drop_left, closing?, if_pos hopen]
      rcases closes (front.length + 1) 0 cs with
        ⟨hnone, hread⟩ | ⟨inside, behind, hsplit, hsome, hread⟩
      · rw [hread]
        split
        · rename_i hclose
          rw [hsearch, hnone] at hclose
          cases hclose
        · have hspan : cs.length + 1 = front.length + 1 + cs.length - front.length := by omega
          rw [hlength, Checked.need_some_bind, hspan]
        · rename_i close hclose
          rw [hsearch, hnone] at hclose
          cases hclose
      · rw [hread]
        split
        · rename_i hclose
          rw [hsearch, hsome] at hclose
          cases hclose
        · rename_i hclose
          rw [hsearch, hsome] at hclose
          cases hclose
        · rename_i close hclose
          rw [hsearch, hsome] at hclose
          cases hclose
          have hkey : Checked.slice? (front ++ c :: cs) (front.length + 1)
              (front.length + 1 + inside.length) = some inside := by
            have hslice := Checked.slice?_append (front ++ [c]) inside (']' :: behind)
            rwa [List.length_append, List.length_singleton, List.append_assoc,
              List.singleton_append, ← hsplit] at hslice
          have hshorter : behind.length < cs.length + 1 := by
            rw [hsplit, List.length_append, List.length_cons]
            omega
          have hothers : keysChecked (front ++ c :: cs) (front.length + 1 + inside.length + 1) =
              .of (parseKeys (front.length + 1 + inside.length + 1) behind) := by
            have hmore := keysChecked_append (front ++ c :: (inside ++ [']'])) behind
            have hplace : (front ++ c :: (inside ++ [']'])).length =
                front.length + 1 + inside.length + 1 := by
              simp only [List.length_append, List.length_cons, List.length_nil]
              omega
            rwa [hplace, List.append_assoc, List.cons_append, List.append_assoc,
              List.singleton_append, ← hsplit] at hmore
          rw [hkey, Checked.need_some_bind, hothers]
          refine Checked.of_bind fun segment => ?_
          exact Checked.of_bind fun others => rfl
    · rw [Checked.slice?_drop (Nat.le_of_lt hstart), List.drop_left, Checked.need_some_bind,
        if_pos hblank]
    · rw [Checked.slice?_drop (Nat.le_of_lt hstart), List.drop_left, Checked.need_some_bind,
        if_neg hblank, hlength, Checked.need_some_bind]
termination_by rest.length
decreasing_by exact hshorter

/-! ## Paths -/

theorem findIdx_eq_length_takeWhile {α : Type} (p : α → Bool) (xs : List α) :
    xs.findIdx p = (xs.takeWhile (!p ·)).length := by
  induction xs with
  | nil => rfl
  | cons x xs ih =>
    rw [List.findIdx_cons, List.takeWhile_cons]
    cases p x with
    | true => rfl
    | false =>
      simpa using ih

/-- The place of a character that the text holds. -/
theorem findIdx?_of_contains {c : Char} {cs : List Char} (h : cs.contains c) :
    cs.findIdx? (· == c) = some (cs.takeWhile (· != c)).length := by
  rw [List.findIdx?_eq_some_iff_findIdx_eq, findIdx_eq_length_takeWhile]
  exact ⟨length_takeWhile_lt h, rfl⟩

theorem findIdx?_of_not_contains {c : Char} {cs : List Char} (h : ¬ cs.contains c) :
    cs.findIdx? (· == c) = none := by
  rw [List.findIdx?_eq_none_iff]
  intro d hd
  rw [beq_eq_false_iff_ne]
  rintro rfl
  exact h (by simpa using hd)

/-- **No operation of the reader by index fails**, and it reads the same path. -/
theorem parseChecked_eq (text : List Char) : parseChecked text = .of (parse text) := by
  have hstop : text.findIdx (· == '[') = (text.takeWhile (· != '[')).length :=
    findIdx_eq_length_takeWhile _ text
  have hsplit : text.takeWhile (· != '[') ++ text.dropWhile (· != '[') = text :=
    List.takeWhile_append_dropWhile
  simp only [parseChecked, parse, hstop]
  generalize text.takeWhile (· != '[') = head at hsplit
  generalize text.dropWhile (· != '[') = keys at hsplit
  subst hsplit
  have hhead : Checked.slice? (head ++ keys) 0 head.length = some head := by
    rw [Checked.slice?_take (by simp), List.take_left]
  rw [hhead, Checked.need_some_bind, keysChecked_append]
  by_cases hstray : head.contains ']'
  · rw [findIdx?_of_contains hstray, if_pos hstray]
  · rw [findIdx?_of_not_contains hstray, if_neg hstray]
    dsimp only
    -- the head is left out just if it is empty and a key follows
    have hkept : (0 < head.length ∨ head.length = (head ++ keys).length) ↔
        ¬ (head.isEmpty && !keys.isEmpty) := by
      cases head <;> cases keys <;> simp
    split_ifs with hkeep hbare hbare
    · exact absurd hbare (hkept.1 hkeep)
    · rw [Checked.need_some_bind]
      refine Checked.of_bind fun first => ?_
      exact Checked.of_bind fun segments => rfl
    · rw [Bool.and_eq_true, List.isEmpty_iff] at hbare
      rw [hbare.1]
      exact Checked.of_bind fun segments => rfl
    · exact absurd (hkept.2 hbare) hkeep

end FieldPath

end RecordQuery

import RecordQuery.Number.Numeral
import RecordQuery.Number.Plain
import RecordQuery.Proofs.Lexing.Spelling
import RecordQuery.Proofs.Numbers.Decimals

/-!
# Texts of integers

An integer may be written with any number of digits, and with either sign in front or none.  Only
those that fit 64 bits are read as integers, but all of them are read as doubles.

* `Text.trim_between`, `Text.exists_trim` — a text without the blanks at its ends;
* `Numeral.Writes`, `Numeral.Writes.unique` — **the texts of an integer**, of whatever size;
* `Numeral.integer?_eq_some_iff` — they are read back if they fit, and nothing else is;
* `Numeral.Writes.double?` — they are read as doubles if they fit or not;
* `Numeral.writes_integerText`, `Numeral.double?_integerText` — the digits of an integer are such a
  text, and are read as the double nearest to it.
-/

namespace RecordQuery

/-! ## Blanks at the ends -/

namespace Text

variable {front cs behind : List Char}

/-- Between blanks, a text that neither starts nor ends with one is what is left. -/
theorem trim_between (hne : cs ≠ []) (hfront : ∀ c ∈ front, isBlank c)
    (hbehind : ∀ c ∈ behind, isBlank c) (hfirst : ∀ c ∈ cs.head?, ¬ isBlank c)
    (hlast : ∀ c ∈ cs.getLast?, ¬ isBlank c) :
    trim (front ++ (cs ++ behind)) = cs := by
  have hstart : ∀ c ∈ (cs ++ behind).head?, ¬ isBlank c := by
    obtain ⟨d, ds, rfl⟩ := List.exists_cons_of_ne_nil hne
    exact hfirst
  have hstop : ∀ c ∈ cs.reverse.head?, ¬ isBlank c := by
    intro c hc
    rw [List.head?_reverse] at hc
    exact hlast c hc
  have hreversed : ∀ c ∈ behind.reverse, isBlank c := fun c hc => hbehind c (List.mem_reverse.1 hc)
  rw [trim, dropWhile_append_stop hfront hstart, List.reverse_append,
    dropWhile_append_stop hreversed hstop, List.reverse_reverse]

/-- A text without blanks is left as it is. -/
theorem trim_of_not_blank (h : ∀ c ∈ cs, ¬ isBlank c) : trim cs = cs := by
  cases cs with
  | nil => rfl
  | cons c cs =>
    have hnone : ∀ d ∈ ([] : List Char), isBlank d := nofun
    have htrim := trim_between (List.cons_ne_nil c cs) hnone hnone
      (fun d hd => h d (List.mem_of_head? hd)) (fun d hd => h d (List.mem_of_getLast? hd))
    rwa [List.append_nil] at htrim

/-- What is dropped are blanks. -/
theorem exists_trim (cs : List Char) :
    ∃ front behind, cs = front ++ (trim cs ++ behind) ∧ (∀ c ∈ front, isBlank c) ∧
      ∀ c ∈ behind, isBlank c := by
  have hsplit := congrArg List.reverse
    (List.takeWhile_append_dropWhile (p := isBlank) (l := (cs.dropWhile isBlank).reverse))
  rw [List.reverse_append, List.reverse_reverse] at hsplit
  refine ⟨cs.takeWhile isBlank, ((cs.dropWhile isBlank).reverse.takeWhile isBlank).reverse, ?_,
    fun _ => List.mem_takeWhile_imp, fun c hc => List.mem_takeWhile_imp (List.mem_reverse.1 hc)⟩
  rw [trim, hsplit, List.takeWhile_append_dropWhile]

end Text

namespace Numeral

variable {text body ds : List Char} {c : Char} {n : ℕ} {z z' : ℤ}

/-! ## Digits -/

theorem not_isDigit_of_isBlank (h : Text.isBlank c) : ¬ c.isDigit := by
  intro hdigit
  have hlow : 48 ≤ c.toNat := (Char.isDigit_iff_toNat.1 hdigit).1
  have hhigh : c.toNat ≤ 57 := (Char.isDigit_iff_toNat.1 hdigit).2
  unfold Text.isBlank at h
  generalize c.toNat = code at h hlow hhigh
  simp only [Bool.or_eq_true, Bool.and_eq_true, decide_eq_true_eq, beq_iff_eq] at h
  omega

theorem toLower_of_isDigit (h : c.isDigit) : c.toLower = c := by
  have hhigh : c.toNat ≤ 57 := (Char.isDigit_iff_toNat.1 h).2
  unfold Char.toLower
  refine dif_neg fun hupper => ?_
  have hlow : 65 ≤ c.toNat := hupper.1
  omega

theorem digits_of_all (h : text.all Char.isDigit) : digits text = (text, []) := by
  rw [List.all_eq_true] at h
  unfold digits
  rw [List.takeWhile_eq_self_iff.2 h, List.dropWhile_eq_nil_iff.2 h]

theorem isDigit_of_mem_toDigits (n : ℕ) : ∀ d ∈ Nat.toDigits 10 n, d.isDigit := fun _ =>
  Nat.isDigit_of_mem_toDigits (by decide) (by decide)

theorem value_toDigits (n : ℕ) : value (Nat.toDigits 10 n) = n := Nat.ofDigitChars_ten_toDigits

theorem natural?_eq_some_iff :
    natural? ds = some n ↔ ds ≠ [] ∧ (∀ d ∈ ds, d.isDigit) ∧ n = value ds := by
  have hunreadable : (ds.isEmpty || !ds.all Char.isDigit) = true ↔
      ¬ (ds ≠ [] ∧ ∀ d ∈ ds, d.isDigit) := by
    rw [Bool.or_eq_true, List.isEmpty_iff, Bool.not_eq_true', ← Bool.not_eq_true, List.all_eq_true]
    tauto
  unfold natural?
  by_cases h : ds ≠ [] ∧ ∀ d ∈ ds, d.isDigit
  · rw [if_neg (mt hunreadable.1 (not_not_intro h)), Option.some_inj]
    exact ⟨fun hn => ⟨h.1, h.2, hn.symm⟩, fun hn => hn.2.2.symm⟩
  · rw [if_pos (hunreadable.2 h)]
    exact ⟨nofun, fun hn => absurd ⟨hn.1, hn.2.1⟩ h⟩

/-! ## Integers of any size -/

/-- The texts of an integer: one digit or more, with a sign in front or none. -/
inductive Writes : List Char → ℤ → Prop
  | plain {ds : List Char} : ds ≠ [] → (∀ d ∈ ds, d.isDigit) → Writes ds (value ds)
  | plus {ds : List Char} : ds ≠ [] → (∀ d ∈ ds, d.isDigit) → Writes ('+' :: ds) (value ds)
  | minus {ds : List Char} : ds ≠ [] → (∀ d ∈ ds, d.isDigit) → Writes ('-' :: ds) (-(value ds))

theorem Writes.ne_nil (h : Writes text z) : text ≠ [] := by
  cases h with
  | plain hne _ => exact hne
  | plus => exact List.cons_ne_nil _ _
  | minus => exact List.cons_ne_nil _ _

/-- The text of an integer has digits and signs only. -/
theorem Writes.digit_or_sign (h : Writes text z) :
    ∀ c ∈ text, c.isDigit ∨ c = '+' ∨ c = '-' := by
  intro c hc
  cases h with
  | plain _ hall => exact .inl (hall c hc)
  | plus _ hall =>
    rcases List.mem_cons.1 hc with hsign | hc
    · exact .inr (.inl hsign)
    · exact .inl (hall c hc)
  | minus _ hall =>
    rcases List.mem_cons.1 hc with hsign | hc
    · exact .inr (.inr hsign)
    · exact .inl (hall c hc)

theorem Writes.not_blank (h : Writes text z) : ∀ c ∈ text, ¬ Text.isBlank c := by
  intro c hc
  rcases h.digit_or_sign c hc with hdigit | rfl | rfl
  · exact fun hblank => not_isDigit_of_isBlank hblank hdigit
  · decide
  · decide

/-- A sign in front is a minus or a plus. -/
theorem eq_of_sign (text : List Char) :
    (∃ ds, text = '-' :: ds ∧ sign text = (true, ds)) ∨
      (∃ ds, text = '+' :: ds ∧ sign text = (false, ds)) ∨ sign text = (false, text) := by
  unfold sign
  split
  · exact .inl ⟨_, rfl, rfl⟩
  · exact .inr (.inl ⟨_, rfl, rfl⟩)
  · exact .inr (.inr rfl)

/-- Digits have no sign in front. -/
theorem sign_of_digits (h : ∀ d ∈ ds, d.isDigit) : sign ds = (false, ds) := by
  unfold sign
  split
  · exact absurd (h '-' List.mem_cons_self) (by decide)
  · exact absurd (h '+' List.mem_cons_self) (by decide)
  · rfl

/-- An integer is read from its digits once its sign is known. -/
theorem integer?_eq_some_of_sign {negative : Bool} (hsign : sign text = (negative, ds)) :
    integer? text = some z ↔ ds ≠ [] ∧ (∀ d ∈ ds, d.isDigit) ∧
      z = (if negative then -(value ds : ℤ) else value ds) ∧ fits z := by
  have hread : integer? text = (natural? ds).bind fun n =>
      if fits (if negative then -(n : ℤ) else n) then some (if negative then -(n : ℤ) else n)
      else none := by
    unfold integer?
    rw [hsign]
    rfl
  rw [hread, Option.bind_eq_some_iff]
  constructor
  · rintro ⟨n, hn, h⟩
    obtain ⟨hne, hall, rfl⟩ := natural?_eq_some_iff.1 hn
    split_ifs at h with hsigned hfits hfits
    · cases h
      exact ⟨hne, hall, (if_pos hsigned).symm, hfits⟩
    · cases h
      exact ⟨hne, hall, (if_neg hsigned).symm, hfits⟩
  · rintro ⟨hne, hall, rfl, hfits⟩
    exact ⟨value ds, natural?_eq_some_iff.2 ⟨hne, hall, rfl⟩, if_pos hfits⟩

/-- **An integer is read from its texts**, if it fits, and from no others. -/
theorem integer?_eq_some_iff : integer? text = some z ↔ Writes text z ∧ fits z := by
  constructor
  · intro h
    rcases eq_of_sign text with ⟨ds, rfl, hsign⟩ | ⟨ds, rfl, hsign⟩ | hsign
    · obtain ⟨hne, hall, rfl, hfits⟩ := (integer?_eq_some_of_sign hsign).1 h
      exact ⟨.minus hne hall, hfits⟩
    · obtain ⟨hne, hall, rfl, hfits⟩ := (integer?_eq_some_of_sign hsign).1 h
      exact ⟨.plus hne hall, hfits⟩
    · obtain ⟨hne, hall, rfl, hfits⟩ := (integer?_eq_some_of_sign hsign).1 h
      exact ⟨.plain hne hall, hfits⟩
  · rintro ⟨hwrites, hfits⟩
    cases hwrites with
    | plain hne hall =>
      exact (integer?_eq_some_of_sign (sign_of_digits hall)).2 ⟨hne, hall, rfl, hfits⟩
    | plus hne hall => exact (integer?_eq_some_of_sign rfl).2 ⟨hne, hall, rfl, hfits⟩
    | minus hne hall => exact (integer?_eq_some_of_sign rfl).2 ⟨hne, hall, rfl, hfits⟩

/-- A text is the text of one integer only. -/
theorem Writes.unique (h : Writes text z) (h' : Writes text z') : z = z' := by
  have hminus : ∀ {ds : List Char}, ¬ ∀ d ∈ '-' :: ds, d.isDigit := fun hall =>
    absurd (hall '-' List.mem_cons_self) (by decide)
  have hplus : ∀ {ds : List Char}, ¬ ∀ d ∈ '+' :: ds, d.isDigit := fun hall =>
    absurd (hall '+' List.mem_cons_self) (by decide)
  cases h with
  | plain _ hall =>
    cases h' with
    | plain => rfl
    | plus => exact absurd hall hplus
    | minus => exact absurd hall hminus
  | plus =>
    cases h' with
    | plain _ hall => exact absurd hall hplus
    | plus => rfl
  | minus =>
    cases h' with
    | plain _ hall => exact absurd hall hminus
    | minus => rfl

/-- An integer is kept if it fits. -/
theorem Writes.integer?_eq (h : Writes text z) :
    integer? text = if fits z then some z else none := by
  by_cases hfits : fits z
  · rw [if_pos hfits]
    exact integer?_eq_some_iff.2 ⟨h, hfits⟩
  · rw [if_neg hfits, Option.eq_none_iff_forall_ne_some]
    intro z' hz'
    obtain ⟨hwrites, hfits'⟩ := integer?_eq_some_iff.1 hz'
    rw [hwrites.unique h] at hfits'
    exact hfits hfits'

/-- The digits of an integer are a text of it. -/
theorem writes_integerText (z : ℤ) : Writes (integerText z).toList z := by
  have hall := isDigit_of_mem_toDigits z.natAbs
  have hvalue := value_toDigits z.natAbs
  rw [integerText, String.toList_ofList]
  by_cases hsign : z < 0
  · have hwrites := Writes.minus Nat.toDigits_ne_nil hall
    rw [hvalue, Int.ofNat_natAbs_of_nonpos hsign.le, Int.neg_neg] at hwrites
    rwa [if_pos hsign]
  · have hwrites := Writes.plain Nat.toDigits_ne_nil hall
    rw [hvalue, Int.natAbs_of_nonneg (not_lt.1 hsign)] at hwrites
    rwa [if_neg hsign]

/-! ## Integers as doubles -/

theorem magnitude?_of_digits (negative : Bool) (hne : ds ≠ []) (hall : ∀ d ∈ ds, d.isDigit) :
    magnitude? negative ds = some (Double.ofDecimal negative (value ds) 0) := by
  have hdigits : digits ds = (ds, []) := digits_of_all (List.all_eq_true.2 hall)
  unfold magnitude?
  rw [hdigits]
  simp [hne, exponent?]

/-- Without letters a text is none of the words. -/
theorem double?_of_sign {negative : Bool} (hsign : sign text = (negative, body))
    (hbody : ∀ c ∈ body, c.isDigit ∨ c = '.') : double? text = magnitude? negative body := by
  have hlower : body.map Char.toLower = body := by
    calc
      body.map Char.toLower = body.map id := by
        refine List.map_congr_left fun c hc => ?_
        rcases hbody c hc with hdigit | rfl
        · exact toLower_of_isDigit hdigit
        · rfl
      _ = body := List.map_id body
  have hword : ∀ w : String, String.ofList body = w → ∀ c ∈ w.toList, c.isDigit ∨ c = '.' := by
    rintro w rfl
    rwa [String.toList_ofList]
  unfold double?
  rw [hsign]
  dsimp only
  rw [hlower]
  split
  · rename_i hinf
    exact absurd (hword _ hinf 'i' (by decide)) (by decide)
  · rename_i hinfinity
    exact absurd (hword _ hinfinity 'i' (by decide)) (by decide)
  · rename_i hnan
    exact absurd (hword _ hnan 'n' (by decide)) (by decide)
  · rfl

theorem double?_of_digits {negative : Bool} (hsign : sign text = (negative, ds)) (hne : ds ≠ [])
    (hall : ∀ d ∈ ds, d.isDigit) :
    double? text = some (Double.ofDecimal negative (value ds) 0) := by
  rw [double?_of_sign hsign fun d hd => .inl (hall d hd), magnitude?_of_digits negative hne hall]

/-- **Every text of an integer is read as a double**, whatever the size of the integer. -/
theorem Writes.double? (h : Writes text z) : ∃ x, Numeral.double? text = some x := by
  cases h with
  | plain hne hall => exact ⟨_, double?_of_digits (sign_of_digits hall) hne hall⟩
  | plus hne hall => exact ⟨_, double?_of_digits rfl hne hall⟩
  | minus hne hall => exact ⟨_, double?_of_digits rfl hne hall⟩

theorem fits_iff : fits z ↔ -2 ^ 63 ≤ z ∧ z < 2 ^ 63 := by
  unfold fits minInteger maxInteger
  rw [Bool.and_eq_true, decide_eq_true_eq, decide_eq_true_eq]
  omega

/-- **The digits of an integer are read as the double nearest to it.** -/
theorem double?_integerText (z : ℤ) :
    double? (integerText z).toList = some (Double.ofInt z) := by
  have hall := isDigit_of_mem_toDigits z.natAbs
  have hvalue := value_toDigits z.natAbs
  have hsign : sign (integerText z).toList = (decide (z < 0), Nat.toDigits 10 z.natAbs) := by
    rw [integerText, String.toList_ofList]
    by_cases hneg : z < 0
    · rw [if_pos hneg, decide_eq_true hneg]
      rfl
    · rw [if_neg hneg, decide_eq_false hneg]
      exact sign_of_digits hall
  rw [double?_of_digits hsign Nat.toDigits_ne_nil hall, hvalue, Double.ofDecimal_natAbs]

end Numeral

end RecordQuery

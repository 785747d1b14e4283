import RecordQuery.Proofs.Numbers.Numerals

/-!
# Decimal literals

The query language knows fewer texts of numbers than are read as doubles: no plus, no exponent and
none of the words.  A literal is kept here by its parts, from which its value is taken.

* `Numeral.Literal` — a minus or none, digits, and perhaps a point with digits behind it;
* `Numeral.IsLiteral`, `Numeral.isLiteral_iff` — **digits and at most one point are a literal** if
  there is a digit at all;
* `Numeral.isDecimal_iff` — the literals are what is looked for;
* `Numeral.Literal.writes`, `Numeral.Literal.double?_characters` — **a literal is read as what its
  digits denote**, or as the double nearest to that.
-/

namespace RecordQuery.Numeral

variable {text body : List Char}

/-- A decimal literal by its parts. -/
structure Literal where
  /-- Whether there is a minus in front. -/
  negative : Bool
  /-- The digits in front of the point, or all of them. -/
  whole : List Char
  /-- Whether there is a point. -/
  point : Bool
  /-- The digits behind the point. -/
  fraction : List Char
  whole_digits : ∀ d ∈ whole, d.isDigit
  fraction_digits : ∀ d ∈ fraction, d.isDigit
  fraction_nil : point = false → fraction = []
  some_digit : whole ++ fraction ≠ []

theorem isEmpty_and_eq_false_iff {whole fraction : List Char} :
    (whole.isEmpty && fraction.isEmpty) = false ↔ whole ++ fraction ≠ [] := by
  rw [← Bool.not_eq_true, Bool.and_eq_true, List.isEmpty_iff, List.isEmpty_iff,
    ← List.append_eq_nil_iff]

theorem point_not_mem {ds : List Char} (hall : ∀ d ∈ ds, d.isDigit) : '.' ∉ ds := fun hmem =>
  absurd (hall '.' hmem) (by decide)

/-! ## The parts of a literal -/

namespace Literal

/-- The text of a literal behind its sign. -/
def unsigned (l : Literal) : List Char := l.whole ++ if l.point then '.' :: l.fraction else []

/-- The text of a literal. -/
def characters (l : Literal) : List Char := if l.negative then '-' :: l.unsigned else l.unsigned

/-- The integer that the digits denote, if there is no point. -/
def integer (l : Literal) : ℤ := if l.negative then -(value l.whole : ℤ) else value l.whole

/-- The double nearest to what the digits denote. -/
def double (l : Literal) : Double :=
  .ofRatio l.negative (value (l.whole ++ l.fraction)) (10 ^ l.fraction.length)

variable {l : Literal}

theorem unsigned_of_point (h : l.point = true) : l.unsigned = l.whole ++ '.' :: l.fraction := by
  rw [unsigned, if_pos h]

theorem unsigned_of_no_point (h : l.point = false) : l.unsigned = l.whole := by
  rw [unsigned, if_neg (by rw [h]; exact Bool.false_ne_true), List.append_nil]

/-- Behind the sign there are digits and perhaps a point. -/
theorem digit_or_point (l : Literal) : ∀ c ∈ l.unsigned, c.isDigit ∨ c = '.' := by
  intro c hc
  cases hpoint : l.point with
  | false =>
    rw [unsigned_of_no_point hpoint] at hc
    exact .inl (l.whole_digits c hc)
  | true =>
    rw [unsigned_of_point hpoint] at hc
    rcases List.mem_append.1 hc with hc | hc
    · exact .inl (l.whole_digits c hc)
    · rcases List.mem_cons.1 hc with rfl | hc
      · exact .inr rfl
      · exact .inl (l.fraction_digits c hc)

theorem sign_characters (l : Literal) : sign l.characters = (l.negative, l.unsigned) := by
  unfold characters
  cases l.negative with
  | true => rfl
  | false =>
    rw [if_neg Bool.false_ne_true]
    -- without a minus the text starts with a digit or a point
    rcases eq_of_sign l.unsigned with ⟨ds, hunsigned, _⟩ | ⟨ds, hunsigned, _⟩ | hsign
    · exact absurd (l.digit_or_point '-' (hunsigned ▸ List.mem_cons_self)) (by decide)
    · exact absurd (l.digit_or_point '+' (hunsigned ▸ List.mem_cons_self)) (by decide)
    · exact hsign

/-- In the text of a literal there are a minus, digits and a point at most. -/
theorem of_mem_characters {c : Char} (h : c ∈ l.characters) : c = '-' ∨ c.isDigit ∨ c = '.' := by
  unfold characters at h
  cases hnegative : l.negative with
  | true =>
    rw [hnegative, if_pos rfl] at h
    exact (List.mem_cons.1 h).imp_right (l.digit_or_point c)
  | false =>
    rw [hnegative, if_neg Bool.false_ne_true] at h
    exact .inr (l.digit_or_point c h)

/-- There is a point in the text just if the literal has one. -/
theorem point_mem_characters (l : Literal) : '.' ∈ l.characters ↔ l.point = true := by
  have hunsigned : '.' ∈ l.unsigned ↔ l.point = true := by
    cases hpoint : l.point with
    | false =>
      rw [unsigned_of_no_point hpoint]
      exact iff_of_false (point_not_mem l.whole_digits) Bool.false_ne_true
    | true =>
      rw [unsigned_of_point hpoint]
      exact iff_of_true (List.mem_append_right _ List.mem_cons_self) rfl
  unfold characters
  cases l.negative with
  | true => rw [if_pos rfl, List.mem_cons, hunsigned, or_iff_right (by decide)]
  | false => rw [if_neg Bool.false_ne_true, hunsigned]

theorem whole_ne_nil (h : l.point = false) : l.whole ≠ [] := by
  have hsome := l.some_digit
  rwa [l.fraction_nil h, List.append_nil] at hsome

/-- Without a point, a literal is the text of an integer. -/
theorem writes (h : l.point = false) : Writes l.characters l.integer := by
  have hne := whole_ne_nil h
  unfold characters integer
  rw [unsigned_of_no_point h]
  cases l.negative with
  | true => exact .minus hne l.whole_digits
  | false => exact .plain hne l.whole_digits

theorem digits_of_point (h : l.point = true) :
    digits l.unsigned = (l.whole, '.' :: l.fraction) := by
  have hstop : ∀ c ∈ ('.' :: l.fraction).head?, ¬ c.isDigit := by
    rintro c ⟨⟩
    decide
  rw [unsigned_of_point h, digits, takeWhile_append_stop l.whole_digits hstop,
    dropWhile_append_stop l.whole_digits hstop]

theorem ofDecimal_fraction (l : Literal) :
    Double.ofDecimal l.negative (value (l.whole ++ l.fraction)) (-l.fraction.length) =
      l.double := by
  have hnone : (-(l.fraction.length : ℤ)).toNat = 0 := by omega
  have hplaces : (-(-(l.fraction.length : ℤ))).toNat = l.fraction.length := by omega
  rw [Double.ofDecimal_eq, hnone, hplaces, Nat.pow_zero, Nat.mul_one, double]

theorem magnitude?_unsigned (l : Literal) : magnitude? l.negative l.unsigned = some l.double := by
  rw [← ofDecimal_fraction]
  cases hpoint : l.point with
  | false =>
    rw [unsigned_of_no_point hpoint, l.fraction_nil hpoint, List.append_nil]
    exact magnitude?_of_digits l.negative (whole_ne_nil hpoint) l.whole_digits
  | true =>
    have hfraction : digits l.fraction = (l.fraction, []) :=
      digits_of_all (List.all_eq_true.2 l.fraction_digits)
    unfold magnitude?
    rw [digits_of_point hpoint, ← Int.zero_sub]
    simp only [hfraction, isEmpty_and_eq_false_iff.2 l.some_digit, exponent?]
    rfl

/-- **A literal is read as the double nearest to it.** -/
theorem double?_characters (l : Literal) : double? l.characters = some l.double := by
  rw [double?_of_sign l.sign_characters l.digit_or_point, l.magnitude?_unsigned]

end Literal

/-! ## The texts of literals -/

/-- An optional minus, then digits with at most one point and at least one digit. -/
def IsLiteral (text : List Char) : Prop :=
  ∃ body, (text = body ∨ text = '-' :: body) ∧ (∀ c ∈ body, c.isDigit ∨ c = '.') ∧
    body.count '.' ≤ 1 ∧ ∃ c ∈ body, c.isDigit

/-- The minus in front of a literal may be left out. -/
theorem isDecimal_minus (h : ∀ body, text ≠ '-' :: body) :
    isDecimal ('-' :: text) = isDecimal text := by
  conv_rhs => unfold isDecimal
  split
  · exact absurd rfl (h _)
  · rfl

/-- What is looked for behind the sign has the parts of a literal. -/
theorem exists_literal_of_isDecimal (negative : Bool) (h : isDecimal ('-' :: body)) :
    ∃ l : Literal, l.negative = negative ∧ l.unsigned = body := by
  have hbody : (digits body).1 ++ (digits body).2 = body := List.takeWhile_append_dropWhile
  have hwhole : ∀ d ∈ (digits body).1, d.isDigit := fun _ => List.mem_takeWhile_imp
  cases hdigits : digits body with
  | mk whole rest =>
    rw [hdigits] at hbody hwhole
    simp only [isDecimal, hdigits] at h
    cases rest with
    | nil =>
      have hne : whole ++ [] ≠ [] := by
        rw [List.append_nil]
        simpa using h
      exact ⟨⟨negative, whole, false, [], hwhole, nofun, fun _ => rfl, hne⟩, rfl, hbody⟩
    | cons c fraction =>
      rw [Bool.and_eq_true, Bool.and_eq_true, beq_iff_eq, List.all_eq_true, Bool.not_eq_true',
        isEmpty_and_eq_false_iff] at h
      obtain ⟨⟨rfl, hfraction⟩, hsome⟩ := h
      exact ⟨⟨negative, whole, true, fraction, hwhole, hfraction, nofun, hsome⟩, rfl, hbody⟩

theorem literal_of_isDecimal (h : isDecimal text) : ∃ l : Literal, l.characters = text := by
  by_cases hminus : ∃ body, text = '-' :: body
  · obtain ⟨body, rfl⟩ := hminus
    obtain ⟨l, hnegative, rfl⟩ := exists_literal_of_isDecimal true h
    exact ⟨l, by rw [Literal.characters, hnegative, if_pos rfl]⟩
  · have hminus := not_exists.1 hminus
    rw [← isDecimal_minus hminus] at h
    obtain ⟨l, hnegative, rfl⟩ := exists_literal_of_isDecimal false h
    exact ⟨l, by rw [Literal.characters, hnegative, if_neg Bool.false_ne_true]⟩

theorem Literal.isLiteral (l : Literal) : IsLiteral l.characters := by
  refine ⟨l.unsigned, ?_, l.digit_or_point, ?_, ?_⟩
  · unfold Literal.characters
    cases l.negative with
    | true => exact .inr rfl
    | false => exact .inl rfl
  · have hwhole := List.count_eq_zero.2 (point_not_mem l.whole_digits)
    have hfraction := List.count_eq_zero.2 (point_not_mem l.fraction_digits)
    cases hpoint : l.point with
    | false =>
      rw [unsigned_of_no_point hpoint, hwhole]
      decide
    | true =>
      rw [unsigned_of_point hpoint, List.count_append, List.count_cons_self, hwhole, hfraction]
  · obtain ⟨d, hd⟩ := List.exists_mem_of_ne_nil _ l.some_digit
    rcases List.mem_append.1 hd with hd | hd
    · exact ⟨d, List.mem_append_left _ hd, l.whole_digits d hd⟩
    · cases hpoint : l.point with
      | false =>
        rw [l.fraction_nil hpoint] at hd
        cases hd
      | true =>
        rw [unsigned_of_point hpoint]
        exact ⟨d, List.mem_append_right _ (List.mem_cons_of_mem _ hd), l.fraction_digits d hd⟩

/-- With one point only, what follows the point are digits. -/
theorem isDecimal_of_count (hall : ∀ c ∈ body, c.isDigit ∨ c = '.') (hcount : body.count '.' ≤ 1)
    (hsome : ∃ c ∈ body, c.isDigit) : isDecimal ('-' :: body) := by
  have hbody : (digits body).1 ++ (digits body).2 = body := List.takeWhile_append_dropWhile
  have hstop : ∀ c ∈ (digits body).2.head?, ¬ c.isDigit := not_head?_dropWhile
  cases hdigits : digits body with
  | mk whole rest =>
    rw [hdigits] at hbody hstop
    dsimp only at hbody hstop
    obtain rfl := hbody
    simp only [isDecimal, hdigits]
    obtain ⟨d, hmem, hd⟩ := hsome
    cases rest with
    | nil =>
      rw [List.append_nil] at hmem
      simpa using List.ne_nil_of_mem hmem
    | cons c fraction =>
      have hc : c = '.' := (hall c (by simp)).resolve_left (hstop c rfl)
      subst hc
      have hnone : '.' ∉ fraction := by
        rw [List.count_append, List.count_cons_self] at hcount
        exact List.count_eq_zero.1 (by omega)
      have hfraction : fraction.all Char.isDigit := List.all_eq_true.2 fun e he =>
        (hall e (by simp [he])).resolve_right fun heq => hnone (heq ▸ he)
      have hne : whole ++ fraction ≠ [] := by
        intro hnil
        obtain ⟨rfl, rfl⟩ := List.append_eq_nil_iff.1 hnil
        rw [List.nil_append, List.mem_singleton] at hmem
        subst hmem
        exact absurd hd (by decide)
      show ('.' == '.' && fraction.all Char.isDigit && !(whole.isEmpty && fraction.isEmpty)) = true
      rw [hfraction, isEmpty_and_eq_false_iff.2 hne]
      rfl

theorem isDecimal_of_isLiteral (h : IsLiteral text) : isDecimal text := by
  obtain ⟨body, htext, hall, hcount, hsome⟩ := h
  have hdecimal := isDecimal_of_count hall hcount hsome
  rcases htext with rfl | rfl
  · rwa [isDecimal_minus] at hdecimal
    rintro body rfl
    exact absurd (hall '-' List.mem_cons_self) (by decide)
  · exact hdecimal

/-- **Digits and at most one point are a literal**, with a minus or none in front. -/
theorem isLiteral_iff : IsLiteral text ↔ ∃ l : Literal, l.characters = text := by
  constructor
  · exact fun h => literal_of_isDecimal (isDecimal_of_isLiteral h)
  · rintro ⟨l, rfl⟩
    exact l.isLiteral

theorem isDecimal_iff : isDecimal text ↔ IsLiteral text := by
  constructor
  · intro h
    obtain ⟨l, rfl⟩ := literal_of_isDecimal h
    exact l.isLiteral
  · exact isDecimal_of_isLiteral

instance : DecidablePred IsLiteral := fun _ => decidable_of_iff _ isDecimal_iff

/-- A point alone, or a sign with it, is no literal. -/
example : IsLiteral "-.5".toList ∧ IsLiteral "-1.".toList ∧ ¬ IsLiteral "-.".toList := by decide

end RecordQuery.Numeral

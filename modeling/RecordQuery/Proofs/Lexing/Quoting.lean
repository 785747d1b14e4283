import Mathlib.Algebra.Group.Nat.Even
import RecordQuery.Token.Lexer

/-!
# Quoted text

Between two quotes, a backslash in front of a quote makes the quote a part of the text, and a
backslash in front of any other character stays together with it.  So not every text can be
written in quotes, and none in two ways.

* `Quotes` — the inside of a quotation and the text that it stands for;
* `read?_of_quotes`, `quotes_of_read?` — **a quotation is read exactly up to the end of its
  inside**;
* `EvenRuns` — every run of backslashes in front of a quote or at the end has even length;
* `evenRuns_of_quotes`, `quotes_escape` — **these are the texts that quotations stand for**;
* `Quotes.eq_escape` — **the inside has a backslash in front of each quote of the text, and nothing
  else besides the text**, so parts of the inside are parts of the text.
-/

namespace RecordQuery

/-- The inside of a quotation, and the text that it stands for. -/
inductive Quotes : List Char → List Char → Prop
  | nil : Quotes [] []
  | quote {cs vs : List Char} : Quotes cs vs → Quotes ('\\' :: '"' :: cs) ('"' :: vs)
  | pair {c : Char} {cs vs : List Char} :
      c ≠ '"' → Quotes cs vs → Quotes ('\\' :: c :: cs) ('\\' :: c :: vs)
  | plain {c : Char} {cs vs : List Char} :
      c ≠ '"' → c ≠ '\\' → Quotes cs vs → Quotes (c :: cs) (c :: vs)

/-! ## Reading a quotation -/

/-- The inside of a quotation is read up to the quote behind it. -/
theorem read?_of_quotes {inside value : List Char} (h : Quotes inside value) (rest : List Char) :
    Quotation.read? (inside ++ '"' :: rest) = some ⟨value, inside.length + 1, rest⟩ := by
  induction h with
  | nil => rfl
  | quote _ ih =>
    rw [List.cons_append, List.cons_append, Quotation.read?, ih]
    simp [Quotation.prepend]
    omega
  | pair hc _ ih =>
    rw [List.cons_append, List.cons_append, Quotation.read?, ih]
    simp [Quotation.prepend, hc]
    omega
  | plain hc hb _ ih =>
    rw [List.cons_append, Quotation.read?, ih]
    · simp [Quotation.prepend]
      omega
    all_goals simp [hc, hb]

/-- What is read is the inside of a quotation. -/
theorem quotes_of_read? {cs : List Char} {q : Quotation} (h : Quotation.read? cs = some q) :
    ∃ inside, cs = inside ++ '"' :: q.rest ∧ Quotes inside q.value ∧
      q.length = inside.length + 1 := by
  fun_induction Quotation.read? cs generalizing q with
  | case1 => cases h
  | case2 cs =>
    cases h
    exact ⟨[], rfl, .nil, rfl⟩
  | case3 => cases h
  | case4 c cs ih =>
    obtain ⟨r, hr, rfl⟩ := Option.map_eq_some_iff.1 h
    obtain ⟨inside, rfl, hq, hl⟩ := ih hr
    by_cases hc : c = '"'
    · subst hc
      refine ⟨'\\' :: '"' :: inside, rfl, .quote hq, ?_⟩
      simp only [Quotation.prepend, hl, List.length_cons]
      omega
    · refine ⟨'\\' :: c :: inside, rfl, ?_, ?_⟩
      · simp only [Quotation.prepend, hc, if_false]
        exact .pair hc hq
      · simp only [Quotation.prepend, hl, List.length_cons]
        omega
  | case5 c cs hc hb hp ih =>
    obtain ⟨r, hr, rfl⟩ := Option.map_eq_some_iff.1 h
    obtain ⟨inside, rfl, hq, hl⟩ := ih hr
    refine ⟨c :: inside, rfl, .plain hc ?_ hq, ?_⟩
    · rintro rfl
      cases inside with
      | nil => exact hp _ _ rfl rfl
      | cons d inside => exact hp _ _ rfl rfl
    · simp only [Quotation.prepend, hl, List.length_cons]
      omega

/-! ## Runs of backslashes -/

/-- Every run of backslashes in front of a quote or at the end has even length. -/
def EvenRuns (value : List Char) : Prop :=
  ∀ before count behind, value = before ++ (List.replicate count '\\' ++ behind) →
    before.getLast? ≠ some '\\' → (∀ c ∈ behind.head?, c = '"') → Even count

theorem evenRuns_nil : EvenRuns [] := by
  intro before count behind h _ _
  have hl := congrArg List.length h
  simp only [List.length_nil, List.length_append, List.length_replicate] at hl
  have hcount : count = 0 := by omega
  rw [hcount]
  exact Even.zero

/-- A character that is no backslash ends no run. -/
theorem evenRuns_cons_iff {c : Char} {vs : List Char} (hc : c ≠ '\\') :
    EvenRuns (c :: vs) ↔ EvenRuns vs := by
  constructor
  · intro h before count behind hv hb hq
    refine h (c :: before) count behind (by rw [hv, List.cons_append]) ?_ hq
    cases before with
    | nil => simpa using hc
    | cons d before => rwa [List.getLast?_cons_cons]
  · intro h before count behind hv hb hq
    cases before with
    | nil =>
      cases count with
      | zero => exact Even.zero
      | succ count =>
        rw [List.nil_append, List.replicate_succ, List.cons_append] at hv
        exact absurd (List.cons.inj hv).1 hc
    | cons d before =>
      rw [List.cons_append] at hv
      refine h before count behind (List.cons.inj hv).2 ?_ hq
      cases before with
      | nil => simp
      | cons e before => rwa [List.getLast?_cons_cons] at hb

/-- A backslash that starts a text is not alone in its run. -/
theorem EvenRuns.behind_backslash {vs : List Char} (h : EvenRuns ('\\' :: vs)) :
    ∃ c cs, vs = c :: cs ∧ c ≠ '"' := by
  have hodd : ¬ ∀ c ∈ vs.head?, c = '"' := fun hq =>
    Nat.not_even_one (h [] 1 vs rfl (by simp) hq)
  cases vs with
  | nil => exact absurd (by simp) hodd
  | cons c cs => exact ⟨c, cs, rfl, fun hc => hodd (by simpa using hc)⟩

/-- Two backslashes more do not change whether a run is even. -/
theorem evenRuns_backslashes_iff {vs : List Char} :
    EvenRuns ('\\' :: '\\' :: vs) ↔ EvenRuns vs := by
  constructor
  · intro h before count behind hv hb hq
    cases before with
    | nil =>
      have heven : Even (count + 2) := h [] (count + 2) behind (by rw [hv]; rfl) (by simp) hq
      exact (Nat.even_add.1 heven).2 (by decide)
    | cons d before =>
      exact h ('\\' :: '\\' :: d :: before) count behind (by rw [hv]; rfl) (by simpa using hb) hq
  · intro h before count behind hv hb hq
    match before, count with
    | [], 0 => exact Even.zero
    | [], 1 =>
      have hbehind : behind = '\\' :: vs := (List.cons.inj hv).2.symm
      rw [hbehind] at hq
      exact absurd (hq '\\' rfl) (by decide)
    | [], count + 2 =>
      have hvs : vs = [] ++ (List.replicate count '\\' ++ behind) :=
        (List.cons.inj (List.cons.inj hv).2).2
      exact (h [] count behind hvs (by simp) hq).add (by decide)
    | [d], count => exact absurd (congrArg some (List.cons.inj hv).1.symm) hb
    | d :: e :: before, count =>
      refine h before count behind (List.cons.inj (List.cons.inj hv).2).2 ?_ hq
      cases before with
      | nil => simp
      | cons f before => simpa using hb

/-- A backslash in front of another character belongs to no run that counts. -/
theorem evenRuns_backslash_iff {c : Char} {vs : List Char} (hq : c ≠ '"') (hb : c ≠ '\\') :
    EvenRuns ('\\' :: c :: vs) ↔ EvenRuns (c :: vs) := by
  constructor
  · intro h before count behind hv hl hh
    match before, count with
    | [], 0 => exact Even.zero
    | [], count + 1 => exact absurd (List.cons.inj hv).1 hb
    | d :: before, count =>
      exact h ('\\' :: d :: before) count behind (by rw [hv]; rfl) (by simpa using hl) hh
  · intro h before count behind hv hl hh
    match before, count with
    | [], 0 => exact Even.zero
    | [], 1 =>
      have hbehind : behind = c :: vs := (List.cons.inj hv).2.symm
      rw [hbehind] at hh
      exact absurd (hh c rfl) hq
    | [], count + 2 => exact absurd (List.cons.inj (List.cons.inj hv).2).1 hb
    | [d], count => exact absurd (congrArg some (List.cons.inj hv).1.symm) hl
    | d :: e :: before, count =>
      exact h (e :: before) count behind (List.cons.inj hv).2 (by simpa using hl) hh

theorem evenRuns_pair_iff {c : Char} {vs : List Char} (hq : c ≠ '"') :
    EvenRuns ('\\' :: c :: vs) ↔ EvenRuns vs := by
  by_cases hb : c = '\\'
  · rw [hb]
    exact evenRuns_backslashes_iff
  · exact (evenRuns_backslash_iff hq hb).trans (evenRuns_cons_iff hb)

/-! ## The texts that quotations stand for -/

theorem evenRuns_of_quotes {inside value : List Char} (h : Quotes inside value) :
    EvenRuns value := by
  induction h with
  | nil => exact evenRuns_nil
  | quote _ ih => exact (evenRuns_cons_iff (by decide)).2 ih
  | pair hc _ ih => exact (evenRuns_pair_iff hc).2 ih
  | plain _ hb _ ih => exact (evenRuns_cons_iff hb).2 ih

/-- A text with a backslash in front of each quote. -/
def escape (value : List Char) : List Char :=
  value.flatMap fun c => if c = '"' then ['\\', '"'] else [c]

theorem escape_quote (vs : List Char) : escape ('"' :: vs) = '\\' :: '"' :: escape vs := rfl

theorem escape_cons {c : Char} (hc : c ≠ '"') (vs : List Char) :
    escape (c :: vs) = c :: escape vs := by
  rw [escape, List.flatMap_cons, if_neg hc]
  rfl

/-- A text with even runs is what its own escaping stands for. -/
theorem quotes_escape {value : List Char} (h : EvenRuns value) : Quotes (escape value) value := by
  match value with
  | [] => exact .nil
  | c :: vs =>
    by_cases hb : c = '\\'
    · subst hb
      -- a run is shortened by two, or up to a character that is no quote
      obtain ⟨d, ds, rfl, hd⟩ := h.behind_backslash
      rw [escape_cons (by decide), escape_cons hd]
      exact .pair hd (quotes_escape ((evenRuns_pair_iff hd).1 h))
    · have hvs : EvenRuns vs := (evenRuns_cons_iff hb).1 h
      by_cases hq : c = '"'
      · subst hq
        exact .quote (quotes_escape hvs)
      · rw [escape_cons hq]
        exact .plain hq hb (quotes_escape hvs)
termination_by value.length

/-! ## Parts of a quotation -/

/-- A quotation is written in one way only. -/
theorem Quotes.eq_escape {inside value : List Char} (h : Quotes inside value) :
    inside = escape value := by
  induction h with
  | nil => rfl
  | quote _ ih => rw [ih, escape_quote]
  | pair hc _ ih => rw [ih, escape_cons (by decide), escape_cons hc]
  | plain hc _ _ ih => rw [ih, escape_cons hc]

theorem escape_append (before behind : List Char) :
    escape (before ++ behind) = escape before ++ escape behind := List.flatMap_append

/-- Each quote takes one character more in the inside than in the text. -/
theorem length_escape (value : List Char) :
    (escape value).length = value.length + value.count '"' := by
  induction value with
  | nil => rfl
  | cons c vs ih =>
    by_cases hc : c = '"'
    · rw [hc, escape_quote, List.count_cons_self]
      simp only [List.length_cons, ih]
      omega
    · rw [escape_cons hc, List.count_cons_of_ne hc]
      simp only [List.length_cons, ih]
      omega

/-- What a part of the inside stands for. -/
def unescape : List Char → List Char
  | '\\' :: '"' :: cs => '"' :: unescape cs
  | c :: cs => c :: unescape cs
  | [] => []

/-- No quote starts a part of the inside without its backslash. -/
theorem head?_escape_ne (value : List Char) : (escape value).head? ≠ some '"' := by
  cases value with
  | nil => exact fun h => by cases h
  | cons c vs =>
    by_cases hc : c = '"'
    · rw [hc, escape_quote]
      simp
    · rw [escape_cons hc]
      simpa using hc

/-- **A part of the text is what its part of the inside stands for.** -/
theorem unescape_escape (value : List Char) : unescape (escape value) = value := by
  induction value with
  | nil => rfl
  | cons c vs ih =>
    by_cases hc : c = '"'
    · rw [hc, escape_quote, unescape, ih]
    · rw [escape_cons hc, unescape, ih]
      -- a backslash of the text does not stand in front of a quote of the inside
      rintro cs rfl hcs
      exact head?_escape_ne vs (by rw [hcs]; rfl)

end RecordQuery

import RecordQuery.Proofs.Grammar.Placing
import RecordQuery.Proofs.Numbers.Literals
import RecordQuery.Proofs.Paths.Segments

/-!
# Which texts are operands

A text that looks like a number is one: every decimal literal is the numeral of some double.  So an
operand fails only if its text is read as a path and is none.

* `Operand.pathText?` — the text that is read as a path;
* `Token.pathSpan` — the place that is told for a path that is rejected;
* `numberOf?_characters` — **a literal is an integer if it has no point and fits**, and a double
  otherwise;
* `literal_or_path` — every text is either of them;
* `ofToken_eq_error`, `parse_of_ofToken` — **an operand is rejected just if its path is**;
* `Operand.Denotes`, `Operand.told_apart` — **literals and fields are told apart**.
-/

namespace RecordQuery

/-- What a text is read as a path of, unless it is a number. -/
def Operand.pathText? (text : List Char) : Option (List Char) :=
  match stripMark? fieldMark text with
  | some rest => some rest
  | none => if Numeral.isDecimal text then none else some text

/-- The place that is told for a path that starts some characters behind the start of the text of a
token. -/
def Token.pathSpan (token : Token) (offset : ℕ) (e : PathError) : Span :=
  ⟨token.span.start + (if token.quoted then 1 else 0) + offset + e.offset, e.length⟩

/-- A text is a path behind a mark, even if it looks like a number, and without a mark if it is no
literal. -/
def Operand.IsPathText (mark text : List Char) : Prop :=
  mark = fieldMark.toList ∨
    mark = [] ∧ ¬ fieldMark.toList <+: text ∧ ¬ Numeral.IsLiteral text

variable {mark text : List Char} {token : Token} {leaf : Operand} {e : ParseError}

/-! ## Literals -/

/-- The number that a literal stands for. -/
def Numeral.Literal.number (l : Numeral.Literal) : Value :=
  if l.point = false ∧ Numeral.fits l.integer then .integer l.integer else .float l.double

/-- **A literal is an integer if it has no point and fits**, and a double otherwise. -/
theorem numberOf?_characters (l : Numeral.Literal) :
    Operand.numberOf? l.characters = some l.number := by
  unfold Operand.numberOf? Numeral.Literal.number
  cases hpoint : l.point with
  | true =>
    have hcontains : l.characters.contains '.' = true :=
      List.contains_iff_mem.2 (l.point_mem_characters.2 hpoint)
    dsimp only
    rw [if_pos hcontains, l.double?_characters, if_neg (fun h => nomatch h.1)]
    rfl
  | false =>
    have hcontains : ¬ l.characters.contains '.' = true := by
      rw [List.contains_iff_mem, l.point_mem_characters, hpoint]
      exact Bool.false_ne_true
    dsimp only
    rw [if_neg hcontains, (Numeral.Literal.writes hpoint).integer?_eq]
    by_cases hfits : Numeral.fits l.integer
    · rw [if_pos hfits, if_pos ⟨rfl, hfits⟩]
    · rw [if_neg hfits, if_neg (fun h => hfits h.2), l.double?_characters]
      rfl

/-- A literal does not start with the mark. -/
theorem stripMark?_characters (l : Numeral.Literal) :
    stripMark? Operand.fieldMark l.characters = none := by
  rw [stripMark?_eq_none_iff]
  intro hprefix
  have hletter : 'f' ∈ l.characters := hprefix.subset (by decide)
  exact absurd (Numeral.Literal.of_mem_characters hletter) (by decide)

theorem ofToken_literal (l : Numeral.Literal) (hvalue : token.value.toList = l.characters) :
    Operand.ofToken token = .ok (.number l.number) := by
  have hdecimal : Numeral.isDecimal l.characters := Numeral.isDecimal_iff.2 l.isLiteral
  unfold Operand.ofToken
  dsimp only
  rw [hvalue, stripMark?_characters]
  dsimp only
  rw [if_pos hdecimal, numberOf?_characters]

/-! ## Paths -/

theorem stripMark?_append (rest : List Char) :
    stripMark? Operand.fieldMark (Operand.fieldMark.toList ++ rest) = some rest :=
  List.isPrefixOf?_eq_some_iff_append_eq.2 rfl

theorem pathText?_append (h : Operand.IsPathText mark text) :
    Operand.pathText? (mark ++ text) = some text := by
  unfold Operand.pathText?
  rcases h with rfl | ⟨rfl, hmark, hliteral⟩
  · rw [stripMark?_append]
  · rw [List.nil_append, stripMark?_eq_none_iff.2 hmark]
    exact if_neg (mt Numeral.isDecimal_iff.1 hliteral)

theorem ofToken_path (h : Operand.IsPathText mark text)
    (hvalue : token.value.toList = mark ++ text) :
    Operand.ofToken token = Operand.pathOfToken token mark.length text := by
  unfold Operand.ofToken
  rw [hvalue]
  dsimp only
  rcases h with rfl | ⟨rfl, hmark, hliteral⟩
  · rw [stripMark?_append]
    rfl
  · rw [List.nil_append, stripMark?_eq_none_iff.2 hmark]
    exact if_neg (mt Numeral.isDecimal_iff.1 hliteral)

theorem pathOfToken_eq_error {offset : ℕ} (h : Operand.pathOfToken token offset text = .error e) :
    ∃ fault, FieldPath.parse text = .error fault ∧
      e = .malformed (.path fault.fault) token.value (token.pathSpan offset fault) := by
  unfold Operand.pathOfToken at h
  cases hp : FieldPath.parse text with
  | ok path => simp [hp] at h
  | error fault =>
    rw [hp] at h
    exact ⟨fault, rfl, (Except.error.inj h).symm⟩

/-! ## Literals and paths -/

/-- What is no path is a literal. -/
theorem literal_or_path (text : List Char) :
    (∃ l : Numeral.Literal, text = l.characters) ∨
      ∃ mark rest, text = mark ++ rest ∧ Operand.IsPathText mark rest := by
  by_cases hmark : Operand.fieldMark.toList <+: text
  · obtain ⟨rest, hrest⟩ := hmark
    exact .inr ⟨_, rest, hrest.symm, .inl rfl⟩
  · by_cases hliteral : Numeral.IsLiteral text
    · obtain ⟨l, hl⟩ := Numeral.isLiteral_iff.1 hliteral
      exact .inl ⟨l, hl.symm⟩
    · exact .inr ⟨[], text, rfl, .inr ⟨rfl, hmark, hliteral⟩⟩

/-- What is rejected is a path. -/
theorem isPathText_of_ofToken_eq_error (h : Operand.ofToken token = .error e) :
    ∃ mark text fault, token.value.toList = mark ++ text ∧ Operand.IsPathText mark text ∧
      FieldPath.parse text = .error fault ∧
      e = .malformed (.path fault.fault) token.value (token.pathSpan mark.length fault) := by
  rcases literal_or_path token.value.toList with ⟨l, hvalue⟩ | ⟨mark, text, hvalue, hpath⟩
  · rw [ofToken_literal l hvalue] at h
    cases h
  · rw [ofToken_path hpath hvalue] at h
    obtain ⟨fault, hfault, he⟩ := pathOfToken_eq_error h
    exact ⟨mark, text, fault, hvalue, hpath, hfault, he⟩

/-- **An operand is rejected only if its path is**, and the path is all of the text behind a
mark. -/
theorem ofToken_eq_error (h : Operand.ofToken token = .error e) :
    ∃ mark text fault, token.value.toList = mark ++ text ∧
      Operand.pathText? token.value.toList = some text ∧ FieldPath.parse text = .error fault ∧
      e = .malformed (.path fault.fault) token.value (token.pathSpan mark.length fault) := by
  obtain ⟨mark, text, fault, hvalue, hpath, hfault, he⟩ := isPathText_of_ofToken_eq_error h
  exact ⟨mark, text, fault, hvalue, hvalue ▸ pathText?_append hpath, hfault, he⟩

/-- A literal is not read as a path. -/
theorem pathText?_characters (l : Numeral.Literal) : Operand.pathText? l.characters = none := by
  unfold Operand.pathText?
  rw [stripMark?_characters]
  exact if_pos (Numeral.isDecimal_iff.2 l.isLiteral)

/-- A leaf that is read as a path is one. -/
theorem parse_of_ofToken (h : Operand.ofToken token = .ok leaf)
    (ht : Operand.pathText? token.value.toList = some text) :
    ∃ path, FieldPath.parse text = .ok path := by
  rcases literal_or_path token.value.toList with ⟨l, hvalue⟩ | ⟨mark, rest, hvalue, hpath⟩
  · rw [hvalue, pathText?_characters] at ht
    cases ht
  · rw [hvalue, pathText?_append hpath] at ht
    cases ht
    rw [ofToken_path hpath hvalue] at h
    obtain ⟨path, hp, _⟩ := pathOfToken_eq_ok_iff.1 h
    exact ⟨path, hp⟩

/-- What a text stands for as an operand. -/
inductive Operand.Denotes : List Char → Operand → Prop
  | integer (l : Numeral.Literal) :
    l.point = false → Numeral.fits l.integer → Denotes l.characters (.number (.integer l.integer))
  | float (l : Numeral.Literal) :
    l.point = true ∨ ¬ Numeral.fits l.integer → Denotes l.characters (.number (.float l.double))
  | path {mark text : List Char} {path : FieldPath} :
    IsPathText mark text → FieldPath.parse text = .ok path → Denotes (mark ++ text) (.path path)

theorem Operand.denotes_number (l : Numeral.Literal) :
    Denotes l.characters (.number l.number) := by
  unfold Numeral.Literal.number
  split_ifs with h
  · exact .integer l h.1 h.2
  · refine .float l ?_
    rw [← Bool.not_eq_false, ← not_and_or]
    exact h

/-- A leaf is what the text of its token stands for. -/
theorem ofToken_eq_ok_iff :
    Operand.ofToken token = .ok leaf ↔ Operand.Denotes token.value.toList leaf := by
  constructor
  · intro h
    rcases literal_or_path token.value.toList with ⟨l, hvalue⟩ | ⟨mark, text, hvalue, hpath⟩
    · rw [ofToken_literal l hvalue] at h
      cases h
      rw [hvalue]
      exact Operand.denotes_number l
    · rw [ofToken_path hpath hvalue] at h
      obtain ⟨path, hp, rfl⟩ := pathOfToken_eq_ok_iff.1 h
      rw [hvalue]
      exact .path hpath hp
  · intro h
    generalize hvalue : token.value.toList = text at h
    cases h with
    | integer l hpoint hfits =>
      rw [ofToken_literal l hvalue, Numeral.Literal.number, if_pos ⟨hpoint, hfits⟩]
    | float l hother =>
      have hnot : ¬ (l.point = false ∧ Numeral.fits l.integer) := by
        rw [not_and_or, Bool.not_eq_false]
        exact hother
      rw [ofToken_literal l hvalue, Numeral.Literal.number, if_neg hnot]
    | path hpath hp =>
      rw [ofToken_path hpath hvalue]
      exact pathOfToken_eq_ok_iff.2 ⟨_, hp, rfl⟩

/-- How literals and fields are told apart. -/
structure Operand.ToldApart (token : Token) : Prop where
  /-- The leaf of a token is what its text stands for. -/
  leaf : ∀ leaf, ofToken token = .ok leaf ↔ Denotes token.value.toList leaf
  /-- The numbers are the literals, and none of them is rejected. -/
  number : (∃ value, ofToken token = .ok (.number value)) ↔ Numeral.IsLiteral token.value.toList
  /-- What is rejected is a path. -/
  rejected : ∀ e, ofToken token = .error e → ∃ mark text fault,
    token.value.toList = mark ++ text ∧ IsPathText mark text ∧
      FieldPath.parse text = .error fault ∧
      e = .malformed (.path fault.fault) token.value (token.pathSpan mark.length fault)
  /-- No operand is rejected as a number. -/
  never_number : ∀ value span, ofToken token ≠ .error (.malformed .number value span)

/-- **Literals and fields are told apart**, whether their texts are quoted or not. -/
theorem Operand.told_apart (token : Token) : ToldApart token where
  leaf _ := ofToken_eq_ok_iff
  number := by
    constructor
    · rintro ⟨value, h⟩
      rw [ofToken_eq_ok_iff] at h
      generalize token.value.toList = text at h ⊢
      cases h with
      | integer l => exact l.isLiteral
      | float l => exact l.isLiteral
    · intro h
      obtain ⟨l, hl⟩ := Numeral.isLiteral_iff.1 h
      exact ⟨_, ofToken_literal l hl.symm⟩
  rejected _ := isPathText_of_ofToken_eq_error
  never_number value span h := by
    obtain ⟨mark, text, fault, _, _, _, he⟩ := isPathText_of_ofToken_eq_error h
    cases he

end RecordQuery

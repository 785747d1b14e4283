import Mathlib.Data.List.Chain
import RecordQuery.Proofs.Lexing.Spelling

/-!
# The tokens of a query

A query that is a row of tokens says of each token where it stands and what is written there.

* `Spells.inside`, `Spells.ordered`, `Spells.blank_between` — tokens stand one behind the other,
  with blanks between them;
* `Spells.linked`, `Spells.nested` — every token knows the kind of the one before it, and the
  parentheses match;
* `Spells.spelling` — every token has the text that its word stands for;
* `Tokenized` — all that is true of the tokens of a query;
* `tokenized_of_tokenize` — **the tokens of a query are true of it**.
-/

namespace RecordQuery

/-- The characters of a query under a span. -/
def Span.slice (span : Span) (text : List Char) : List Char :=
  (text.drop span.start).take span.length

/-- What is true of the tokens of a query. -/
structure Tokenized (text : List Char) (tokens : List Token) : Prop where
  /-- Just the last token finishes the row, and it stands behind the query. -/
  finish : ∃ front last, tokens = front ++ [last] ∧ last.kind = .finish ∧
    last.span = ⟨text.length, 0⟩ ∧ ∀ token ∈ front, token.kind ≠ .finish
  nonempty : ∀ token ∈ tokens, token.kind ≠ .finish → 0 < token.span.length
  ordered : tokens.Pairwise fun a b => a.span.start < b.span.start ∧ a.span.stop ≤ b.span.start
  inside : ∀ token ∈ tokens, token.span.stop ≤ text.length
  blank_between : ∀ i c, text[i]? = some c →
    (∀ token ∈ tokens, ¬ (token.span.start ≤ i ∧ i < token.span.stop)) → Text.isBlank c
  first : ∀ token ∈ tokens.head?, token.previous = .start
  linked : tokens.IsChain fun a b => b.previous = a.kind
  allowed : ∀ token ∈ tokens, token.previous.allows token.kind
  /-- In every beginning of the row, and with as many of both kinds in the whole row. -/
  nested : Nested 0 tokens
  bare : ∀ token ∈ tokens, token.quoted = false →
    token.value.toList = token.span.slice text ∧
      (∀ c ∈ token.value.toList, Text.isBlank c = false) ∧
      ((∀ c ∈ token.value.toList, c ≠ '(' ∧ c ≠ ')') ∨
        (token.kind = .leftParen ∧ token.value = "(") ∨
        (token.kind = .rightParen ∧ token.value = ")"))
  quoted : ∀ token ∈ tokens, token.quoted = true →
    ∃ inside, token.span.slice text = '"' :: (inside ++ ['"']) ∧
      Quotes inside token.value.toList ∧ EvenRuns token.value.toList

namespace Spells

variable {text : List Char} {tokens : List Token} {position depth : ℕ} {previous : TokenKind}

/-! ## Where the tokens stand -/

theorem finish_last (h : Spells position previous depth text tokens) :
    ∃ front last, tokens = front ++ [last] ∧ last.kind = .finish ∧
      last.span = ⟨position + text.length, 0⟩ ∧ ∀ token ∈ front, token.kind ≠ .finish := by
  induction h with
  | finish _ _ => exact ⟨[], _, rfl, rfl, rfl, by simp⟩
  | @token position _ _ _ _ _ gap word _ text _ _ _ hof _ _ ih =>
    obtain ⟨front, last, rfl, hk, hspan, hfront⟩ := ih
    refine ⟨_ :: front, last, rfl, hk, ?_, ?_⟩
    · rw [hspan, List.length_append, List.length_append]
      congr 1
      omega
    · intro t ht
      rcases List.mem_cons.1 ht with rfl | ht
      · exact ne_finish_of_of? hof
      · exact hfront t ht

theorem inside (h : Spells position previous depth text tokens) :
    ∀ token ∈ tokens, position ≤ token.span.start ∧ token.span.stop ≤ position + text.length := by
  induction h with
  | finish _ _ =>
    intro t ht
    obtain rfl := List.mem_singleton.1 ht
    exact ⟨Nat.le_add_right _ _, Nat.le_refl _⟩
  | token _ _ _ _ _ ih =>
    intro t ht
    simp only [List.length_append]
    rcases List.mem_cons.1 ht with rfl | ht
    · simp only [Span.stop]
      omega
    · have hin := ih t ht
      omega

theorem nonempty (h : Spells position previous depth text tokens) :
    ∀ token ∈ tokens, token.kind ≠ .finish → 0 < token.span.length := by
  induction h with
  | finish _ _ =>
    intro t ht hk
    obtain rfl := List.mem_singleton.1 ht
    exact absurd rfl hk
  | token _ hspelling _ _ _ ih =>
    intro t ht hk
    rcases List.mem_cons.1 ht with rfl | ht
    · exact List.length_pos_iff.2 hspelling.ne_nil
    · exact ih t ht hk

theorem ordered (h : Spells position previous depth text tokens) :
    tokens.Pairwise fun a b => a.span.start < b.span.start ∧ a.span.stop ≤ b.span.start := by
  induction h with
  | finish _ _ => exact List.pairwise_singleton _ _
  | token _ hspelling _ _ hmore ih =>
    refine List.Pairwise.cons ?_ ih
    intro t ht
    have hlater := (hmore.inside t ht).1
    have hword := List.length_pos_iff.2 hspelling.ne_nil
    simp only [Span.stop]
    omega

/-- What is under no token is blank. -/
theorem blank_between (h : Spells position previous depth text tokens) :
    ∀ i c, text[i]? = some c →
      (∀ token ∈ tokens, ¬ (token.span.start ≤ position + i ∧ position + i < token.span.stop)) →
      Text.isBlank c := by
  induction h with
  | finish hgap _ => exact fun i c hc _ => hgap c (List.mem_of_getElem? hc)
  | @token position _ _ _ _ _ gap word value text _ hgap _ _ _ _ ih =>
    intro i c hc hout
    have hword := hout _ List.mem_cons_self
    simp only [Span.stop] at hword
    by_cases hi : i < gap.length
    · rw [List.getElem?_append_left hi] at hc
      exact hgap c (List.mem_of_getElem? hc)
    · -- behind the gap and not under the word, so behind the word too
      have hbehind : gap.length + word.length ≤ i := by omega
      rw [← List.append_assoc,
        List.getElem?_append_right (by rw [List.length_append]; exact hbehind),
        List.length_append] at hc
      refine ih _ c hc fun t ht hin => hout t (List.mem_cons_of_mem _ ht) ?_
      omega

/-! ## What a token knows of the one before it -/

theorem first (h : Spells position previous depth text tokens) :
    ∀ token ∈ tokens.head?, token.previous = previous := by
  cases h with
  | finish _ _ =>
    rintro t ⟨⟩
    rfl
  | token _ _ _ _ _ =>
    rintro t ⟨⟩
    rfl

theorem linked (h : Spells position previous depth text tokens) :
    tokens.IsChain fun a b => b.previous = a.kind := by
  induction h with
  | finish _ _ => exact List.isChain_singleton _
  | token _ _ _ _ hmore ih => exact List.isChain_cons.2 ⟨hmore.first, ih⟩

theorem allowed (h : Spells position previous depth text tokens) :
    ∀ token ∈ tokens, token.previous.allows token.kind := by
  induction h with
  | finish _ hallows =>
    intro t ht
    obtain rfl := List.mem_singleton.1 ht
    exact hallows
  | token _ _ hof _ _ ih =>
    intro t ht
    rcases List.mem_cons.1 ht with rfl | ht
    · exact allows_of_of? hof
    · exact ih t ht

theorem nested (h : Spells position previous depth text tokens) : Nested depth tokens := by
  induction h with
  | finish _ _ => exact nested_cons_iff.2 ⟨0, rfl, nested_nil_iff.2 rfl⟩
  | token _ _ _ hnesting _ ih => exact nested_cons_iff.2 ⟨_, hnesting, ih⟩

/-! ## What a token stands for -/

/-- The word of a token stands at its place. -/
theorem spelling (h : Spells position previous depth text tokens) :
    ∀ token ∈ tokens, token.kind ≠ .finish →
      ∃ before word behind, text = before ++ (word ++ behind) ∧
        token.span = ⟨position + before.length, word.length⟩ ∧
        Spelling word token.value.toList token.quoted behind ∧
        TokenKind.of? token.value token.quoted token.previous = some token.kind := by
  induction h with
  | finish _ _ =>
    intro t ht hk
    obtain rfl := List.mem_singleton.1 ht
    exact absurd rfl hk
  | @token position _ _ _ _ _ gap word value text _ _ hspelling hof _ _ ih =>
    intro t ht hk
    rcases List.mem_cons.1 ht with rfl | ht
    · refine ⟨gap, word, text, rfl, rfl, ?_, hof⟩
      rwa [String.toList_ofList]
    · obtain ⟨before, word', behind, rfl, hspan, hspelling', hof'⟩ := ih t ht hk
      refine ⟨gap ++ (word ++ before), word', behind, by simp, ?_, hspelling', hof'⟩
      rw [hspan, List.length_append, List.length_append]
      congr 1
      omega

/-- The finishing token has no text. -/
theorem value_of_finish (h : Spells position previous depth text tokens) :
    ∀ token ∈ tokens, token.kind = .finish →
      token.value = "" ∧ token.quoted = false ∧ token.span.length = 0 := by
  induction h with
  | finish _ _ =>
    intro t ht _
    obtain rfl := List.mem_singleton.1 ht
    exact ⟨rfl, rfl, rfl⟩
  | token _ _ hof _ _ ih =>
    intro t ht hk
    rcases List.mem_cons.1 ht with rfl | ht
    · exact absurd hk (ne_finish_of_of? hof)
    · exact ih t ht hk

end Spells

variable {text word value : List Char} {tokens : List Token}

theorem Spelling.of_unquoted (h : Spelling word value false text) :
    word = value ∧ (∀ c ∈ value, Text.isBlank c = false) ∧
      ((∀ c ∈ value, c ≠ '(' ∧ c ≠ ')') ∨ ∃ c kind, Paren c kind ∧ value = [c]) := by
  cases h with
  | paren hp =>
    refine ⟨rfl, List.forall_mem_singleton.2 ?_, .inr ⟨_, _, hp, rfl⟩⟩
    cases hp <;> decide
  | bare _ hb _ =>
    exact ⟨rfl, fun c hc => (isBare_iff.1 (hb c hc)).1,
      .inl fun c hc => (isBare_iff.1 (hb c hc)).2⟩

theorem Spelling.of_quoted (h : Spelling word value true text) :
    ∃ inside, word = '"' :: (inside ++ ['"']) ∧ Quotes inside value := by
  cases h with
  | quoted hq => exact ⟨_, rfl, hq⟩

theorem slice_append (before word behind : List Char) :
    Span.slice ⟨before.length, word.length⟩ (before ++ (word ++ behind)) = word := by
  rw [Span.slice, List.drop_left, List.take_left]

/-- The word of a token is what the query has under its span. -/
theorem Spells.slice (h : Spells 0 .start 0 text tokens) :
    ∀ token ∈ tokens, token.kind ≠ .finish →
      ∃ behind, Spelling (token.span.slice text) token.value.toList token.quoted behind ∧
        TokenKind.of? token.value token.quoted token.previous = some token.kind := by
  intro t ht hk
  obtain ⟨before, word, behind, rfl, hspan, hspelling, hof⟩ := h.spelling t ht hk
  refine ⟨behind, ?_, hof⟩
  rwa [hspan, Nat.zero_add, slice_append]

/-- An unquoted token is just what the query has under its span. -/
theorem Spells.bare (h : Spells 0 .start 0 text tokens) :
    ∀ token ∈ tokens, token.quoted = false →
      token.value.toList = token.span.slice text ∧
        (∀ c ∈ token.value.toList, Text.isBlank c = false) ∧
        ((∀ c ∈ token.value.toList, c ≠ '(' ∧ c ≠ ')') ∨
          (token.kind = .leftParen ∧ token.value = "(") ∨
          (token.kind = .rightParen ∧ token.value = ")")) := by
  intro t ht hq
  by_cases hk : t.kind = .finish
  · obtain ⟨hv, _, hl⟩ := h.value_of_finish t ht hk
    rw [hv, Span.slice, hl]
    exact ⟨rfl, by simp, .inl (by simp)⟩
  · obtain ⟨behind, hspelling, hof⟩ := h.slice t ht hk
    rw [hq] at hspelling hof
    obtain ⟨hword, hblank, hparen⟩ := hspelling.of_unquoted
    refine ⟨hword.symm, hblank, ?_⟩
    rcases hparen with hnone | ⟨c, kind, hp, hc⟩
    · exact .inl hnone
    · have hv : t.value = String.ofList [c] := by rw [← hc, String.ofList_toList]
      rw [hv] at hof
      have hkind : t.kind = kind := hp.kind_eq hof
      cases hp
      · exact .inr (.inl ⟨hkind, hv⟩)
      · exact .inr (.inr ⟨hkind, hv⟩)

/-- A quoted token is what the quotation under its span stands for. -/
theorem Spells.quoted (h : Spells 0 .start 0 text tokens) :
    ∀ token ∈ tokens, token.quoted = true →
      ∃ inside, token.span.slice text = '"' :: (inside ++ ['"']) ∧
        Quotes inside token.value.toList ∧ EvenRuns token.value.toList := by
  intro t ht hq
  have hk : t.kind ≠ .finish := by
    intro hk
    have hnot := (h.value_of_finish t ht hk).2.1
    rw [hq] at hnot
    cases hnot
  obtain ⟨behind, hspelling, _⟩ := h.slice t ht hk
  rw [hq] at hspelling
  obtain ⟨inside, hslice, hquotes⟩ := hspelling.of_quoted
  exact ⟨inside, hslice, hquotes, evenRuns_of_quotes hquotes⟩

/-- **The tokens of a query are true of it.** -/
theorem tokenized_of_tokenize (h : tokenize text = .ok tokens) : Tokenized text tokens := by
  have hs : Spells 0 .start 0 text tokens := tokenize_eq_ok_iff.1 h
  obtain ⟨front, last, hts, hk, hspan, hfront⟩ := hs.finish_last
  rw [Nat.zero_add] at hspan
  exact {
    finish := ⟨front, last, hts, hk, hspan, hfront⟩
    nonempty := hs.nonempty
    ordered := hs.ordered
    inside := fun t ht => by simpa using (hs.inside t ht).2
    blank_between := fun i c hc hout => hs.blank_between i c hc (by simpa using hout)
    first := hs.first
    linked := hs.linked
    allowed := hs.allowed
    nested := hs.nested
    bare := hs.bare
    quoted := hs.quoted }

/-- The tokens of a call with a quote inside its quoted text. -/
theorem tokenized_call :
    Tokenized "len (\"a\\\"b\")".toList
      [⟨"len", ⟨0, 3⟩, .text, .start, false⟩, ⟨"(", ⟨4, 1⟩, .leftParen, .text, false⟩,
        ⟨"a\"b", ⟨5, 6⟩, .text, .leftParen, true⟩, ⟨")", ⟨11, 1⟩, .rightParen, .text, false⟩,
        ⟨"", ⟨12, 0⟩, .finish, .rightParen, false⟩] :=
  tokenized_of_tokenize (by cbv)

end RecordQuery

import RecordQuery.Proofs.Grammar.Placing
import RecordQuery.Proofs.Lexing.Spelling

/-!
# Texts in parentheses

What a text spells does not change in front of a closing parenthesis: no word goes on there, and
the parentheses of the text match among themselves.

* `Reads` — what a text spells wherever it stands, up to places;
* `reads_word`, `reads_open`, `reads_finish` — texts word by word;
* `Spells.reads_enclosed` — **a query spells in parentheses what it spells alone**.
-/

namespace RecordQuery

/-- Wherever the text stands, it spells these tokens, up to their places. -/
def Reads (previous : TokenKind) (depth : ℕ) (text : List Char) (tokens : List Token) : Prop :=
  ∀ position, ∃ placed, Spells position previous depth text placed ∧
    placed.map Token.detached = tokens

/-- A token of which only the text and the kind matter. -/
def Token.word (value : String) (kind : TokenKind) (quoted : Bool) : Token :=
  ⟨value, ⟨0, 0⟩, kind, .start, quoted⟩

/-- Whether a text is a bare word. -/
def isBareWord : List Char → Bool
  | [] => false
  | c :: cs => c != '"' && (c :: cs).all Lexer.isBare

variable {position depth depth' extra : ℕ} {previous kind : TokenKind} {quoted : Bool}
  {gap word value text rest : List Char} {tokens words : List Token}

/-! ## Word by word -/

theorem reads_word (hgap : ∀ c ∈ gap, Text.isBlank c) (hs : Spelling word value quoted text)
    (hof : TokenKind.of? (String.ofList value) quoted previous = some kind)
    (hn : kind.nesting? depth = some depth') (h : Reads kind depth' text words) :
    Reads previous depth (gap ++ (word ++ text))
      (Token.word (String.ofList value) kind quoted :: words) := by
  intro position
  obtain ⟨placed, hplaced, hwords⟩ := h (position + gap.length + word.length)
  exact ⟨_, .token hgap hs hof hn hplaced, by rw [List.map_cons, hwords]; rfl⟩

theorem reads_open (hgap : ∀ c ∈ gap, Text.isBlank c) (hallows : previous.allows .leftParen)
    (h : Reads .leftParen (depth + 1) text words) :
    Reads previous depth (gap ++ '(' :: text) (Token.word "(" .leftParen false :: words) := by
  have hof : TokenKind.of? (String.ofList ['(']) false previous = some .leftParen := by
    revert hallows
    cases previous <;> decide
  exact @reads_word depth (depth + 1) previous .leftParen false gap ['('] ['('] text words
    hgap (.paren .opening) hof rfl h

theorem reads_close (hgap : ∀ c ∈ gap, Text.isBlank c) (hallows : previous.allows .rightParen)
    (h : Reads .rightParen depth text words) :
    Reads previous (depth + 1) (gap ++ ')' :: text) (Token.word ")" .rightParen false :: words) := by
  have hof : TokenKind.of? (String.ofList [')']) false previous = some .rightParen := by
    revert hallows
    cases previous <;> decide
  exact @reads_word (depth + 1) depth previous .rightParen false gap [')'] [')'] text words
    hgap (.paren .closing) hof rfl h

theorem spelling_of_isBareWord (h : isBareWord word) (hstop : ∀ c ∈ text.head?, ¬ Lexer.isBare c) :
    Spelling word word false text := by
  cases word with
  | nil => cases h
  | cons c cs =>
    simp only [isBareWord, Bool.and_eq_true, bne_iff_ne, List.all_eq_true] at h
    exact .bare h.1 h.2 hstop

/-- A bare word in front of a character that does not go on with it. -/
theorem reads_bare {value : String} (hgap : ∀ c ∈ gap, Text.isBlank c)
    (hword : isBareWord value.toList) (hstop : ∀ c ∈ text.head?, ¬ Lexer.isBare c)
    (hof : TokenKind.of? value false previous = some kind) (hl : kind ≠ .leftParen)
    (hr : kind ≠ .rightParen) (h : Reads kind depth text words) :
    Reads previous depth (gap ++ (value.toList ++ text)) (Token.word value kind false :: words) := by
  have hread := @reads_word depth depth previous kind false gap value.toList value.toList text words
    hgap (spelling_of_isBareWord hword hstop)
  rw [String.ofList_toList] at hread
  exact hread hof (nesting?_of_not_paren hl hr depth) h

theorem reads_finish (hallows : previous.allows .finish) :
    Reads previous 0 [] [Token.word "" .finish false] := by
  intro position
  exact ⟨_, .finish (by simp) hallows, rfl⟩

/-! ## A whole query in parentheses -/

/-- A word is the same in front of more text, if it would not go on there. -/
theorem Spelling.append (h : Spelling word value quoted text)
    (hstop : ∀ c ∈ rest.head?, ¬ Lexer.isBare c) : Spelling word value quoted (text ++ rest) := by
  cases h with
  | paren hp => exact .paren hp
  | quoted hq => exact .quoted hq
  | bare hq hb hs =>
    refine .bare hq hb ?_
    cases text with
    | nil => exact hstop
    | cons c cs => exact hs

/-- More open parentheses around a token change nothing. -/
theorem nesting?_add (extra : ℕ) (h : kind.nesting? depth = some depth') :
    kind.nesting? (depth + extra) = some (depth' + extra) := by
  rw [nesting?_eq_some_iff] at h ⊢
  omega

/-- A word starts a group just as it starts a query. -/
theorem of?_leftParen (value : String) (quoted : Bool) :
    TokenKind.of? value quoted .leftParen = TokenKind.of? value quoted .start := by
  unfold TokenKind.of? TokenKind.candidates
  split
  · rfl
  · split <;> rfl

theorem stops_at_close (text : List Char) : ∀ c ∈ (')' :: text).head?, ¬ Lexer.isBare c := by
  rintro c ⟨⟩
  exact Paren.closing.not_bare

/-- Behind any token, a text goes on in front of a closing parenthesis as it does at the end. -/
theorem Spells.reads_behind (h : Spells position previous depth text tokens)
    (hp : previous ≠ .start) (hrest : Reads .rightParen extra rest words) :
    Reads previous (depth + (extra + 1)) (text ++ ')' :: rest)
      (tokens.dropLast.map Token.detached ++ Token.word ")" .rightParen false :: words) := by
  induction h with
  | @finish position previous gap hgap hallows =>
    -- where the query may end, a group may end too
    have hclose : previous.allows .rightParen := by
      revert hp hallows
      cases previous <;> decide
    rw [Nat.zero_add]
    exact reads_close hgap hclose hrest
  | @token position depth depth' previous kind quoted gap word value text tokens hgap hspelling hof
      hn hmore ih =>
    have hkind : kind ≠ .start := by
      rintro rfl
      exact not_allows_start (allows_of_of? hof)
    have hread := reads_word hgap (hspelling.append (stops_at_close rest)) hof
      (nesting?_add (extra + 1) hn) (ih hkind)
    rw [List.dropLast_cons_of_ne_nil hmore.ne_nil, List.append_assoc, List.append_assoc]
    exact hread

/-- **A query spells in parentheses what it spells alone**, if it has a token at all. -/
theorem Spells.reads_enclosed (h : Spells 0 .start 0 text tokens) (hne : tokens.dropLast ≠ [])
    (hgap : ∀ c ∈ gap, Text.isBlank c) (hallows : previous.allows .leftParen)
    (hrest : Reads .rightParen depth rest words) :
    Reads previous depth (gap ++ '(' :: (text ++ ')' :: rest))
      (Token.word "(" .leftParen false ::
        (tokens.dropLast.map Token.detached ++ Token.word ")" .rightParen false :: words)) := by
  refine reads_open hgap hallows ?_
  cases h with
  | finish _ _ => exact absurd rfl hne
  | @token _ _ depth' _ kind quoted gap word value text tokens hgap hspelling hof hn hmore =>
    have hkind : kind ≠ .start := by
      rintro rfl
      exact not_allows_start (allows_of_of? hof)
    rw [← of?_leftParen] at hof
    have hdepth := nesting?_add (depth + 1) hn
    rw [Nat.zero_add] at hdepth
    have hread := reads_word hgap (hspelling.append (stops_at_close rest)) hof hdepth
      (hmore.reads_behind hkind hrest)
    rw [List.dropLast_cons_of_ne_nil hmore.ne_nil, List.append_assoc, List.append_assoc]
    exact hread

end RecordQuery

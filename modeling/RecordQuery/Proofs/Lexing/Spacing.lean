import Mathlib.Data.List.Chain
import RecordQuery.Proofs.Lexing.Spelling

/-!
# Writing tokens out

A row of tokens is written with a gap in front of each token, the finishing one included, which
is written as nothing.  Only two neighbours that are no parentheses need a blank between them.

* `Token.written` — a token as a query has it;
* `Token.Writable`, `Lawful` — the rows of tokens that can be written;
* `Separated` — the gaps are blank, and they are there where they must be;
* `spells_written` — **what was written spells its tokens again**, each at its place;
* `tokenize_written` — so the lexer finds them, and the gaps change nothing but the places.
-/

namespace RecordQuery

namespace Token

/-- A token as a query has it, with a backslash in front of each quote of a quoted text. -/
def written (token : Token) : List Char :=
  if token.quoted then '"' :: (escape token.value.toList ++ ['"']) else token.value.toList

/-- A token of which the place is forgotten. -/
def unplaced (token : Token) : Token := { token with span := ⟨0, 0⟩ }

/-- A token that opens or closes a group. -/
def IsParen (token : Token) : Prop := token.kind = .leftParen ∨ token.kind = .rightParen

/-- A token that can be written: it has the kind that its text has behind the kind before it, and
its text is one that a bare or a quoted word may stand for. -/
structure Writable (token : Token) : Prop where
  kind : TokenKind.of? token.value token.quoted token.previous = some token.kind
  bare : token.quoted = false → ¬ token.IsParen →
    token.value.toList ≠ [] ∧ token.value.toList.head? ≠ some '"' ∧
      ∀ c ∈ token.value.toList, Text.isBlank c = false ∧ c ≠ '(' ∧ c ≠ ')'
  quoted : token.quoted = true → EvenRuns token.value.toList

/-- A token that may stand behind all others. -/
structure Finishing (token : Token) : Prop where
  value : token.value = ""
  kind : token.kind = .finish
  quoted : token.quoted = false
  allowed : token.previous.allows .finish

end Token

/-- A row of tokens that can be written behind a kind and with so many open parentheses. -/
structure Lawful (previous : TokenKind) (depth : ℕ) (tokens : List Token) : Prop where
  finish : ∃ front last, tokens = front ++ [last] ∧ last.Finishing ∧
    ∀ token ∈ front, token.Writable
  first : ∀ token ∈ tokens.head?, token.previous = previous
  linked : tokens.IsChain fun a b => b.previous = a.kind
  nested : Nested depth tokens

/-- The gaps in front of the tokens are blank, and there is one between two neighbours that are
no parentheses. -/
structure Separated (row : List (List Char × Token)) : Prop where
  blank : ∀ entry ∈ row, ∀ c ∈ entry.1, Text.isBlank c
  between : row.IsChain fun a b =>
    ¬ a.2.IsParen → ¬ b.2.IsParen → b.2.kind ≠ .finish → b.1 ≠ []

/-- The query that has the tokens of a row behind their gaps. -/
def written (row : List (List Char × Token)) : List Char :=
  row.flatMap fun entry => entry.1 ++ entry.2.written

/-- The tokens of a row, each at the place where it is written. -/
def placed : ℕ → List (List Char × Token) → List Token
  | _, [] => []
  | position, (gap, token) :: row =>
    { token with span := ⟨position + gap.length, token.written.length⟩ } ::
      placed (position + gap.length + token.written.length) row

variable {token : Token} {tokens : List Token} {row : List (List Char × Token)}
  {gap text : List Char} {previous : TokenKind} {depth : ℕ}

/-! ## Words -/

theorem written_cons (gap : List Char) (token : Token) (row : List (List Char × Token)) :
    written ((gap, token) :: row) = gap ++ (token.written ++ written row) := by
  rw [written, List.flatMap_cons, List.append_assoc]
  rfl

/-- A parenthesis is written as one character. -/
theorem Token.Writable.written_paren (h : token.Writable) (hp : token.IsParen) :
    ∃ c, Paren c token.kind ∧ token.quoted = false ∧ token.value.toList = [c] := by
  obtain ⟨c, hc⟩ : ∃ c, Paren c token.kind := by
    rcases hp with hk | hk
    · exact ⟨'(', hk ▸ .opening⟩
    · exact ⟨')', hk ▸ .closing⟩
  obtain ⟨hv, hq⟩ := hc.mem_candidates_iff.1 (mem_candidates_of_of? h.kind)
  exact ⟨c, hc, hq, by rw [hv, String.toList_ofList]⟩

/-- A token that can be written is read back, unless it goes on behind its word. -/
theorem Token.Writable.spelling (h : token.Writable)
    (hstop : ¬ token.IsParen → token.quoted = false → ∀ c ∈ text.head?, ¬ Lexer.isBare c) :
    Spelling token.written token.value.toList token.quoted text := by
  cases hq : token.quoted with
  | true =>
    rw [written, if_pos hq]
    exact .quoted (quotes_escape (h.quoted hq))
  | false =>
    rw [written, if_neg (by simp [hq])]
    by_cases hp : token.IsParen
    · obtain ⟨c, hc, _, hv⟩ := h.written_paren hp
      rw [hv]
      exact .paren hc
    · obtain ⟨hne, hhead, hall⟩ := h.bare hq hp
      have hstop' := hstop hp hq
      revert hne hhead hall
      cases token.value.toList with
      | nil => exact fun hne => absurd rfl hne
      | cons c cs =>
        intro _ hhead hall
        exact .bare (by simpa using hhead) (fun d hd => isBare_iff.2 (hall d hd)) hstop'

theorem Token.Finishing.written (h : token.Finishing) : token.written = [] := by
  rw [Token.written, if_neg (by simp [h.quoted]), h.value]
  rfl

/-! ## Rows -/

/-- The first token of a row finishes it or can be written in front of the others. -/
theorem lawful_cons (h : Lawful previous depth (token :: tokens)) :
    token.previous = previous ∧
      ((tokens = [] ∧ depth = 0 ∧ token.Finishing) ∨
        (token.Writable ∧ ∃ depth', token.kind.nesting? depth = some depth' ∧
          Lawful token.kind depth' tokens)) := by
  have hprevious : token.previous = previous := h.first token rfl
  refine ⟨hprevious, ?_⟩
  obtain ⟨depth', hn, hnested⟩ := nested_cons_iff.1 h.nested
  obtain ⟨front, last, hts, hlast, hwritable⟩ := h.finish
  cases front with
  | nil =>
    obtain ⟨rfl, rfl⟩ := List.cons.inj hts
    rw [hlast.kind] at hn
    cases hn
    exact .inl ⟨rfl, nested_nil_iff.1 hnested, hlast⟩
  | cons t front =>
    obtain ⟨rfl, rfl⟩ := List.cons.inj hts
    have hfront : ∀ t ∈ front, t.Writable := fun t ht => hwritable t (List.mem_cons_of_mem _ ht)
    have hlinked := List.isChain_cons.1 h.linked
    exact .inr ⟨hwritable _ List.mem_cons_self, depth', hn,
      ⟨front, last, rfl, hlast, hfront⟩, hlinked.1, hlinked.2, hnested⟩

/-- A bare word does not go on behind itself. -/
theorem written_stops (hp : ¬ token.IsParen) (hs : Separated ((gap, token) :: row))
    (h : Lawful token.kind depth (row.map Prod.snd)) :
    ∀ c ∈ (written row).head?, ¬ Lexer.isBare c := by
  cases row with
  | nil => simp [written]
  | cons entry row =>
    obtain ⟨gap', token'⟩ := entry
    intro c hc hbare
    rw [written_cons] at hc
    cases gap' with
    | cons g gs =>
      obtain rfl : g = c := by simpa using hc
      have hblank : Text.isBlank g := hs.blank (g :: gs, token') (by simp) g List.mem_cons_self
      rw [(isBare_iff.1 hbare).1] at hblank
      cases hblank
    | nil =>
      -- without a gap, a parenthesis or the end of the query is next
      have hnext := (List.isChain_cons_cons.1 hs.between).1 hp
      have hlawful : Lawful token.kind depth (token' :: row.map Prod.snd) := h
      rw [List.nil_append] at hc
      rcases (lawful_cons hlawful).2 with ⟨hnil, _, hfin⟩ | ⟨hw, _⟩
      · rw [List.map_eq_nil_iff.1 hnil, hfin.written] at hc
        cases hc
      · have hparen : token'.IsParen := by
          by_contra hnot
          exact hnext hnot (ne_finish_of_of? hw.kind) rfl
        obtain ⟨d, hd, hq, hv⟩ := hw.written_paren hparen
        rw [Token.written, if_neg (by simp [hq]), hv] at hc
        obtain rfl : d = c := by simpa using hc
        exact hd.not_bare hbare

/-- **What was written spells its tokens again, each at its place.** -/
theorem spells_written {position : ℕ} (h : Lawful previous depth (row.map Prod.snd))
    (hs : Separated row) :
    Spells position previous depth (written row) (placed position row) := by
  induction row generalizing previous depth position with
  | nil =>
    obtain ⟨front, last, hnil, _⟩ := h.finish
    exact absurd hnil.symm (by simp)
  | cons entry row ih =>
    obtain ⟨gap, token⟩ := entry
    have hblank : ∀ c ∈ gap, Text.isBlank c := hs.blank (gap, token) List.mem_cons_self
    rw [written_cons, placed]
    obtain ⟨rfl, ⟨hnil, rfl, hfin⟩ | ⟨hw, depth', hn, hmore⟩⟩ := lawful_cons h
    · rw [List.map_eq_nil_iff.1 hnil, hfin.written]
      obtain ⟨value, span, kind, previous, quoted⟩ := token
      obtain ⟨rfl, rfl, rfl, hallowed⟩ := hfin
      simpa [written, placed] using Spells.finish hblank hallowed
    · have hspelling := hw.spelling fun hp _ => written_stops hp hs hmore
      have hrest : Separated row := ⟨fun entry he => hs.blank entry (List.mem_cons_of_mem _ he),
        (List.isChain_cons.1 hs.between).2⟩
      have hof := hw.kind
      rw [← @String.ofList_toList token.value] at hof
      have hspells : Spells (position + gap.length + token.written.length) token.kind depth'
          (written row) _ := ih hmore hrest
      have hall := Spells.token hblank hspelling hof hn hspells
      rwa [String.ofList_toList] at hall

/-! ## The lexer undoes writing -/

theorem map_unplaced_placed (position : ℕ) (row : List (List Char × Token)) :
    (placed position row).map Token.unplaced = (row.map Prod.snd).map Token.unplaced := by
  induction row generalizing position with
  | nil => rfl
  | cons entry row ih =>
    rw [placed, List.map_cons, List.map_cons, List.map_cons, ih]
    rfl

/-- **The lexer finds the tokens that were written, each at its place**, and the gaps change
nothing but the places. -/
theorem tokenize_written (h : Lawful .start 0 tokens) :
    (∀ row, row.map Prod.snd = tokens → Separated row →
      tokenize (written row) = .ok (placed 0 row) ∧
        (placed 0 row).map Token.unplaced = tokens.map Token.unplaced) ∧
    ∀ row other, row.map Prod.snd = tokens → other.map Prod.snd = tokens →
      Separated row → Separated other →
        (tokenize (written row)).map (List.map Token.unplaced) =
          (tokenize (written other)).map (List.map Token.unplaced) := by
  have hread : ∀ row, row.map Prod.snd = tokens → Separated row →
      tokenize (written row) = .ok (placed 0 row) := by
    rintro row rfl hs
    exact tokenize_eq_ok_iff.2 (spells_written h hs)
  have hsame : ∀ row, row.map Prod.snd = tokens →
      (placed 0 row).map Token.unplaced = tokens.map Token.unplaced := by
    rintro row rfl
    exact map_unplaced_placed 0 row
  refine ⟨fun row hrow hs => ⟨hread row hrow hs, hsame row hrow⟩, ?_⟩
  intro row other hrow hother hs hs'
  rw [hread row hrow hs, hread other hother hs']
  exact congrArg Except.ok ((hsame row hrow).trans (hsame other hother).symm)

/-- A call with a quote inside its quoted text. -/
theorem tokenize_written_call :
    let tokens : List Token :=
      [⟨"len", ⟨0, 0⟩, .text, .start, false⟩, ⟨"(", ⟨0, 0⟩, .leftParen, .text, false⟩,
        ⟨"a\"b", ⟨0, 0⟩, .text, .leftParen, true⟩, ⟨")", ⟨0, 0⟩, .rightParen, .text, false⟩,
        ⟨"", ⟨0, 0⟩, .finish, .rightParen, false⟩]
    let row := [[], [' '], [], ['\n'], []].zip tokens
    Lawful .start 0 tokens ∧ Separated row ∧ tokenize (written row) = .ok (placed 0 row) := by
  intro tokens row
  have hquoted : EvenRuns "a\"b".toList :=
    evenRuns_of_quotes (.plain (by decide) (by decide)
      (.quote (.plain (by decide) (by decide) .nil)))
  have hwritable : ∀ token ∈ tokens.take 4, token.Writable := by
    intro token ht
    simp only [tokens, List.take_succ_cons, List.take_zero, List.mem_cons, List.not_mem_nil,
      or_false] at ht
    rcases ht with rfl | rfl | rfl | rfl
    · exact ⟨rfl, fun _ _ => by simp [Text.isBlank], fun h => absurd h (by decide)⟩
    · exact ⟨rfl, fun _ hp => absurd (.inl rfl) hp, fun h => absurd h (by decide)⟩
    · exact ⟨rfl, fun h => absurd h (by decide), fun _ => hquoted⟩
    · exact ⟨rfl, fun _ hp => absurd (.inr rfl) hp, fun h => absurd h (by decide)⟩
  have hlawful : Lawful .start 0 tokens := {
    finish := ⟨tokens.take 4, _, rfl, ⟨rfl, rfl, rfl, rfl⟩, hwritable⟩
    first := by
      rintro token ⟨⟩
      rfl
    linked := by decide
    nested := nested_cons_iff.2 ⟨0, rfl, nested_cons_iff.2 ⟨1, rfl, nested_cons_iff.2 ⟨1, rfl,
      nested_cons_iff.2 ⟨0, rfl, nested_cons_iff.2 ⟨0, rfl, nested_nil_iff.2 rfl⟩⟩⟩⟩⟩ }
  have hseparated : Separated row :=
    ⟨by simp [row, tokens, Text.isBlank], by simp [row, tokens, Token.IsParen]⟩
  exact ⟨hlawful, hseparated, ((tokenize_written hlawful).1 row rfl hseparated).1⟩

end RecordQuery

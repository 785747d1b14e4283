import RecordQuery.Proofs.Lexing.Soundness

/-!
# Where a lexer fails

A lexer keeps what is left of its query, not the query itself.  Behind this stands one invariant:
what is left is the query from the position on, and the same holds of every open parenthesis.  So
the place of a failure is a place of the query.

* `Lexer.StandsIn` — a lexer that stands in a text;
* `LexError.LiesIn` — a failure at a place of a text, where the text has what the failure is about;
* `Lexer.StandsIn.scan` — **each token leads to such a lexer again, and each failure is of that
  sort**;
* `liesIn_of_tokenize` — the same of a whole query.
-/

namespace RecordQuery

/-- The lexer stands in the text: it has read the text up to its position, and knows of each open
parenthesis where it stands. -/
structure Lexer.StandsIn (text : List Char) (lexer : Lexer) : Prop where
  rest : lexer.rest = text.drop lexer.position
  position : lexer.position ≤ text.length
  opened : ∀ entry ∈ lexer.opened, entry.2 = text.drop entry.1 ∧ entry.1 < lexer.position

/-- The text has at the place of an error what the error is about.  A quoted token stands for a
quotation. -/
def LexError.ShownIn (text : List Char) : LexError → Prop
  | malformed _ token span => span.slice text = token.toList
  | misplaced token _ span => span.slice text = token.toList ∨
    ∃ inside, span.slice text = '"' :: (inside ++ ['"']) ∧ Quotes inside token.toList

/-- The error is about a place of the text. -/
def LexError.LiesIn (text : List Char) (e : LexError) : Prop :=
  e.span.stop ≤ text.length ∧ e.ShownIn text

namespace Lexer

variable {text word behind value : List Char} {lexer after : Lexer} {e : LexError} {start : ℕ}
  {quoted : Bool}

theorem standsIn_ofText (text : List Char) : (ofText text).StandsIn text :=
  ⟨rfl, Nat.zero_le _, by simp [ofText]⟩

theorem emit_eq_error (h : (lexer.emit start value quoted).1 = .error e) :
    e = .misplaced (String.ofList value) lexer.previous ⟨start, lexer.position - start⟩ := by
  simp only [emit, Token.of] at h
  cases hk : TokenKind.of? (String.ofList value) quoted lexer.previous with
  | some kind => simp [hk] at h
  | none =>
    simp only [hk] at h
    exact (Except.error.inj h).symm

theorem position_emit : (lexer.emit start value quoted).2.position = lexer.position := by
  unfold emit
  split <;> rfl

theorem opened_emit : (lexer.emit start value quoted).2.opened = lexer.opened := by
  unfold emit
  split <;> rfl

namespace StandsIn

/-! ## Reading on -/

/-- What is behind a word is the text behind it. -/
theorem eq_drop (h : lexer.StandsIn text) (hr : lexer.rest = word ++ behind) :
    behind = text.drop (lexer.position + word.length) ∧
      lexer.position + word.length ≤ text.length := by
  have hrest := h.rest
  rw [hr] at hrest
  have hlength := congrArg List.length hrest
  have hposition := h.position
  rw [List.length_append, List.length_drop] at hlength
  refine ⟨?_, by omega⟩
  rw [← List.drop_drop, ← hrest, List.drop_left]

/-- What was read is what the text has there. -/
theorem slice (h : lexer.StandsIn text) (hr : lexer.rest = word ++ behind) :
    Span.slice ⟨lexer.position, word.length⟩ text = word := by
  rw [Span.slice, ← h.rest, hr, List.take_left]

/-- A lexer that has read a word stands in the text. -/
theorem advance (h : lexer.StandsIn text) (hr : lexer.rest = word ++ behind)
    {opened : List (ℕ × List Char)}
    (ho : ∀ entry ∈ opened, entry ∈ lexer.opened ∨
      (entry = (lexer.position, lexer.rest) ∧ word ≠ [])) (previous : TokenKind) :
    StandsIn text ⟨behind, lexer.position + word.length, previous, opened⟩ := by
  obtain ⟨hrest, hposition⟩ := h.eq_drop hr
  refine ⟨hrest, hposition, fun entry hentry => ?_⟩
  rcases ho entry hentry with hold | ⟨rfl, hne⟩
  · obtain ⟨htext, hlt⟩ := h.opened entry hold
    exact ⟨htext, Nat.lt_of_lt_of_le hlt (Nat.le_add_right _ _)⟩
  · exact ⟨h.rest, Nat.lt_add_of_pos_right (List.length_pos_iff.2 hne)⟩

theorem skipBlanks (h : lexer.StandsIn text) : lexer.skipBlanks.StandsIn text :=
  h.advance List.takeWhile_append_dropWhile.symm (fun _ => .inl) _

/-! ## Failures -/

theorem liesIn_of_finish (h : lexer.StandsIn text) (he : lexer.finish = .error e) :
    e.LiesIn text := by
  unfold Lexer.finish at he
  split at he
  · rename_i start opened hlast
    obtain ⟨htext, hlt⟩ := h.opened _ (List.mem_of_getLast? hlast)
    simp only at htext hlt
    cases he
    have hposition := h.position
    subst htext
    refine ⟨?_, ?_⟩
    · simp only [LexError.span, Span.stop, List.length_drop]
      omega
    · rw [LexError.ShownIn, Span.slice, List.take_length, String.toList_ofList]
  · unfold Token.finish at he
    split at he
    · cases he
    · cases he
      exact ⟨h.position, .inl (by simp [Span.slice])⟩

/-- A word that is read as a token gives one, or a failure that is about the word. -/
theorem emit (h : lexer.StandsIn text) (hr : lexer.rest = word ++ behind)
    (hafter : after.StandsIn text) (hp : after.position = lexer.position + word.length)
    (hv : value = word ∨ ∃ inside, word = '"' :: (inside ++ ['"']) ∧ Quotes inside value) :
    (after.emit lexer.position value quoted).2.StandsIn text ∧
      ∀ e, (after.emit lexer.position value quoted).1 = .error e → e.LiesIn text := by
  refine ⟨⟨?_, ?_, ?_⟩, fun e he => ?_⟩
  · rw [rest_emit, position_emit]
    exact hafter.rest
  · rw [position_emit]
    exact hafter.position
  · rw [position_emit, opened_emit]
    exact hafter.opened
  · obtain rfl := emit_eq_error he
    have hspan : after.position - lexer.position = word.length := by omega
    rw [hspan]
    refine ⟨(h.eq_drop hr).2, ?_⟩
    rw [LexError.ShownIn, h.slice hr, String.toList_ofList]
    rcases hv with rfl | hq
    · exact .inl rfl
    · exact .inr hq

/-- **Whatever a lexer reads next, it stands in the text afterwards, and a failure is about a
place of the text.** -/
theorem scan (h : lexer.StandsIn text) :
    lexer.scan.2.StandsIn text ∧ ∀ e, lexer.scan.1 = .error e → e.LiesIn text := by
  cases hr : lexer.rest with
  | nil =>
    simp only [Lexer.scan, hr]
    exact ⟨h, fun e he => h.liesIn_of_finish he⟩
  | cons c cs =>
    have hone : lexer.rest = [c] ++ cs := hr
    simp only [Lexer.scan, hr]
    split_ifs with hopen hclose hquote
    · refine h.emit hone (h.advance hone ?_ _) rfl (.inl rfl)
      intro entry hentry
      rcases List.mem_cons.1 hentry with rfl | hentry
      · exact .inr ⟨by rw [hr], List.cons_ne_nil _ _⟩
      · exact .inl hentry
    · cases ho : lexer.opened with
      | nil =>
        refine ⟨h, fun e he => ?_⟩
        cases he
        refine ⟨(h.eq_drop hone).2, ?_⟩
        rw [LexError.ShownIn]
        exact (h.slice hone).trans (congrArg (fun d => [d]) hclose)
      | cons entry outer =>
        refine h.emit hone (h.advance hone ?_ _) rfl (.inl rfl)
        intro other hother
        rw [ho]
        exact .inl (List.mem_cons_of_mem _ hother)
    · cases hq : Quotation.read? cs with
      | none =>
        have hall : lexer.rest = (c :: cs) ++ [] := hr.trans (List.append_nil _).symm
        refine ⟨h.advance hall (fun _ => .inl) _, fun e he => ?_⟩
        cases he
        refine ⟨(h.eq_drop hall).2, ?_⟩
        rw [LexError.ShownIn, String.toList_ofList]
        exact h.slice hall
      | some q =>
        obtain ⟨inside, rfl, hquotes, hlength⟩ := quotes_of_read? hq
        have hword : lexer.rest = ('"' :: (inside ++ ['"'])) ++ q.rest := by
          rw [hr, hquote]
          simp
        have hp : lexer.position + 1 + q.length =
            lexer.position + ('"' :: (inside ++ ['"'])).length := by
          simp only [List.length_cons, List.length_append, List.length_nil]
          omega
        refine h.emit hword ?_ hp (.inr ⟨inside, rfl, hquotes⟩)
        rw [hp]
        exact h.advance hword (fun _ => .inl) _
    · have hword : lexer.rest = (c :: cs.takeWhile isBare) ++ cs.dropWhile isBare := by
        rw [hr, List.cons_append, List.takeWhile_append_dropWhile]
      exact h.emit hword (h.advance hword (fun _ => .inl) _) rfl (.inl rfl)

theorem next (h : lexer.StandsIn text) :
    lexer.next.2.StandsIn text ∧ ∀ e, lexer.next.1 = .error e → e.LiesIn text :=
  h.skipBlanks.scan

/-- Every failure on the way is about a place of the text. -/
theorem liesIn_of_tokens (h : lexer.StandsIn text) (he : lexer.tokens = .error e) :
    e.LiesIn text := by
  fun_induction Lexer.tokens lexer with
  | case1 lexer e' lexer' hnext =>
    cases he
    exact h.next.2 e (by rw [hnext])
  | case2 lexer token lexer' hnext hk => cases he
  | case3 lexer token lexer' hnext hk ih =>
    have hafter : lexer'.StandsIn text := by
      have hstands := h.next.1
      rwa [hnext] at hstands
    cases ht : lexer'.tokens with
    | ok tokens =>
      rw [ht] at he
      cases he
    | error e' =>
      rw [ht] at he
      cases he
      exact ih hafter ht

end StandsIn

end Lexer

variable {text : List Char} {e : LexError}

theorem liesIn_of_tokenize (h : tokenize text = .error e) : e.LiesIn text :=
  (Lexer.standsIn_ofText text).liesIn_of_tokens h

end RecordQuery

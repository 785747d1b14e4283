import RecordQuery.Proofs.Checking.Operations
import RecordQuery.Proofs.Lexing.Failing

/-!
# Reading tokens by index

A lexer may keep the whole query and the place it has got to, instead of what is left.  Then the text
of a token is a part of the query between two places, and its length is the difference of them.  The
places only grow, and none of them is behind the query.

* `Cursor`, `scanChecked`, `tokenizeChecked` — the lexer by index, from checked operations;
* `scanChecked_eq` — **no operation fails**, and one step is that of the lexer which stands there;
* `tokenizeChecked_eq` — **the same of all tokens of a query**.
-/

namespace RecordQuery

/-- A place in a query, and what is known of the part in front of it. -/
structure Cursor where
  /-- How many characters were read. -/
  position : ℕ
  /-- The kind of the last token. -/
  previous : TokenKind
  /-- The places of the open parentheses, innermost first. -/
  opened : List ℕ

/-- What a lexer knows of the part already read. -/
def Lexer.cursor (lexer : Lexer) : Cursor :=
  ⟨lexer.position, lexer.previous, lexer.opened.map Prod.fst⟩

namespace Cursor

/-! ## The lexer by index -/

/-- Reads past blanks. -/
def skipBlanks (text : List Char) (cursor : Cursor) : Cursor :=
  { cursor with
    position := cursor.position + ((text.drop cursor.position).takeWhile Text.isBlank).length }

/-- Ends a token that was read already. -/
def emit (cursor : Cursor) (span : Span) (value : List Char) (quoted : Bool) :
    Except LexError Token × Cursor :=
  match Token.of (String.ofList value) span cursor.previous quoted with
  | .ok token => (.ok token, { cursor with previous := token.kind })
  | .error e => (.error e, cursor)

/-- The answer at the end of the query. -/
def finishChecked (text : List Char) (cursor : Cursor) : Option (Except LexError Token) :=
  match cursor.opened.getLast? with
  | some start => do
    let token ← Checked.slice? text start text.length
    let length ← Checked.minus? text.length start
    some (.error (.malformed .neverClosed (String.ofList token) ⟨start, length⟩))
  | none => some (Token.finish cursor.position cursor.previous)

/-- Reads a token that starts at the next character. -/
def scanChecked (text : List Char) (cursor : Cursor) : Option (Except LexError Token × Cursor) :=
  let start := cursor.position
  match text.drop start with
  | [] => (cursor.finishChecked text).map (·, cursor)
  | c :: cs =>
    if c = '(' then
      some ({ cursor with position := start + 1, opened := start :: cursor.opened }.emit
        ⟨start, 1⟩ [c] false)
    else if c = ')' then
      match cursor.opened with
      | [] => some (.error (.malformed .strayClose ")" ⟨start, 1⟩), cursor)
      | _ :: outer =>
        some ({ cursor with position := start + 1, opened := outer }.emit ⟨start, 1⟩ [c] false)
    else if c = '"' then
      match Quotation.read? cs with
      | some q => do
        let position := start + 1 + q.length
        let length ← Checked.minus? position start
        some ({ cursor with position := position }.emit ⟨start, length⟩ q.value true)
      | none => do
        let token ← Checked.slice? text start text.length
        let length ← Checked.minus? text.length start
        some (.error (.malformed .unterminated (String.ofList token) ⟨start, length⟩),
          { cursor with position := text.length })
    else do
      let word := c :: cs.takeWhile Lexer.isBare
      let position := start + word.length
      let length ← Checked.minus? position start
      some ({ cursor with position := position }.emit ⟨start, length⟩ word false)

/-- The next token, and the place behind it. -/
def nextChecked (text : List Char) (cursor : Cursor) : Option (Except LexError Token × Cursor) :=
  (cursor.skipBlanks text).scanChecked text

@[simp] theorem position_emit (cursor : Cursor) (span : Span) (value : List Char) (quoted : Bool) :
    (cursor.emit span value quoted).2.position = cursor.position := by
  unfold emit
  split <;> rfl

theorem position_of_emit {cursor cursor' : Cursor} {span : Span} {value : List Char} {quoted : Bool}
    {answer : Except LexError Token} (h : cursor.emit span value quoted = (answer, cursor')) :
    cursor'.position = cursor.position := by
  rw [← position_emit cursor span value quoted, h]

theorem kind_of_finishChecked {text : List Char} {cursor : Cursor} {token : Token}
    (h : cursor.finishChecked text = some (.ok token)) : token.kind = .finish := by
  unfold finishChecked at h
  split at h
  · simp only [Option.bind_eq_bind, Option.bind_eq_some_iff] at h
    obtain ⟨_, _, _, _, h⟩ := h
    cases h
  · unfold Token.finish at h
    split_ifs at h
    · cases h
      rfl
    · cases h

/-- A token that is not the finishing one takes at least one character. -/
theorem lt_of_scanChecked {text : List Char} {cursor cursor' : Cursor} {token : Token}
    (h : cursor.scanChecked text = some (.ok token, cursor')) (hk : token.kind ≠ .finish) :
    cursor.position < cursor'.position ∧ cursor.position < text.length := by
  unfold scanChecked at h
  dsimp only at h
  split at h
  · obtain ⟨answer, hfinish, hanswer⟩ := Option.map_eq_some_iff.1 h
    cases hanswer
    exact absurd (kind_of_finishChecked hfinish) hk
  · rename_i c cs hdrop
    have hinside : cursor.position < text.length := by
      have hlength := congrArg List.length hdrop
      rw [List.length_drop, List.length_cons] at hlength
      omega
    refine ⟨?_, hinside⟩
    split_ifs at h
    · rw [position_of_emit (Option.some.inj h)]
      exact Nat.lt_succ_self _
    · split at h
      · cases h
      · rw [position_of_emit (Option.some.inj h)]
        exact Nat.lt_succ_self _
    · split at h
      · simp only [Option.bind_eq_bind, Option.bind_eq_some_iff] at h
        obtain ⟨_, _, h⟩ := h
        rw [position_of_emit (Option.some.inj h)]
        dsimp only
        omega
      · simp only [Option.bind_eq_bind, Option.bind_eq_some_iff] at h
        obtain ⟨_, _, _, _, h⟩ := h
        cases h
    · simp only [Option.bind_eq_bind, Option.bind_eq_some_iff] at h
      obtain ⟨_, _, h⟩ := h
      rw [position_of_emit (Option.some.inj h)]
      simp only [List.length_cons]
      omega

/-- All further tokens, the finishing one included. -/
def tokensChecked (text : List Char) (cursor : Cursor) : Checked LexError (List Token) :=
  match _h : cursor.nextChecked text with
  | none => Checked.need none
  | some (.error e, _) => .of (.error e)
  | some (.ok token, cursor') =>
    if _hk : token.kind = .finish then .of (.ok [token])
    else do
      let tokens ← tokensChecked text cursor'
      .of (.ok (token :: tokens))
termination_by text.length - cursor.position
decreasing_by
  have hlt := lt_of_scanChecked _h _hk
  have hskip : cursor.position ≤ (cursor.skipBlanks text).position := Nat.le_add_right _ _
  omega

end Cursor

/-- All tokens of a query, the finishing one included. -/
def tokenizeChecked (text : List Char) : Checked LexError (List Token) :=
  Cursor.tokensChecked text ⟨0, .start, []⟩

/-! ## One step -/

namespace Lexer

variable {text : List Char} {lexer : Lexer}

/-- A token of the same length is ended in the same way. -/
theorem emit_cursor (lexer : Lexer) (start length : ℕ) (value : List Char) (quoted : Bool)
    (hlength : lexer.position - start = length) :
    lexer.cursor.emit ⟨start, length⟩ value quoted =
      ((lexer.emit start value quoted).1, (lexer.emit start value quoted).2.cursor) := by
  subst hlength
  simp only [Cursor.emit, emit, cursor]
  cases Token.of (String.ofList value) ⟨start, lexer.position - start⟩ lexer.previous quoted <;> rfl

namespace StandsIn

theorem skipBlanks_cursor (h : lexer.StandsIn text) :
    lexer.cursor.skipBlanks text = lexer.skipBlanks.cursor := by
  simp only [Cursor.skipBlanks, cursor, Lexer.skipBlanks, h.rest]

theorem finishChecked_eq (h : lexer.StandsIn text) :
    lexer.cursor.finishChecked text = some lexer.finish := by
  rw [Cursor.finishChecked, Lexer.finish]
  change (match (lexer.opened.map Prod.fst).getLast? with | some start => _ | none => _) = _
  rw [List.getLast?_map]
  cases hlast : lexer.opened.getLast? with
  | none => rfl
  | some entry =>
    obtain ⟨start, opened⟩ := entry
    obtain ⟨htext, hlt⟩ := h.opened _ (List.mem_of_getLast? hlast)
    dsimp only at htext hlt
    have hinside : start ≤ text.length := Nat.le_of_lt (Nat.lt_of_lt_of_le hlt h.position)
    simp only [Option.map_some, Option.bind_eq_bind, Checked.slice?_drop hinside,
      Checked.minus?_of_le hinside, Option.bind_some, htext, List.length_drop]

/-- **No operation fails, and one step is that of the lexer** that stands there. -/
theorem scanChecked_eq (h : lexer.StandsIn text) :
    lexer.cursor.scanChecked text = some (lexer.scan.1, lexer.scan.2.cursor) := by
  have hposition : lexer.cursor.position = lexer.position := rfl
  rw [Cursor.scanChecked]
  dsimp only
  rw [hposition, ← h.rest]
  cases hr : lexer.rest with
  | nil =>
    dsimp only
    rw [h.finishChecked_eq]
    simp only [Lexer.scan, hr]
    rfl
  | cons c cs =>
    simp only [Lexer.scan, hr]
    split_ifs with hopen hclose hquote
    · exact congrArg some (emit_cursor ⟨cs, _, _, (_, c :: cs) :: lexer.opened⟩ _ _ _ _
        (Nat.add_sub_cancel_left _ 1))
    · have hcursor : lexer.cursor.opened = lexer.opened.map Prod.fst := rfl
      rw [hcursor]
      cases ho : lexer.opened with
      | nil => rfl
      | cons entry outer =>
        exact congrArg some (emit_cursor ⟨cs, _, _, outer⟩ _ _ _ _ (Nat.add_sub_cancel_left _ 1))
    · cases hq : Quotation.read? cs with
      | none =>
        have hrest := h.rest
        have hend : text.length = lexer.position + (cs.length + 1) := by
          have hlength := congrArg List.length hrest
          rw [hr, List.length_drop, List.length_cons] at hlength
          have hposition := h.position
          omega
        have htoken : text.drop lexer.position = c :: cs := hrest.symm.trans hr
        have hlength : text.length - lexer.position = cs.length + 1 := by omega
        simp only [Checked.slice?_drop h.position, Checked.minus?_of_le h.position, htoken, hlength,
          Option.bind_eq_bind, Option.bind_some]
        rw [hend]
        rfl
      | some q =>
        have hminus : Checked.minus? (lexer.position + 1 + q.length) lexer.position =
            some (1 + q.length) := by
          rw [Nat.add_assoc, Nat.add_comm, Checked.minus?_add]
        have hspan : lexer.position + 1 + q.length - lexer.position = 1 + q.length := by omega
        simp only [hminus, Option.bind_eq_bind, Option.bind_some]
        exact congrArg some (emit_cursor ⟨q.rest, _, _, lexer.opened⟩ _ _ _ _ hspan)
    · have hminus : ∀ word : List Char,
          Checked.minus? (lexer.position + word.length) lexer.position = some word.length := by
        intro word
        rw [Nat.add_comm, Checked.minus?_add]
      simp only [hminus, Option.bind_eq_bind, Option.bind_some]
      exact congrArg some (emit_cursor ⟨cs.dropWhile isBare, _, _, lexer.opened⟩ _ _ _ _
        (Nat.add_sub_cancel_left _ _))

theorem nextChecked_eq (h : lexer.StandsIn text) :
    lexer.cursor.nextChecked text = some (lexer.next.1, lexer.next.2.cursor) := by
  rw [Cursor.nextChecked, h.skipBlanks_cursor]
  exact h.skipBlanks.scanChecked_eq

/-! ## All tokens -/

theorem tokensChecked_eq (h : lexer.StandsIn text) :
    lexer.cursor.tokensChecked text = .of lexer.tokens := by
  fun_induction Lexer.tokens lexer with
  | case1 lexer e lexer' hnext =>
    have hchecked := h.nextChecked_eq
    rw [hnext] at hchecked
    rw [Cursor.tokensChecked]
    split <;> rename_i hanswer <;> rw [hchecked] at hanswer <;> cases hanswer
    rfl
  | case2 lexer token lexer' hnext hk =>
    have hchecked := h.nextChecked_eq
    rw [hnext] at hchecked
    rw [Cursor.tokensChecked]
    split <;> rename_i hanswer <;> rw [hchecked] at hanswer <;> cases hanswer
    exact dif_pos hk
  | case3 lexer token lexer' hnext hk ih =>
    have hchecked := h.nextChecked_eq
    have hafter := h.next.1
    rw [hnext] at hchecked hafter
    rw [Cursor.tokensChecked]
    split <;> rename_i hanswer <;> rw [hchecked] at hanswer <;> cases hanswer
    rw [dif_neg hk, ih hafter]
    cases lexer'.tokens <;> rfl

end StandsIn

end Lexer

/-- **No operation of the lexer by index fails**, and it reads the same tokens. -/
theorem tokenizeChecked_eq (text : List Char) : tokenizeChecked text = .of (tokenize text) :=
  (Lexer.standsIn_ofText text).tokensChecked_eq

end RecordQuery

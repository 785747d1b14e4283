import RecordQuery.Text.Blank
import RecordQuery.Token.Basic

/-!
# The lexer

The lexer reads a query from left to right, one token at a time.  Blanks separate tokens;
parentheses stand for themselves; a quoted token ends at the next quote, and any other token
ends at a blank or a parenthesis.

* `Lexer.next` — the next token or the reason why there is none, and the lexer afterwards; a
  lexer may be asked again after a failure;
* `tokenize` — all tokens of a query, the finishing token included.

At the end of the query the lexer stands still and gives the finishing token again and again.
-/

namespace RecordQuery

/-- What is left to read, and what is known of the part already read. -/
structure Lexer where
  /-- The characters still to be read. -/
  rest : List Char
  /-- How many characters were read. -/
  position : Nat
  /-- The kind of the last token. -/
  previous : TokenKind
  /-- The open parentheses, innermost first: the place of each and the query from there on. -/
  opened : List (Nat × List Char)
  deriving DecidableEq

/-- The inside of a quoted token: its value, the number of characters up to the closing quote
and including it, and the characters behind it. -/
structure Quotation where
  value : List Char
  length : Nat
  rest : List Char
  deriving DecidableEq

namespace Quotation

/-- Puts characters in front of the value that took `count` characters to write. -/
def prepend (written : List Char) (count : Nat) (q : Quotation) : Quotation :=
  ⟨written ++ q.value, count + q.length, q.rest⟩

/-- Reads up to the closing quote.  A backslash in front of a quote makes the quote a part of
the value; any other character behind a backslash is kept together with the backslash. -/
def read? : List Char → Option Quotation
  | [] => none
  | '"' :: cs => some ⟨[], 1, cs⟩
  | ['\\'] => none
  | '\\' :: c :: cs =>
    (read? cs).map (prepend (if c = '"' then ['"'] else ['\\', c]) 2)
  | c :: cs => (read? cs).map (prepend [c] 1)

/-- The closing quote is read, so what is behind it is shorter. -/
theorem length_rest_lt {cs : List Char} {q : Quotation}
    (h : read? cs = some q) : q.rest.length < cs.length := by
  fun_induction read? cs generalizing q with
  | case1 => simp at h
  | case2 cs => simp at h; subst h; simp
  | case3 => simp at h
  | case4 c cs ih =>
    obtain ⟨r, hr, rfl⟩ := Option.map_eq_some_iff.1 h
    have := ih hr
    simp only [prepend, List.length_cons]; omega
  | case5 c cs _ _ _ ih =>
    obtain ⟨r, hr, rfl⟩ := Option.map_eq_some_iff.1 h
    have := ih hr
    simp only [prepend, List.length_cons]; omega

end Quotation

namespace Lexer

/-- The lexer at the start of a query. -/
def ofText (text : List Char) : Lexer := ⟨text, 0, .start, []⟩

/-- Whether a character may stand in a bare token. -/
def isBare (c : Char) : Bool := !Text.isBlank c && c != '(' && c != ')'

/-- Reads past blanks. -/
def skipBlanks (lexer : Lexer) : Lexer :=
  { lexer with
    rest := lexer.rest.dropWhile Text.isBlank
    position := lexer.position + (lexer.rest.takeWhile Text.isBlank).length }

/-- Ends a token that starts at `start`: the lexer has read it already, and now decides its
kind. -/
def emit (lexer : Lexer) (start : Nat) (value : List Char) (quoted : Bool) :
    Except LexError Token × Lexer :=
  match Token.of (String.ofList value) ⟨start, lexer.position - start⟩ lexer.previous quoted with
  | .ok token => (.ok token, { lexer with previous := token.kind })
  | .error e => (.error e, lexer)

/-- The answer at the end of the query. -/
def finish (lexer : Lexer) : Except LexError Token :=
  match lexer.opened.getLast? with
  | some (start, text) =>
    .error (.malformed .neverClosed (String.ofList text) ⟨start, text.length⟩)
  | none => Token.finish lexer.position lexer.previous

/-- Reads a token that starts at the next character. -/
def scan (lexer : Lexer) : Except LexError Token × Lexer :=
  let start := lexer.position
  match lexer.rest with
  | [] => (lexer.finish, lexer)
  | c :: cs =>
    if c = '(' then
      { lexer with
        rest := cs, position := start + 1, opened := (start, c :: cs) :: lexer.opened }.emit
        start [c] false
    else if c = ')' then
      match lexer.opened with
      | [] => (.error (.malformed .strayClose ")" ⟨start, 1⟩), lexer)
      | _ :: outer =>
        { lexer with rest := cs, position := start + 1, opened := outer }.emit start [c] false
    else if c = '"' then
      match Quotation.read? cs with
      | some q =>
        { lexer with rest := q.rest, position := start + 1 + q.length }.emit start q.value true
      | none =>
        let length := cs.length + 1
        (.error (.malformed .unterminated (String.ofList (c :: cs)) ⟨start, length⟩),
          { lexer with rest := [], position := start + length })
    else
      let word := c :: cs.takeWhile isBare
      { lexer with rest := cs.dropWhile isBare, position := start + word.length }.emit
        start word false

/-- The next token, and the lexer behind it. -/
def next (lexer : Lexer) : Except LexError Token × Lexer := lexer.skipBlanks.scan

/-! ## Progress -/

theorem length_dropWhile_le {α : Type} (p : α → Bool) (xs : List α) :
    (xs.dropWhile p).length ≤ xs.length := (List.dropWhile_suffix p).length_le

@[simp] theorem rest_emit (lexer : Lexer) (start : Nat) (value : List Char) (quoted : Bool) :
    (lexer.emit start value quoted).2.rest = lexer.rest := by
  unfold emit; split <;> rfl

theorem kind_of_finish {lexer : Lexer} {token : Token} (h : lexer.finish = .ok token) :
    token.kind = .finish := by
  unfold finish Token.finish at h
  split at h
  · cases h
  · split at h
    · cases h; rfl
    · cases h

theorem length_rest_scan_lt {lexer : Lexer} {token : Token}
    (h : lexer.scan.1 = .ok token) (hk : token.kind ≠ .finish) :
    lexer.scan.2.rest.length < lexer.rest.length := by
  cases hr : lexer.rest with
  | nil =>
    simp only [scan, hr] at h
    exact absurd (kind_of_finish h) hk
  | cons c cs =>
    have hword := length_dropWhile_le isBare cs
    simp only [scan, hr] at h ⊢
    split
    · simp
    · split
      · split
        · simp_all
        · simp
      · split
        · split
          · rename_i q hq
            have := Quotation.length_rest_lt hq
            simp only [rest_emit, List.length_cons]; omega
          · simp
        · simp only [rest_emit, List.length_cons]; omega

/-- A token that is not the finishing one takes at least one character. -/
theorem length_rest_next_lt {lexer lexer' : Lexer} {token : Token}
    (h : lexer.next = (.ok token, lexer')) (hk : token.kind ≠ .finish) :
    lexer'.rest.length < lexer.rest.length := by
  have hs : lexer.skipBlanks.rest.length ≤ lexer.rest.length := length_dropWhile_le _ _
  have hscan : lexer.skipBlanks.scan = (.ok token, lexer') := h
  have hok : lexer.skipBlanks.scan.1 = .ok token := by rw [hscan]
  have hlt := length_rest_scan_lt hok hk
  rw [hscan] at hlt
  exact Nat.lt_of_lt_of_le hlt hs

/-- All further tokens, the finishing one included. -/
def tokens (lexer : Lexer) : Except LexError (List Token) :=
  match _h : lexer.next with
  | (.error e, _) => .error e
  | (.ok token, lexer') =>
    if _hk : token.kind = .finish then .ok [token]
    else (tokens lexer').map (token :: ·)
termination_by lexer.rest.length
decreasing_by exact length_rest_next_lt _h _hk

end Lexer

/-- All tokens of a query, the finishing one included. -/
def tokenize (text : List Char) : Except LexError (List Token) := (Lexer.ofText text).tokens

end RecordQuery

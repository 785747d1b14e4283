import RecordQuery.Proofs.Lexing.Failing

/-!
# Where a lexer stands still

A lexer may be asked again and again, also behind a failure.  A call that reads nothing leaves the
lexer where the next call finds the same, so from there on every answer is the same.  All other
calls read a character that is no blank, and of these the query has only so many.

* `Lexer.scan_reads_or_stays` — what one call reads, if it reads anything;
* `Lexer.after`, `Lexer.answer` — the lexer behind some calls, and the answer of the next one;
* `Lexer.repeats_of_still` — **a lexer that stands still gives one answer for good**;
* `Lexer.tokensWithin_eq` — the tokens of a query, with the calls counted;
* `KeepingLexer` — a lexer that keeps its finishing token and looks at nothing else afterwards;
* `calls_make_progress` — **all of it together**, for every query and any number of calls.
-/

namespace RecordQuery

/-- Between two places of a text there is a character that is no blank. -/
def WordBetween (text : List Char) (start stop : ℕ) : Prop :=
  ∃ i c, start ≤ i ∧ i < stop ∧ text[i]? = some c ∧ Text.isBlank c = false

namespace Lexer

variable {text : List Char} {lexer lexer' : Lexer} {token : Token}

/-! ## One call -/

@[simp] theorem skipBlanks_skipBlanks (lexer : Lexer) :
    lexer.skipBlanks.skipBlanks = lexer.skipBlanks := by
  have hgap : ∀ c ∈ ([] : List Char), Text.isBlank c := nofun
  exact skipBlanks_append hgap not_head?_dropWhile

/-- What a lexer reads from the next character on: a word, or nothing at all. -/
theorem scan_reads_or_stays (lexer : Lexer) :
    lexer.scan.2 = lexer ∨ ∃ word, word ≠ [] ∧ lexer.rest = word ++ lexer.scan.2.rest ∧
      lexer.scan.2.position = lexer.position + word.length := by
  cases hr : lexer.rest with
  | nil =>
    simp only [scan, hr]
    exact .inl trivial
  | cons c cs =>
    simp only [scan, hr]
    split_ifs with hopen hclose hquote
    · refine .inr ⟨[c], List.cons_ne_nil _ _, ?_, position_emit⟩
      rw [rest_emit]
      rfl
    · cases ho : lexer.opened with
      | nil => exact .inl rfl
      | cons entry outer =>
        refine .inr ⟨[c], List.cons_ne_nil _ _, ?_, position_emit⟩
        rw [rest_emit]
        rfl
    · cases hq : Quotation.read? cs with
      | none => exact .inr ⟨c :: cs, List.cons_ne_nil _ _, (List.append_nil _).symm, rfl⟩
      | some q =>
        obtain ⟨inside, rfl, _, hlength⟩ := quotes_of_read? hq
        refine .inr ⟨c :: (inside ++ ['"']), List.cons_ne_nil _ _, ?_, ?_⟩
        · rw [rest_emit]
          simp
        · rw [position_emit, hlength]
          simp only [List.length_cons, List.length_append, List.length_nil]
          omega
    · refine .inr ⟨c :: cs.takeWhile isBare, List.cons_ne_nil _ _, ?_, position_emit⟩
      rw [rest_emit, List.cons_append, List.takeWhile_append_dropWhile]

/-- The next call finds what this one found. -/
def Still (lexer : Lexer) : Prop := lexer.next.2.next = lexer.next

/-- A call that reads nothing but blanks stands still. -/
theorem still_of_stays (h : lexer.skipBlanks.scan.2 = lexer.skipBlanks) : lexer.Still := by
  show lexer.skipBlanks.scan.2.skipBlanks.scan = lexer.skipBlanks.scan
  rw [h, skipBlanks_skipBlanks]

theorem still_of_rest (h : lexer.rest = []) : lexer.Still := by
  refine still_of_stays ?_
  have hrest : lexer.skipBlanks.rest = [] := by
    simp only [skipBlanks, h, List.dropWhile_nil]
  simp only [scan, hrest]

/-- **A call stands still, or it reads a word** and the blanks in front of it. -/
theorem still_or_reads (lexer : Lexer) :
    lexer.Still ∨ ∃ gap c word, (∀ d ∈ gap, Text.isBlank d) ∧ Text.isBlank c = false ∧
      lexer.rest = gap ++ (c :: word) ++ lexer.next.2.rest ∧
      lexer.next.2.position = lexer.position + gap.length + (c :: word).length := by
  rcases scan_reads_or_stays lexer.skipBlanks with hstays | ⟨word, hne, hrest, hposition⟩
  · exact .inl (still_of_stays hstays)
  · obtain ⟨c, word, rfl⟩ := List.exists_cons_of_ne_nil hne
    have hblank : ¬ Text.isBlank c := not_head?_dropWhile c (by
      show (lexer.skipBlanks.rest).head? = some c
      rw [hrest]
      rfl)
    refine .inr ⟨lexer.rest.takeWhile Text.isBlank, c, word, fun _ => List.mem_takeWhile_imp,
      by simpa using hblank, ?_, hposition⟩
    calc
      lexer.rest = lexer.rest.takeWhile Text.isBlank ++ lexer.skipBlanks.rest :=
        List.takeWhile_append_dropWhile.symm
      _ = lexer.rest.takeWhile Text.isBlank ++ (c :: word) ++ lexer.next.2.rest := by
        rw [hrest, List.append_assoc]
        rfl

/-- Only at the end of a query, where it stands still, does a lexer give the finishing token. -/
theorem next_of_finish (h : lexer.next = (.ok token, lexer')) (hk : token.kind = .finish) :
    lexer'.next = (.ok token, lexer') := by
  have hstill : lexer.Still := by
    by_cases hrest : lexer.skipBlanks.rest = []
    · refine still_of_stays ?_
      simp only [scan, hrest]
    · obtain ⟨_, _, _, _, _, hof, _, _, rfl⟩ := spelling_of_scan h hrest not_head?_dropWhile
      exact absurd hk (ne_finish_of_of? hof)
  rw [Still, h] at hstill
  exact hstill

/-! ## Any number of calls -/

/-- The lexer behind some calls, whatever they gave. -/
def after (lexer : Lexer) : ℕ → Lexer
  | 0 => lexer
  | calls + 1 => (lexer.after calls).next.2

/-- What the next call gives behind some others. -/
def answer (lexer : Lexer) (calls : ℕ) : Except LexError Token := (lexer.after calls).next.1

theorem StandsIn.after (h : lexer.StandsIn text) (calls : ℕ) :
    (lexer.after calls).StandsIn text := by
  induction calls with
  | zero => exact h
  | succ calls ih => exact ih.next.1

/-- **A lexer that stands still gives one answer for good.** -/
theorem repeats_of_still {calls later : ℕ} (h : (lexer.after calls).Still) (hle : calls ≤ later) :
    lexer.answer later = lexer.answer calls := by
  have hnext : (lexer.after later).next = (lexer.after calls).next := by
    induction later, hle using Nat.le_induction with
    | base => rfl
    | succ later _ ih =>
      show (lexer.after later).next.2.next = _
      rw [ih]
      exact h
  rw [answer, answer, hnext]

/-- Each call reads at least one character, unless the lexer stood still before. -/
theorem still_or_length_rest_le (lexer : Lexer) (calls : ℕ) :
    (∃ k < calls, (lexer.after k).Still) ∨
      (lexer.after calls).rest.length + calls ≤ lexer.rest.length := by
  induction calls with
  | zero => exact .inr (Nat.le_refl _)
  | succ calls ih =>
    rcases ih with ⟨k, hk, hstill⟩ | hle
    · exact .inl ⟨k, Nat.lt_succ_of_lt hk, hstill⟩
    · rcases still_or_reads (lexer.after calls) with hstill | ⟨gap, c, word, _, _, hrest, _⟩
      · exact .inl ⟨calls, Nat.lt_succ_self _, hstill⟩
      · have hlength := congrArg List.length hrest
        simp only [List.length_append, List.length_cons] at hlength
        refine .inr ?_
        show (lexer.after calls).next.2.rest.length + (calls + 1) ≤ _
        omega

/-- Behind as many calls as there are characters, the answer is the last one. -/
theorem answer_of_length_le {calls : ℕ} (h : lexer.rest.length ≤ calls) :
    lexer.answer calls = lexer.answer lexer.rest.length := by
  rcases still_or_length_rest_le lexer lexer.rest.length with ⟨k, hk, hstill⟩ | hle
  · rw [repeats_of_still hstill (hk.le.trans h), repeats_of_still hstill hk.le]
  · have hrest : (lexer.after lexer.rest.length).rest = [] :=
      List.length_eq_zero_iff.1 (by omega)
    exact repeats_of_still (still_of_rest hrest) h

/-- A call that does not stand still reads a word of the text. -/
theorem StandsIn.wordBetween_or_still (h : lexer.StandsIn text) :
    WordBetween text lexer.position lexer.next.2.position ∨ lexer.Still := by
  rcases still_or_reads lexer with hstill | ⟨gap, c, word, _, hc, hrest, hposition⟩
  · exact .inr hstill
  · refine .inl ⟨lexer.position + gap.length, c, Nat.le_add_right _ _, ?_, ?_, hc⟩
    · rw [hposition, List.length_cons]
      omega
    · rw [← List.getElem?_drop, ← h.rest, hrest, List.append_assoc,
        List.getElem?_append_right (Nat.le_refl _), Nat.sub_self]
      rfl

/-! ## All tokens -/

/-- All further tokens, the finishing one included, if so many calls are enough. -/
def tokensWithin : ℕ → Lexer → Option (Except LexError (List Token))
  | 0, _ => none
  | calls + 1, lexer =>
    match lexer.next with
    | (.error e, _) => some (.error e)
    | (.ok token, lexer') =>
      if token.kind = .finish then some (.ok [token])
      else (tokensWithin calls lexer').map fun tokens => tokens.map (token :: ·)

/-- **One call for each character and one more are enough.** -/
theorem tokensWithin_eq {calls : ℕ} (h : lexer.rest.length < calls) :
    tokensWithin calls lexer = some lexer.tokens := by
  induction calls generalizing lexer with
  | zero => omega
  | succ calls ih =>
    rw [tokensWithin]
    cases hnext : lexer.next with
    | mk answer lexer' =>
      cases answer with
      | error e =>
        dsimp only
        rw [tokens]
        split <;> simp_all
      | ok token =>
        dsimp only
        by_cases hk : token.kind = .finish
        · rw [if_pos hk, tokens_of_finish hnext hk]
        · have hlt := length_rest_next_lt hnext hk
          rw [if_neg hk, ih (by omega), tokens_of_token hnext hk]
          rfl

end Lexer

/-! ## Keeping the finishing token -/

/-- A lexer that keeps the finishing token from the call on that gave it. -/
structure KeepingLexer where
  lexer : Lexer
  kept : Option Token

namespace KeepingLexer

/-- The lexer at the start of a query. -/
def ofText (text : List Char) : KeepingLexer := ⟨.ofText text, none⟩

/-- The next token, which is the one that was kept if there is one. -/
def next (keeping : KeepingLexer) : Except LexError Token × KeepingLexer :=
  match keeping.kept with
  | some token => (.ok token, keeping)
  | none =>
    match keeping.lexer.next with
    | (.error e, lexer) => (.error e, ⟨lexer, none⟩)
    | (.ok token, lexer) => (.ok token, ⟨lexer, if token.kind = .finish then some token else none⟩)

/-- The lexer behind some calls, whatever they gave. -/
def after (keeping : KeepingLexer) : ℕ → KeepingLexer
  | 0 => keeping
  | calls + 1 => (keeping.after calls).next.2

/-- What the next call gives behind some others. -/
def answer (keeping : KeepingLexer) (calls : ℕ) : Except LexError Token :=
  (keeping.after calls).next.1

/-- What was kept is what the lexer would give again. -/
def Sound (keeping : KeepingLexer) : Prop :=
  ∀ token, keeping.kept = some token → keeping.lexer.next = (.ok token, keeping.lexer)

variable {keeping : KeepingLexer}

/-- One call: the same answer, and the same lexer behind it. -/
theorem next_eq (h : keeping.Sound) :
    keeping.next.1 = keeping.lexer.next.1 ∧ keeping.next.2.lexer = keeping.lexer.next.2 ∧
      keeping.next.2.Sound := by
  unfold next
  cases hkept : keeping.kept with
  | some token =>
    rw [h token hkept]
    exact ⟨rfl, rfl, h⟩
  | none =>
    dsimp only
    cases hnext : keeping.lexer.next with
    | mk answer lexer =>
      cases answer with
      | error e => exact ⟨rfl, rfl, nofun⟩
      | ok token =>
        refine ⟨rfl, rfl, fun last hlast => ?_⟩
        dsimp only at hlast
        split_ifs at hlast with hk
        cases hlast
        exact Lexer.next_of_finish hnext hk

theorem after_eq (h : keeping.Sound) (calls : ℕ) :
    (keeping.after calls).lexer = keeping.lexer.after calls ∧ (keeping.after calls).Sound := by
  induction calls with
  | zero => exact ⟨rfl, h⟩
  | succ calls ih =>
    obtain ⟨hlexer, hsound⟩ := ih
    obtain ⟨_, hnext, hafter⟩ := next_eq hsound
    refine ⟨?_, hafter⟩
    show (keeping.after calls).next.2.lexer = (keeping.lexer.after calls).next.2
    rw [hnext, hlexer]

/-- **To keep the finishing token changes no answer**, and not where the lexer stands. -/
theorem after_answer_eq (text : List Char) (calls : ℕ) :
    ((ofText text).after calls).lexer = (Lexer.ofText text).after calls ∧
      (ofText text).answer calls = (Lexer.ofText text).answer calls := by
  have hstart : (ofText text).Sound := nofun
  obtain ⟨hlexer, hsound⟩ := after_eq hstart calls
  refine ⟨hlexer, ?_⟩
  rw [answer, (next_eq hsound).1, hlexer]
  rfl

end KeepingLexer

/-! ## Progress -/

/-- What any number of calls comes to, failures included. -/
structure Progress (text : List Char) : Prop where
  /-- It stands in the text, and has the characters from its position on still to read. -/
  position : ∀ calls, ((Lexer.ofText text).after calls).position ≤ text.length ∧
    ((Lexer.ofText text).after calls).rest =
      text.drop ((Lexer.ofText text).after calls).position
  /-- Each call reads a character that is no blank, or gives what all later calls give. -/
  reads_or_repeats : ∀ calls,
    WordBetween text ((Lexer.ofText text).after calls).position
        ((Lexer.ofText text).after (calls + 1)).position ∨
      ∀ later, calls ≤ later →
        (Lexer.ofText text).answer later = (Lexer.ofText text).answer calls
  /-- One call for each character, and from then on the same. -/
  settles : ∀ calls, text.length ≤ calls →
    (Lexer.ofText text).answer calls = (Lexer.ofText text).answer text.length
  tokenize : (Lexer.ofText text).tokensWithin (text.length + 1) = some (tokenize text)
  /-- So it is too if the finishing token is kept. -/
  keeping : ∀ calls,
    ((KeepingLexer.ofText text).after calls).lexer = (Lexer.ofText text).after calls ∧
      (KeepingLexer.ofText text).answer calls = (Lexer.ofText text).answer calls

/-- **A lexer makes progress until it stands still**, on every text. -/
theorem calls_make_progress (text : List Char) : Progress text where
  position calls := by
    have hstands := (Lexer.standsIn_ofText text).after calls
    exact ⟨hstands.position, hstands.rest⟩
  reads_or_repeats calls := by
    have hstands := (Lexer.standsIn_ofText text).after calls
    rcases hstands.wordBetween_or_still with hword | hstill
    · exact .inl hword
    · exact .inr fun _ hle => Lexer.repeats_of_still hstill hle
  settles _ hle := Lexer.answer_of_length_le hle
  tokenize := Lexer.tokensWithin_eq (Nat.lt_succ_self _)
  keeping := KeepingLexer.after_answer_eq text

end RecordQuery

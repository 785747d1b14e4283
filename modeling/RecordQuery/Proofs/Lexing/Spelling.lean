import Mathlib.Data.List.TakeWhile
import RecordQuery.Proofs.Lexing.Nesting
import RecordQuery.Proofs.Lexing.Quoting
import RecordQuery.Proofs.Result

/-!
# How a query spells its tokens

A query is a row of words with gaps between them, and each word is read as one token.  What a
lexer still accepts depends on four things only: its place, the kind of the last token, how many
parentheses are open, and the characters to come.

* `Spelling` — a word, the text that it stands for and whether it is quoted, in front of what is
  behind it: a bare word must not go on there;
* `Spells` — the characters to come spell these tokens;
* `tokens_eq_ok_iff` — **a lexer reads exactly the tokens that its characters spell**.
-/

namespace RecordQuery

/-- The parentheses and their kinds. -/
inductive Paren : Char → TokenKind → Prop
  | opening : Paren '(' .leftParen
  | closing : Paren ')' .rightParen

/-- A word that is read as one token, the text that it stands for, whether it is quoted, and the
characters behind it. -/
inductive Spelling : List Char → List Char → Bool → List Char → Prop
  | paren {c : Char} {kind : TokenKind} {text : List Char} :
      Paren c kind → Spelling [c] [c] false text
  | bare {c : Char} {cs text : List Char} :
      c ≠ '"' → (∀ d ∈ c :: cs, Lexer.isBare d) → (∀ d ∈ text.head?, ¬ Lexer.isBare d) →
      Spelling (c :: cs) (c :: cs) false text
  | quoted {inside value text : List Char} :
      Quotes inside value → Spelling ('"' :: (inside ++ ['"'])) value true text

/-- The characters spell the tokens, up to the finishing one: from a position on, behind a token
of a kind, and with so many open parentheses. -/
inductive Spells : ℕ → TokenKind → ℕ → List Char → List Token → Prop
  | finish {position : ℕ} {previous : TokenKind} {gap : List Char} :
      (∀ c ∈ gap, Text.isBlank c) → previous.allows .finish →
      Spells position previous 0 gap
        [⟨"", ⟨position + gap.length, 0⟩, .finish, previous, false⟩]
  | token {position depth depth' : ℕ} {previous kind : TokenKind} {quoted : Bool}
      {gap word value text : List Char} {tokens : List Token} :
      (∀ c ∈ gap, Text.isBlank c) → Spelling word value quoted text →
      TokenKind.of? (String.ofList value) quoted previous = some kind →
      kind.nesting? depth = some depth' →
      Spells (position + gap.length + word.length) kind depth' text tokens →
      Spells position previous depth (gap ++ (word ++ text))
        (⟨String.ofList value, ⟨position + gap.length, word.length⟩, kind, previous, quoted⟩ ::
          tokens)

variable {lexer lexer' : Lexer} {token : Token} {tokens : List Token}
  {position depth depth' : ℕ} {previous kind : TokenKind} {quoted : Bool}
  {gap word value text : List Char}

/-! ## Where a run of characters ends -/

theorem takeWhile_append_stop {p : Char → Bool} {run rest : List Char}
    (hrun : ∀ c ∈ run, p c) (hstop : ∀ c ∈ rest.head?, ¬ p c) :
    (run ++ rest).takeWhile p = run := by
  have hrest : rest.takeWhile p = [] := by
    cases rest with
    | nil => rfl
    | cons c rest => exact List.takeWhile_cons_of_neg (hstop c rfl)
  rw [List.takeWhile_append_of_pos hrun, hrest, List.append_nil]

theorem dropWhile_append_stop {p : Char → Bool} {run rest : List Char}
    (hrun : ∀ c ∈ run, p c) (hstop : ∀ c ∈ rest.head?, ¬ p c) :
    (run ++ rest).dropWhile p = rest := by
  rw [List.dropWhile_append_of_pos hrun]
  cases rest with
  | nil => rfl
  | cons c rest => exact List.dropWhile_cons_of_neg (hstop c rfl)

theorem not_head?_dropWhile {p : Char → Bool} {cs : List Char} :
    ∀ c ∈ (cs.dropWhile p).head?, ¬ p c := by
  intro c hc
  have hnot := List.head?_dropWhile_not p cs
  rw [hc] at hnot
  simp [hnot]

theorem isBare_iff {c : Char} :
    Lexer.isBare c ↔ Text.isBlank c = false ∧ c ≠ '(' ∧ c ≠ ')' := by
  simp [Lexer.isBare, and_assoc]

theorem forall_bare_word {c : Char} {cs : List Char} (h : Lexer.isBare c) :
    ∀ d ∈ c :: cs.takeWhile Lexer.isBare, Lexer.isBare d := by
  intro d hd
  rcases List.mem_cons.1 hd with rfl | hd
  · exact h
  · exact List.mem_takeWhile_imp hd

theorem Paren.not_bare {c : Char} (h : Paren c kind) : ¬ Lexer.isBare c := by
  cases h <;> decide

/-! ## Words -/

theorem Spelling.ne_nil (h : Spelling word value quoted text) : word ≠ [] := by
  cases h <;> exact List.cons_ne_nil _ _

/-- A word does not start with a blank. -/
theorem Spelling.not_blank (h : Spelling word value quoted text) :
    ∀ c ∈ (word ++ text).head?, ¬ Text.isBlank c := by
  intro c hc
  cases h with
  | paren hp =>
    cases hc
    cases hp <;> decide
  | bare hq hb _ =>
    cases hc
    simp [(isBare_iff.1 (hb _ List.mem_cons_self)).1]
  | quoted _ =>
    cases hc
    decide

theorem mem_candidates_of_of? {v : String} (h : TokenKind.of? v quoted previous = some kind) :
    kind ∈ TokenKind.candidates v quoted := List.mem_of_find?_eq_some h

theorem allows_of_of? {v : String} (h : TokenKind.of? v quoted previous = some kind) :
    previous.allows kind := List.find?_some h

theorem not_allows_start : ¬ previous.allows .start := by
  cases previous <;> decide

/-- Only a parenthesis has its kind. -/
theorem Paren.mem_candidates_iff {c : Char} {v : String} (h : Paren c kind) :
    kind ∈ TokenKind.candidates v quoted ↔ v = String.ofList [c] ∧ quoted = false := by
  cases h
  · show _ ↔ v = "(" ∧ quoted = false
    unfold TokenKind.candidates
    split
    · simp_all
    · split <;> simp_all
  · show _ ↔ v = ")" ∧ quoted = false
    unfold TokenKind.candidates
    split
    · simp_all
    · split <;> simp_all

/-- No text has the kind of the place behind the last token. -/
theorem finish_notMem_candidates {v : String} : .finish ∉ TokenKind.candidates v quoted := by
  unfold TokenKind.candidates
  split
  · simp
  · split <;> simp

theorem ne_finish_of_of? {v : String} (h : TokenKind.of? v quoted previous = some kind) :
    kind ≠ .finish := by
  rintro rfl
  exact finish_notMem_candidates (mem_candidates_of_of? h)

/-- A parenthesis has no other kind. -/
theorem Paren.kind_eq {c : Char} {kind' : TokenKind} (h : Paren c kind)
    (hof : TokenKind.of? (String.ofList [c]) false previous = some kind') : kind' = kind := by
  have hmem := mem_candidates_of_of? hof
  cases h <;> simpa [TokenKind.candidates] using hmem

theorem kind_of_quoted {v : String} (h : TokenKind.of? v true previous = some kind) :
    kind = .text := by
  simpa [TokenKind.candidates] using mem_candidates_of_of? h

/-- A bare word neither opens nor closes a parenthesis. -/
theorem not_paren_of_bare {c : Char} {cs : List Char} (hb : ∀ d ∈ c :: cs, Lexer.isBare d)
    (h : TokenKind.of? (String.ofList (c :: cs)) false previous = some kind) :
    kind ≠ .leftParen ∧ kind ≠ .rightParen := by
  have hnot : ∀ d, ¬ Paren d kind := by
    intro d hd
    have hval : c :: cs = [d] :=
      String.ofList_injective (hd.mem_candidates_iff.1 (mem_candidates_of_of? h)).1
    obtain ⟨rfl, _⟩ := List.cons.inj hval
    exact hd.not_bare (hb c List.mem_cons_self)
  exact ⟨fun hl => hnot '(' (hl ▸ .opening), fun hr => hnot ')' (hr ▸ .closing)⟩

theorem Spells.ne_nil (h : Spells position previous depth text tokens) : tokens ≠ [] := by
  cases h <;> exact List.cons_ne_nil _ _

/-! ## Reading one word -/

theorem emit_eq_ok_iff {start : ℕ} :
    lexer.emit start value quoted = (.ok token, lexer') ↔
      ∃ kind, TokenKind.of? (String.ofList value) quoted lexer.previous = some kind ∧
        token = ⟨String.ofList value, ⟨start, lexer.position - start⟩, kind, lexer.previous,
          quoted⟩ ∧
        lexer' = { lexer with previous := kind } := by
  unfold Lexer.emit Token.of
  cases TokenKind.of? (String.ofList value) quoted lexer.previous with
  | none => simp
  | some kind => simp [eq_comm]

/-- A word that was read is spelled in front of what is left. -/
theorem spelling_of_scan (h : lexer.scan = (.ok token, lexer')) (hne : lexer.rest ≠ [])
    (hblank : ∀ c ∈ lexer.rest.head?, ¬ Text.isBlank c) :
    ∃ word value quoted,
      lexer.rest = word ++ lexer'.rest ∧ Spelling word value quoted lexer'.rest ∧
      TokenKind.of? (String.ofList value) quoted lexer.previous = some lexer'.previous ∧
      lexer'.previous.nesting? lexer.opened.length = some lexer'.opened.length ∧
      lexer'.position = lexer.position + word.length ∧
      token = ⟨String.ofList value, ⟨lexer.position, word.length⟩, lexer'.previous,
        lexer.previous, quoted⟩ := by
  obtain ⟨rest, position, previous, opened⟩ := lexer
  cases rest with
  | nil => exact absurd rfl hne
  | cons c cs =>
    simp only [Lexer.scan] at h
    split_ifs at h with hopen hclose hquote
    · obtain ⟨kind, hkind, rfl, rfl⟩ := emit_eq_ok_iff.1 h
      subst hopen
      obtain rfl := Paren.opening.kind_eq hkind
      refine ⟨['('], ['('], false, rfl, .paren .opening, hkind, rfl, rfl, ?_⟩
      simp
    · cases opened with
      | nil => cases h
      | cons o outer =>
        obtain ⟨kind, hkind, rfl, rfl⟩ := emit_eq_ok_iff.1 h
        subst hclose
        obtain rfl := Paren.closing.kind_eq hkind
        refine ⟨[')'], [')'], false, rfl, .paren .closing, hkind, rfl, rfl, ?_⟩
        simp
    · subst hquote
      cases hq : Quotation.read? cs with
      | none =>
        rw [hq] at h
        cases h
      | some q =>
        rw [hq] at h
        obtain ⟨kind, hkind, rfl, rfl⟩ := emit_eq_ok_iff.1 h
        obtain ⟨inside, rfl, hquotes, hl⟩ := quotes_of_read? hq
        obtain rfl := kind_of_quoted hkind
        refine ⟨'"' :: (inside ++ ['"']), q.value, true, by simp, .quoted hquotes, hkind, rfl,
          ?_, ?_⟩
        · simp [hl]
          omega
        · simp [hl]
          omega
    · obtain ⟨kind, hkind, rfl, rfl⟩ := emit_eq_ok_iff.1 h
      -- neither a blank nor a parenthesis nor a quote, so a bare word starts here
      have hc : Lexer.isBare c := isBare_iff.2 ⟨by simpa using hblank c rfl, hopen, hclose⟩
      have hb := @forall_bare_word c cs hc
      have hnot := not_paren_of_bare hb hkind
      refine ⟨c :: cs.takeWhile Lexer.isBare, c :: cs.takeWhile Lexer.isBare, false, ?_,
        .bare hquote hb not_head?_dropWhile, hkind, nesting?_of_not_paren hnot.1 hnot.2 _, rfl, ?_⟩
      · rw [List.cons_append, List.takeWhile_append_dropWhile]
      · simp

/-- A word that is spelled in front of a text is read, and the text is left. -/
theorem scan_of_spelling (hs : Spelling word value quoted text) (hr : lexer.rest = word ++ text)
    (hk : TokenKind.of? (String.ofList value) quoted lexer.previous = some kind)
    (hn : kind.nesting? lexer.opened.length = some depth') :
    ∃ opened : List (ℕ × List Char), opened.length = depth' ∧
      lexer.scan =
        (.ok ⟨String.ofList value, ⟨lexer.position, word.length⟩, kind, lexer.previous, quoted⟩,
          ⟨text, lexer.position + word.length, kind, opened⟩) := by
  obtain ⟨rest, position, previous, opened⟩ := lexer
  subst hr
  cases hs with
  | paren hp =>
    obtain rfl := hp.kind_eq hk
    cases hp with
    | opening =>
      refine ⟨(position, '(' :: text) :: opened, Option.some.inj hn, ?_⟩
      show Lexer.emit ⟨text, position + 1, previous, (position, '(' :: text) :: opened⟩ position
        ['('] false = _
      rw [emit_eq_ok_iff]
      exact ⟨.leftParen, hk, by simp, rfl⟩
    | closing =>
      cases opened with
      | nil => cases hn
      | cons o outer =>
        refine ⟨outer, Option.some.inj hn, ?_⟩
        show Lexer.emit ⟨text, position + 1, previous, outer⟩ position [')'] false = _
        rw [emit_eq_ok_iff]
        exact ⟨.rightParen, hk, by simp, rfl⟩
  | @bare c cs _ hq hb hstop =>
    have hc := isBare_iff.1 (hb c List.mem_cons_self)
    have hcs : ∀ d ∈ cs, Lexer.isBare d := fun d hd => hb d (List.mem_cons_of_mem c hd)
    have hnot := not_paren_of_bare hb hk
    rw [nesting?_of_not_paren hnot.1 hnot.2] at hn
    refine ⟨opened, Option.some.inj hn, ?_⟩
    simp only [List.cons_append, Lexer.scan, if_neg hc.2.1, if_neg hc.2.2, if_neg hq,
      takeWhile_append_stop hcs hstop, dropWhile_append_stop hcs hstop]
    rw [emit_eq_ok_iff]
    exact ⟨kind, hk, by simp, rfl⟩
  | @quoted inside _ _ hquotes =>
    obtain rfl := kind_of_quoted hk
    refine ⟨opened, Option.some.inj hn, ?_⟩
    have hread := read?_of_quotes hquotes text
    have hrest : ('"' :: (inside ++ ['"'])) ++ text = '"' :: (inside ++ '"' :: text) := by simp
    rw [hrest]
    simp only [Lexer.scan, hread]
    rw [if_neg (by decide), if_neg (by decide), if_pos trivial, emit_eq_ok_iff]
    refine ⟨.text, hk, ?_, ?_⟩ <;> simp <;> omega

/-! ## Reading all words -/

theorem skipBlanks_append {opened : List (ℕ × List Char)} (hgap : ∀ c ∈ gap, Text.isBlank c)
    (htext : ∀ c ∈ text.head?, ¬ Text.isBlank c) :
    Lexer.skipBlanks ⟨gap ++ text, position, previous, opened⟩ =
      ⟨text, position + gap.length, previous, opened⟩ := by
  rw [Lexer.skipBlanks, takeWhile_append_stop hgap htext, dropWhile_append_stop hgap htext]

theorem finish_eq_ok_iff :
    lexer.finish = .ok token ↔
      lexer.opened = [] ∧ lexer.previous.allows .finish ∧
        token = ⟨"", ⟨lexer.position, 0⟩, .finish, lexer.previous, false⟩ := by
  unfold Lexer.finish Token.finish
  cases ho : lexer.opened.getLast? with
  | none =>
    rw [List.getLast?_eq_none_iff.1 ho]
    split_ifs with ha <;> simp [ha, eq_comm]
  | some o =>
    have hne : lexer.opened ≠ [] := by
      rintro hnil
      rw [hnil] at ho
      cases ho
    simp [hne]

theorem tokens_of_finish (h : lexer.next = (.ok token, lexer')) (hk : token.kind = .finish) :
    lexer.tokens = .ok [token] := by
  unfold Lexer.tokens
  split
  · simp_all
  · simp_all

theorem tokens_of_token (h : lexer.next = (.ok token, lexer')) (hk : token.kind ≠ .finish) :
    lexer.tokens = lexer'.tokens.map (token :: ·) := by
  rw [Lexer.tokens]
  split
  · simp_all
  · simp_all

theorem exists_next_of_tokens (h : lexer.tokens = .ok tokens) :
    ∃ token lexer', lexer.next = (.ok token, lexer') := by
  unfold Lexer.tokens at h
  split at h
  · cases h
  · exact ⟨_, _, ‹_›⟩

theorem spells_of_tokens {lexer : Lexer} {tokens : List Token} (h : lexer.tokens = .ok tokens) :
    Spells lexer.position lexer.previous lexer.opened.length lexer.rest tokens := by
  obtain ⟨token, lexer', hnext⟩ := exists_next_of_tokens h
  have hrest : lexer.rest.takeWhile Text.isBlank ++ lexer.rest.dropWhile Text.isBlank =
      lexer.rest := List.takeWhile_append_dropWhile
  have hgap : ∀ c ∈ lexer.rest.takeWhile Text.isBlank, Text.isBlank c :=
    fun _ => List.mem_takeWhile_imp
  by_cases hnil : lexer.rest.dropWhile Text.isBlank = []
  · -- nothing but blanks is left
    rw [hnil, List.append_nil] at hrest
    have hscan : lexer.skipBlanks.scan = (lexer.skipBlanks.finish, lexer.skipBlanks) := by
      simp only [Lexer.scan, Lexer.skipBlanks, hnil]
    have hfin : lexer.skipBlanks.finish = .ok token :=
      (Prod.mk.inj (hscan.symm.trans hnext)).1
    rw [tokens_of_finish hnext (Lexer.kind_of_finish hfin)] at h
    cases h
    obtain ⟨ho, hallows, rfl⟩ := finish_eq_ok_iff.1 hfin
    have hdepth : lexer.opened.length = 0 := congrArg List.length ho
    have hspells := @Spells.finish lexer.position lexer.previous _ hgap hallows
    rw [hrest] at hspells
    simpa [Lexer.skipBlanks, hdepth, hrest] using hspells
  · obtain ⟨word, value, quoted, hword, hspelling, hof, hnesting, hposition, rfl⟩ :=
      spelling_of_scan hnext hnil not_head?_dropWhile
    have hk : lexer'.previous ≠ .finish := ne_finish_of_of? hof
    rw [tokens_of_token hnext hk] at h
    obtain ⟨more, hmore, rfl⟩ := Except.map_eq_ok_iff.1 h
    have hspells := spells_of_tokens hmore
    rw [hposition] at hspells
    have hall := Spells.token hgap hspelling hof hnesting hspells
    rwa [← hword, Lexer.skipBlanks, hrest] at hall
termination_by lexer.rest.length
decreasing_by exact Lexer.length_rest_next_lt hnext hk

theorem tokens_of_spells (h : Spells position previous depth text tokens)
    {opened : List (ℕ × List Char)} (ho : opened.length = depth) :
    Lexer.tokens ⟨text, position, previous, opened⟩ = .ok tokens := by
  induction h generalizing opened with
  | @finish position previous gap hgap hallows =>
    have hskip : Lexer.skipBlanks ⟨gap ++ [], position, previous, opened⟩ =
        ⟨[], position + gap.length, previous, opened⟩ := skipBlanks_append hgap (by simp)
    rw [List.append_nil] at hskip
    have hfin : Lexer.finish ⟨[], position + gap.length, previous, opened⟩ =
        .ok ⟨"", ⟨position + gap.length, 0⟩, .finish, previous, false⟩ :=
      finish_eq_ok_iff.2 ⟨List.length_eq_zero_iff.1 ho, hallows, rfl⟩
    have hnext : Lexer.next ⟨gap, position, previous, opened⟩ =
        (.ok ⟨"", ⟨position + gap.length, 0⟩, .finish, previous, false⟩,
          ⟨[], position + gap.length, previous, opened⟩) := by
      rw [Lexer.next, hskip, ← hfin]
      rfl
    exact tokens_of_finish hnext rfl
  | @token position depth depth' previous kind quoted gap word value text tokens hgap hspelling hof
      hnesting _ ih =>
    have hskip : Lexer.skipBlanks ⟨gap ++ (word ++ text), position, previous, opened⟩ =
        ⟨word ++ text, position + gap.length, previous, opened⟩ :=
      skipBlanks_append hgap hspelling.not_blank
    have hrest : Lexer.rest ⟨word ++ text, position + gap.length, previous, opened⟩ =
        word ++ text := rfl
    rw [← ho] at hnesting
    obtain ⟨opened', ho', hscan⟩ := scan_of_spelling hspelling hrest hof hnesting
    have hnext : Lexer.next ⟨gap ++ (word ++ text), position, previous, opened⟩ =
        (.ok ⟨String.ofList value, ⟨position + gap.length, word.length⟩, kind, previous, quoted⟩,
          ⟨text, position + gap.length + word.length, kind, opened'⟩) := by
      rw [Lexer.next, hskip]
      exact hscan
    rw [tokens_of_token hnext (ne_finish_of_of? hof), ih ho']
    rfl

/-- **A lexer reads exactly the tokens that its characters spell.** -/
theorem tokens_eq_ok_iff :
    lexer.tokens = .ok tokens ↔
      Spells lexer.position lexer.previous lexer.opened.length lexer.rest tokens :=
  ⟨spells_of_tokens, fun h => tokens_of_spells h rfl⟩

/-- A query is a row of tokens just if it spells them from the start on. -/
theorem tokenize_eq_ok_iff :
    tokenize text = .ok tokens ↔ Spells 0 .start 0 text tokens := tokens_eq_ok_iff

end RecordQuery

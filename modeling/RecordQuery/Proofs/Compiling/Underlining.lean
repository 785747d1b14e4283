import RecordQuery.Proofs.Compiling.Locating
import RecordQuery.Proofs.Compiling.Failing
import RecordQuery.Proofs.Lexing.Failing

/-!
# Errors are underlined in place

A query that fails is shown on one line, with the place of the failure marked below it.  The place
is counted in characters and the mark is laid out in columns, and the two fit together whatever the
columns of a character are.

* `ParseError.underlineBy` — the underlined query, for any width of characters;
* `UnderlinedBy` — a line with one piece of it marked;
* `ParseError.InPlace` — an error that is about a place of its query;
* `underlined_in_place` — **every error of a query is in place and underlined there**, and its mark
  never leaves the text below which it is drawn.
-/

namespace RecordQuery

/-- The columns of a text, for some width of characters. -/
def columnsBy (width : Char → ℕ) (cs : List Char) : ℕ := cs.foldr (fun c rest => width c + rest) 0

/-- The query with the place of the error marked below it, for some width of characters. -/
def ParseError.underlineBy (width : Char → ℕ) (e : ParseError) (query : List Char) : String :=
  let line := oneLine query
  let start := min e.span.start line.length
  let stop := min e.span.stop line.length
  let marked := (line.drop start).take (stop - start)
  String.ofList ("  ".toList ++ line ++ "\n  ".toList
    ++ List.replicate (columnsBy width (line.take start)) ' '
    ++ List.replicate (max (columnsBy width marked) 1) '^')

/-- A line is shown with one piece of it marked: the mark starts below the piece, is as wide as the
piece or takes one column, and ends one column behind the line at most. -/
structure UnderlinedBy (width : Char → ℕ) (line before marked behind : List Char) (shown : String) :
    Prop where
  split : line = before ++ (marked ++ behind)
  shown : shown = String.ofList ("  ".toList ++ line ++ "\n  ".toList
    ++ List.replicate (columnsBy width before) ' '
    ++ List.replicate (max (columnsBy width marked) 1) '^')
  ends : columnsBy width before + max (columnsBy width marked) 1 ≤ columnsBy width line + 1

/-- The error is about a place of the query: one that shows what the error says, and one inside of
the token whose text is a bad path or a bad pattern. -/
structure ParseError.InPlace (query : List Char) (e : ParseError) : Prop where
  stop : e.span.stop ≤ query.length
  shown : ∀ reason, e = .lex reason → reason.ShownIn query
  text : e.isAboutText → ∃ tokens token, tokenize query = .ok tokens ∧ token ∈ tokens ∧
    token.Rejected e ∧ e.token = token.value ∧ e.span.Within token.span

variable {width : Char → ℕ} {text : List Char} {tokens : List Token} {token : Token}
  {e : ParseError} {source : String}

/-! ## The layout -/

theorem columnsBy_append (xs ys : List Char) :
    columnsBy width (xs ++ ys) = columnsBy width xs + columnsBy width ys := by
  induction xs with
  | nil => exact (Nat.zero_add _).symm
  | cons c xs ih =>
    change width c + columnsBy width (xs ++ ys) = width c + columnsBy width xs + _
    rw [ih, Nat.add_assoc]

theorem render_eq (e : ParseError) (text : List Char) :
    e.render text = e.message ++ "\n" ++ e.underlineBy Text.width text := rfl

/-- **Below any text, the mark is that of a piece of the text**, and below the query of the error it
is that of its place. -/
theorem exists_underlinedBy (width : Char → ℕ) (e : ParseError) (text : List Char) :
    ∃ before marked behind,
      UnderlinedBy width (ParseError.oneLine text) before marked behind
        (e.underlineBy width text) ∧
      (e.span.stop ≤ text.length →
        before.length = e.span.start ∧ marked.length = e.span.length) := by
  have hlength : (ParseError.oneLine text).length = text.length := List.length_map _
  generalize hline : ParseError.oneLine text = line at hlength
  let start := min e.span.start line.length
  let size := min e.span.stop line.length - start
  have hsplit : line = line.take start ++ ((line.drop start).take size ++
      (line.drop start).drop size) := by
    rw [List.take_append_drop, List.take_append_drop]
  refine ⟨line.take start, (line.drop start).take size, (line.drop start).drop size,
    ⟨hsplit, ?_, ?_⟩, fun hstop => ?_⟩
  · subst hline
    rfl
  · have hcolumns := congrArg (columnsBy width) hsplit
    rw [columnsBy_append, columnsBy_append] at hcolumns
    omega
  · simp only [Span.stop] at hstop
    simp only [start, size, Span.stop, List.length_take, List.length_drop]
    omega

/-! ## The place -/

theorem Token.Rejected.token_eq (h : token.Rejected e) : e.token = token.value := by
  cases h <;> rfl

theorem Quotes.length_le {inside value : List Char} (h : Quotes inside value) :
    value.length ≤ inside.length := by
  rw [h.eq_escape, length_escape]
  exact Nat.le_add_right _ _

theorem Span.length_slice_le (span : Span) (text : List Char) :
    (span.slice text).length ≤ span.length := List.length_take_le _ _

/-- The tokens of a query stand in it, each with room for its text. -/
theorem Spells.sits (h : Spells 0 .start 0 text tokens) :
    ∀ token ∈ tokens, token.Sits text.length := by
  intro token ht
  have hinside := (h.inside token ht).2
  rw [Nat.zero_add] at hinside
  refine ⟨hinside, fun hk => h.nonempty token ht (by rw [hk]; decide), ?_⟩
  have hslice := token.span.length_slice_le text
  cases hq : token.quoted with
  | false =>
    rw [← (h.bare token ht hq).1] at hslice
    exact hslice
  | true =>
    obtain ⟨inside, hword, hquotes, _⟩ := h.quoted token ht hq
    have hvalue := hquotes.length_le
    rw [hword, List.length_cons, List.length_append, List.length_singleton] at hslice
    rw [if_pos rfl]
    omega

/-- A builder whose tokens are those of a query fails inside of the query. -/
theorem Spells.located_of_build (h : Spells 0 .start 0 text tokens) (he : build tokens = .error e) :
    e.Located tokens text.length := by
  have hstop : (Builder.ofTokens tokens).stop = text.length := by
    obtain ⟨front, last, rfl, _, hspan, _⟩ := h.finish_last
    simp [Builder.ofTokens, hspan, Span.stop]
  have hrooted : Rooted tokens [] [] tokens := ⟨fun _ => id, operators_nil, by simp⟩
  refine hrooted.located_of_collect h.sits e ?_
  rw [← hstop]
  exact he

theorem inPlace_of_compile (h : Query.compile source = .error e) : e.InPlace source.toList := by
  cases ht : tokenize source.toList with
  | error reason =>
    have he : e = .lex reason := by
      rw [Query.compile, ht] at h
      exact (Except.error.inj h).symm
    subst he
    obtain ⟨hstop, hshown⟩ := liesIn_of_tokenize ht
    refine ⟨hstop, ?_, fun htext => absurd htext Bool.false_ne_true⟩
    rintro _ ⟨⟩
    exact hshown
  | ok tokens =>
    have hspells := tokenize_eq_ok_iff.1 ht
    have hne : tokens.head?.map Token.kind ≠ some .finish := by
      intro hempty
      rw [Query.compile, ht] at h
      dsimp only at h
      rw [if_pos hempty] at h
      cases h
    have he : build tokens = .error e := by
      rw [compile_of_tokenize ht hne] at h
      cases hb : build tokens with
      | ok root =>
        rw [hb] at h
        cases h
      | error e' =>
        rw [hb] at h
        cases h
        rfl
    obtain ⟨hstop, htext⟩ := hspells.located_of_build he
    have hbuilder := (defect_of_build hspells.lawful hne he).leftToBuilder
    refine ⟨hstop, ?_, fun h => ?_⟩
    · rintro reason rfl
      exact absurd hbuilder Bool.false_ne_true
    · obtain ⟨token, hmem, hrejected⟩ := htext h
      exact ⟨tokens, token, ht, hmem, hrejected, hrejected.token_eq, hrejected.within⟩

/-- **Every error of a query is about a place of the query and is underlined there**, and its mark
never leaves the text below which it is drawn, whatever the text and the width of characters. -/
theorem underlined_in_place (h : Query.compile source = .error e) :
    e.InPlace source.toList ∧
    (∀ width, ∃ before marked behind,
      before.length = e.span.start ∧ marked.length = e.span.length ∧
      UnderlinedBy width (ParseError.oneLine source.toList) before marked behind
        (e.underlineBy width source.toList)) ∧
    ∀ text, e.render text = e.message ++ "\n" ++ e.underlineBy Text.width text ∧
      ∀ width, ∃ before marked behind,
        UnderlinedBy width (ParseError.oneLine text) before marked behind
          (e.underlineBy width text) := by
  have hplace := inPlace_of_compile h
  refine ⟨hplace, fun width => ?_, fun text => ⟨render_eq e text, fun width => ?_⟩⟩
  · obtain ⟨before, marked, behind, hunder, hlengths⟩ :=
      exists_underlinedBy width e source.toList
    obtain ⟨hbefore, hmarked⟩ := hlengths hplace.stop
    exact ⟨before, marked, behind, hbefore, hmarked, hunder⟩
  · obtain ⟨before, marked, behind, hunder, _⟩ := exists_underlinedBy width e text
    exact ⟨before, marked, behind, hunder⟩

/-- A bad path in quotes behind a wide character, below its own query and below a shorter text. -/
theorem underlined_in_place_wide :
    let source := "not \"f_$b]\""
    let e : ParseError := .malformed (.path .strayClose) "f_$b]" ⟨9, 1⟩
    let width : Char → ℕ := fun c => if c = 'n' then 2 else 1
    Query.compile source = .error e ∧ e.InPlace source.toList ∧
      (∃ before marked behind, before.length = 9 ∧ marked.length = 1 ∧
        UnderlinedBy width (ParseError.oneLine source.toList) before marked behind
          (e.underlineBy width source.toList)) ∧
      ∃ before marked behind,
        UnderlinedBy width (ParseError.oneLine ['n', 'o']) before marked behind
          (e.underlineBy width ['n', 'o']) := by
  intro source e width
  have he : Query.compile "not \"f_$b]\"" =
      .error (.malformed (.path .strayClose) "f_$b]" ⟨9, 1⟩) := by cbv
  obtain ⟨hplace, hown, hother⟩ := underlined_in_place he
  exact ⟨he, hplace, hown width, (hother ['n', 'o']).2 width⟩

end RecordQuery

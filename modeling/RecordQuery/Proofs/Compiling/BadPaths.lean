import RecordQuery.Proofs.Compiling.Underlining
import RecordQuery.Proofs.Lexing.Spacing

/-!
# Where a bad path is shown

The failure of a path is counted in characters of the path, and is told in characters of the query:
behind the start of the token, its opening quote and the mark of a path.  But a quote in quoted text
takes two characters of the query, and each one up to the end of the rejected part is counted as one.

* `Token.spell`, `Token.read` — a part of a text as the query has it, and back;
* `Token.place` — where the query has a part of the text of a token;
* `Spells.read_place` — **what the query has there stands for that part**;
* `Token.RejectedFor` — the part of a token that its path is rejected for, and what is ahead of it;
* `Token.Tells` — what is told of it, and where;
* `bad_path_placed` — **the told place is that of the rejected part just if no quote of quoted text
  comes before its end**;
* `bad_path_misplaced` — a query with such a quote.
-/

namespace RecordQuery

namespace Token

/-- A part of the text of a token, as the query has it. -/
def spell (token : Token) (part : List Char) : List Char :=
  if token.quoted then escape part else part

/-- What a part of the query, inside of the token, stands for. -/
def read (token : Token) (word : List Char) : List Char :=
  if token.quoted then unescape word else word

/-- Where the query has a part of the text of a token, behind what is ahead of it. -/
def place (token : Token) (ahead part : List Char) : Span :=
  ⟨token.span.start + (if token.quoted then 1 else 0) + (token.spell ahead).length,
    (token.spell part).length⟩

/-- The query has these characters of the token's text just as they are. -/
def Verbatim (token : Token) (part : List Char) : Prop := token.quoted = true → '"' ∉ part

/-- The text of a token is read as a path, perhaps behind a mark, and the path is rejected for a part
of it.  What is ahead of that part counts from the start of the text. -/
inductive RejectedFor (token : Token) : PathFault → List Char → List Char → Prop
  | path {mark text before part behind : List Char} {fault : PathFault} :
      token.value.toList = mark ++ text → Operand.pathText? token.value.toList = some text →
      text = before ++ (part ++ behind) →
      FieldPath.parse text = .error ⟨fault, before.length, part.length⟩ →
      token.RejectedFor fault (mark ++ before) part

/-- The path of a token of a query is rejected for a part of it, and this is told with a span.  The
span counts each character ahead of the part as one, and the query has the part at its place; so the
span is that place, and reads as the part, where no character up to the end of the part takes two. -/
structure Tells (token : Token) (query : List Char) (fault : PathFault) (span : Span)
    (ahead part : List Char) : Prop where
  rejected : token.RejectedFor fault ahead part
  told : span = ⟨token.span.start + (if token.quoted then 1 else 0) + ahead.length, part.length⟩
  there : token.read ((token.place ahead part).slice query) = part
  placed : span = token.place ahead part ↔ token.Verbatim (ahead ++ part)
  reads : token.Verbatim (ahead ++ part) → token.read (span.slice query) = part

variable {token : Token} {ahead part : List Char}

/-! ## Parts of a token -/

theorem read_spell (token : Token) (part : List Char) : token.read (token.spell part) = part := by
  unfold read spell
  split_ifs
  · exact unescape_escape part
  · rfl

theorem spell_append (token : Token) (before behind : List Char) :
    token.spell (before ++ behind) = token.spell before ++ token.spell behind := by
  unfold spell
  split_ifs
  · exact escape_append before behind
  · rfl

/-- Only the quotes of quoted text take more than one character. -/
theorem length_spell (token : Token) (part : List Char) :
    (token.spell part).length = part.length + (if token.quoted then part.count '"' else 0) := by
  unfold spell
  split_ifs
  · exact length_escape part
  · rfl

theorem length_spell_eq_iff : (token.spell part).length = part.length ↔ token.Verbatim part := by
  rw [length_spell, Verbatim]
  split_ifs with hq
  · simp [hq, List.count_eq_zero]
  · simp [hq]

theorem verbatim_append_iff :
    token.Verbatim (ahead ++ part) ↔ token.Verbatim ahead ∧ token.Verbatim part := by
  simp only [Verbatim, List.mem_append, not_or]
  exact ⟨fun h => ⟨fun hq => (h hq).1, fun hq => (h hq).2⟩, fun h hq => ⟨h.1 hq, h.2 hq⟩⟩

/-- A place that counts each character as one is right just if there is nothing to count twice. -/
theorem eq_place_iff :
    ⟨token.span.start + (if token.quoted then 1 else 0) + ahead.length, part.length⟩ =
      token.place ahead part ↔ token.Verbatim (ahead ++ part) := by
  rw [place, Span.mk.injEq, Nat.add_left_cancel_iff, verbatim_append_iff]
  exact and_congr (eq_comm.trans length_spell_eq_iff) (eq_comm.trans length_spell_eq_iff)

/-- A token as the query has it, between what opens it and what closes it. -/
theorem written_eq_spell (token : Token) :
    ∃ opener closer, token.written = opener ++ (token.spell token.value.toList ++ closer) ∧
      opener.length = if token.quoted then 1 else 0 := by
  unfold written spell
  split_ifs
  · exact ⟨['"'], ['"'], rfl, rfl⟩
  · exact ⟨[], [], (List.append_nil _).symm, rfl⟩

/-! ## Rejected parts -/

/-- A rejected operand has a part that it is rejected for, and the told place counts each character
ahead of it as one. -/
theorem rejectedFor_of_ofToken {fault : PathFault} {value : String} {span : Span}
    (h : Operand.ofToken token = .error (.malformed (.path fault) value span)) :
    ∃ ahead part, token.RejectedFor fault ahead part ∧
      span = ⟨token.span.start + (if token.quoted then 1 else 0) + ahead.length, part.length⟩ := by
  obtain ⟨mark, text, e, hvalue, htext, hparse, he⟩ := ofToken_eq_error h
  have hfits : e.offset + e.length ≤ text.length := FieldPath.fits_of_parse hparse
  have hsplit : text = text.take e.offset ++
      ((text.drop e.offset).take e.length ++ (text.drop e.offset).drop e.length) := by
    rw [List.take_append_drop, List.take_append_drop]
  have hbefore : (text.take e.offset).length = e.offset := by
    rw [List.length_take]
    omega
  have hpart : ((text.drop e.offset).take e.length).length = e.length := by
    rw [List.length_take, List.length_drop]
    omega
  cases he
  refine ⟨_, _, .path hvalue htext hsplit ?_, ?_⟩
  · rw [hbefore, hpart]
    exact hparse
  · rw [pathSpan, List.length_append, hbefore, hpart, ← Nat.add_assoc]

/-- The rejected part is a part of the text. -/
theorem RejectedFor.value_eq {fault : PathFault} (h : token.RejectedFor fault ahead part) :
    ∃ behind, token.value.toList = ahead ++ (part ++ behind) := by
  cases h with
  | path hvalue _ htext _ => exact ⟨_, by rw [hvalue, htext, List.append_assoc]⟩

end Token

/-! ## The place of a part -/

variable {text ahead part behind : List Char} {tokens : List Token} {fault : PathFault}
  {source value : String} {span : Span}

/-- A span inside of another one, counted from the start of that one. -/
theorem slice_of_slice_eq {before word : List Char}
    (h : span.slice text = before ++ (word ++ behind)) :
    Span.slice ⟨span.start + before.length, word.length⟩ text = word := by
  have hsplit : text.drop span.start =
      before ++ (word ++ (behind ++ (text.drop span.start).drop span.length)) := by
    rw [← List.append_assoc word, ← List.append_assoc before, ← h, Span.slice,
      List.take_append_drop]
  rw [Span.slice, ← List.drop_drop, hsplit, List.drop_left, List.take_left]

/-- A token is written under its span. -/
theorem Spells.slice_eq_written (h : Spells 0 .start 0 text tokens) :
    ∀ token ∈ tokens, token.span.slice text = token.written := by
  intro token hmem
  cases hq : token.quoted with
  | false =>
    rw [Token.written, if_neg (by rw [hq]; exact Bool.false_ne_true)]
    exact (h.bare token hmem hq).1.symm
  | true =>
    obtain ⟨inside, hslice, hquotes, _⟩ := h.quoted token hmem hq
    rw [Token.written, if_pos hq, hslice, hquotes.eq_escape]

/-- **What a query has at the place of a part of a token stands for that part.** -/
theorem Spells.read_place (h : Spells 0 .start 0 text tokens) {token : Token} (hmem : token ∈ tokens)
    (hvalue : token.value.toList = ahead ++ (part ++ behind)) :
    token.read ((token.place ahead part).slice text) = part := by
  obtain ⟨opener, closer, hwritten, hopener⟩ := token.written_eq_spell
  have hslice : token.span.slice text = (opener ++ token.spell ahead) ++
      (token.spell part ++ (token.spell behind ++ closer)) := by
    rw [h.slice_eq_written token hmem, hwritten, hvalue, Token.spell_append, Token.spell_append]
    simp only [List.append_assoc]
  have hplace : (token.place ahead part).slice text = token.spell part := by
    rw [Token.place, ← hopener, Nat.add_assoc, ← List.length_append]
    exact slice_of_slice_eq hslice
  rw [hplace, Token.read_spell]

/-- **A bad path is told of at the place of its rejected part just if no quote of quoted text comes
before the end of that part**: always in a bare token, and with a mark as without one. -/
theorem bad_path_placed (h : Query.compile source = .error (.malformed (.path fault) value span)) :
    ∃ tokens token ahead part, tokenize source.toList = .ok tokens ∧ token ∈ tokens ∧
      token.value = value ∧ token.Tells source.toList fault span ahead part := by
  obtain ⟨tokens, token, ht, hmem, hrejected, hvalue, _⟩ := (inPlace_of_compile h).text rfl
  have hof : Operand.ofToken token = .error (.malformed (.path fault) value span) := by
    cases hrejected with
    | path hof _ => exact hof
  obtain ⟨ahead, part, hpart, hspan⟩ := Token.rejectedFor_of_ofToken hof
  obtain ⟨behind, hsplit⟩ := hpart.value_eq
  have hread := (tokenize_eq_ok_iff.1 ht).read_place hmem hsplit
  have hplaced : span = token.place ahead part ↔ token.Verbatim (ahead ++ part) := by
    rw [hspan]
    exact Token.eq_place_iff
  refine ⟨tokens, token, ahead, part, ht, hmem, hvalue.symm, hpart, hspan, hread, hplaced, ?_⟩
  intro hverbatim
  rw [hplaced.2 hverbatim]
  exact hread

/-- A quoted path behind a mark, with a quote behind its rejected part only. -/
theorem bad_path_placed_quoted :
    let query := "\"f_$b]\\\"\""
    Query.compile query = .error (.malformed (.path .strayClose) "f_$b]\"" ⟨5, 1⟩) ∧
      ∃ tokens token ahead part, tokenize query.toList = .ok tokens ∧ token ∈ tokens ∧
        token.value = "f_$b]\"" ∧ token.Tells query.toList .strayClose ⟨5, 1⟩ ahead part := by
  intro query
  have he : Query.compile "\"f_$b]\\\"\"" =
      .error (.malformed (.path .strayClose) "f_$b]\"" ⟨5, 1⟩) := by cbv
  exact ⟨he, bad_path_placed he⟩

/-- A quote ahead of the rejected bracket: the place that is told has the character before it. -/
theorem bad_path_misplaced :
    let token : Token := ⟨"f_$\"a]", ⟨0, 9⟩, .text, .start, true⟩
    let query := "\"f_$\\\"a]\"".toList
    Query.compile "\"f_$\\\"a]\"" = .error (.malformed (.path .strayClose) "f_$\"a]" ⟨6, 1⟩) ∧
      (∃ finish, tokenize query = .ok [token, finish]) ∧
      token.RejectedFor .strayClose ['f', '_', '$', '"', 'a'] [']'] ∧
      token.read (Span.slice ⟨6, 1⟩ query) = ['a'] ∧
      token.place ['f', '_', '$', '"', 'a'] [']'] = ⟨7, 1⟩ ∧
      token.read (Span.slice ⟨7, 1⟩ query) = [']'] := by
  intro token query
  have he : Query.compile "\"f_$\\\"a]\"" =
      .error (.malformed (.path .strayClose) "f_$\"a]" ⟨6, 1⟩) := by cbv
  have ht : tokenize "\"f_$\\\"a]\"".toList = .ok [⟨"f_$\"a]", ⟨0, 9⟩, .text, .start, true⟩,
      ⟨"", ⟨9, 0⟩, .finish, .text, false⟩] := by cbv
  have hparse : FieldPath.parse ['"', 'a', ']'] = .error ⟨.strayClose, 2, 1⟩ := by cbv
  have hvalue : token.value.toList = ['f', '_', '$'] ++ ['"', 'a', ']'] := by decide
  have htext : Operand.pathText? token.value.toList = some ['"', 'a', ']'] := by decide
  have hsplit : ['"', 'a', ']'] = ['"', 'a'] ++ ([']'] ++ []) := rfl
  have hrejected : token.RejectedFor .strayClose (['f', '_', '$'] ++ ['"', 'a']) [']'] :=
    .path hvalue htext hsplit hparse
  exact ⟨he, ⟨_, ht⟩, hrejected, rfl, rfl, rfl⟩

end RecordQuery

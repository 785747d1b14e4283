import RecordQuery.Proofs.Compiling.Tree
import RecordQuery.Proofs.Grammar.Placing
import RecordQuery.Proofs.Paths.Fields

/-!
# Every field can be asked for

Names of fields may hold blanks, parentheses, operators, digits and brackets.  Written in brackets
and all together in quotes they are one token, and nothing in them is taken for anything else.

* `EvenBeforeQuotes` — every run of backslashes in front of a quote has even length;
* `compile_quoted` — a quoted text alone is a query for its operand;
* `ofToken_bracketed` — names in brackets are the path of these names;
* `compile_fields` — **names in brackets and quotes are a query for the field that they lead to**.
-/

namespace RecordQuery

/-- Every run of backslashes in front of a quote has even length. -/
def EvenBeforeQuotes (text : List Char) : Prop :=
  ∀ before count behind, text = before ++ (List.replicate count '\\' ++ '"' :: behind) →
    before.getLast? ≠ some '\\' → Even count

/-- The query that is a text in quotes, with a backslash in front of each quote of the text. -/
def quotedQuery (text : List Char) : String := String.ofList ('"' :: (escape text ++ ['"']))

/-- The token of such a query. -/
def quotedToken (text : List Char) : Token :=
  ⟨String.ofList text, ⟨0, (escape text).length + 2⟩, .text, .start, true⟩

variable {text : List Char} {leaf : Operand} {names : List String}

/-! ## Quoted queries -/

/-- A text with another character at its end has no run there. -/
theorem EvenBeforeQuotes.evenRuns (h : EvenBeforeQuotes text) (hlast : text.getLast? ≠ some '\\') :
    EvenRuns text := by
  intro before count behind htext hbefore hbehind
  cases behind with
  | cons c behind =>
    obtain rfl : c = '"' := hbehind c rfl
    exact h before count behind htext hbefore
  | nil =>
    cases count with
    | zero => exact Even.zero
    | succ count =>
      refine absurd ?_ hlast
      rw [htext, List.replicate_succ', List.append_nil, ← List.append_assoc]
      exact List.getLast?_concat

theorem tokenize_quotedQuery (h : EvenRuns text) :
    tokenize (quotedQuery text).toList =
      .ok [quotedToken text, ⟨"", ⟨(escape text).length + 2, 0⟩, .finish, .text, false⟩] := by
  have hfinish : Spells ((escape text).length + 2) .text 0 []
      [⟨"", ⟨(escape text).length + 2, 0⟩, .finish, .text, false⟩] := .finish (by simp) (by decide)
  have hspells := @Spells.token 0 0 0 .start .text true [] _ text [] _ (by simp)
    (.quoted (quotes_escape h)) rfl rfl (by simpa using hfinish)
  rw [tokenize_eq_ok_iff, quotedQuery, String.toList_ofList]
  simpa [quotedToken] using hspells

/-- A quoted text alone is a query for its operand. -/
theorem compile_quoted (h : EvenRuns text)
    (hleaf : Operand.ofToken (quotedToken text) = .ok leaf) :
    Query.compile (quotedQuery text) =
      .ok ⟨quotedQuery text, some (.operand leaf (quotedToken text))⟩ :=
  compile_eq_ok_iff.2 ⟨_, tokenize_quotedQuery h, .part (.part (.part (.atom (.operand rfl hleaf))))⟩

/-! ## Names in quotes -/

/-- A text that starts with a bracket is neither a number nor behind a mark. -/
theorem ofToken_of_bracket {cs : List Char} {path : FieldPath}
    (h : FieldPath.parse ('[' :: cs) = .ok path) :
    Operand.ofToken (quotedToken ('[' :: cs)) = .ok (.path path) := by
  have hmark : stripMark? Operand.fieldMark ('[' :: cs) = none := rfl
  have hdecimal : Numeral.isDecimal ('[' :: cs) = false := rfl
  simp only [Operand.ofToken, quotedToken, String.toList_ofList, hmark, hdecimal]
  exact pathOfToken_eq_ok_iff.2 ⟨path, h, rfl⟩

theorem ofToken_bracketed (hne : names ≠ []) (hnames : ∀ name ∈ names, IsFieldName name) :
    Operand.ofToken (quotedToken (bracketed (names.map String.toList))) =
      .ok (.path ⟨names.map .key⟩) := by
  have hparse := parse_fields hne hnames
  cases names with
  | nil => exact absurd rfl hne
  | cons name names =>
    rw [List.map_cons, bracketed_cons] at hparse ⊢
    exact ofToken_of_bracket hparse

theorem getLast?_bracketed {keys : List (List Char)} (hne : keys ≠ []) :
    (bracketed keys).getLast? = some ']' := by
  obtain ⟨front, key, rfl⟩ := (List.eq_nil_or_concat' keys).resolve_left hne
  rw [bracketed, List.flatMap_append, List.flatMap_singleton, ← List.cons_append,
    ← List.append_assoc]
  exact List.getLast?_concat

/-- **Every field can be asked for.**  The names that lead to it, in brackets and quotes, are a
query, and its result is what they lead to. -/
theorem compile_fields (hne : names ≠ []) (hnames : ∀ name ∈ names, IsFieldName name)
    (heven : EvenBeforeQuotes (bracketed (names.map String.toList))) :
    ∃ query, Query.compile (quotedQuery (bracketed (names.map String.toList))) = .ok query ∧
      ∀ record, query.evaluate record = .value (.value (Value.shownAs (record.follow? names))) := by
  have hruns : EvenRuns (bracketed (names.map String.toList)) :=
    heven.evenRuns (by rw [getLast?_bracketed (by simpa using hne)]; decide)
  refine ⟨_, compile_quoted hruns (ofToken_bracketed hne hnames), fun record => ?_⟩
  show Outcome.value (.value (((FieldPath.mk _).resolve record).getD .null)) = _
  rw [FieldPath.resolve, resolveAt_keys, getD_endpoint]

/-- Names with an operator, a number, quotes, backslashes and brackets in them. -/
theorem compile_fields_with_quotes :
    let names := ["a[or] \\\\\"2\"", "f_$(x)\\"]
    names ≠ [] ∧ (∀ name ∈ names, IsFieldName name) ∧
      EvenBeforeQuotes (bracketed (names.map String.toList)) ∧
      ∃ query, Query.compile "\"[a[or] \\\\\\\"2\\\"][f_$(x)\\]\"" = .ok query ∧
        query.evaluate (.ofPairs [(.text "a[or] \\\\\"2\"",
          .ofPairs [(.text "f_$(x)\\", .ofPairs [(.text "b", .null), (.integer 1, .null)])])]) =
          .value (.value (.array [.text "b", .integer 1])) := by
  intro names
  have hnames : ∀ name ∈ names, IsFieldName name := by
    simp only [names, List.forall_mem_cons]
    refine ⟨⟨?_, by decide, by decide, by decide⟩, ⟨?_, by decide, by decide, by decide⟩, nofun⟩
    · simp [balanced_cons_iff, balanced_nil_iff]
    · simp [balanced_cons_iff, balanced_nil_iff]
  have hruns : EvenRuns (bracketed (names.map String.toList)) := by
    simp [names, bracketed, evenRuns_cons_iff, evenRuns_pair_iff, evenRuns_nil]
  have heven : EvenBeforeQuotes (bracketed (names.map String.toList)) :=
    fun before count behind htext hbefore => hruns before count _ htext hbefore (by simp)
  obtain ⟨query, hcompile, hevaluate⟩ := compile_fields (by decide) hnames heven
  exact ⟨by decide, hnames, heven, query, hcompile, hevaluate _⟩

end RecordQuery

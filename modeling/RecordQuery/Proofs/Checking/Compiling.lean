import RecordQuery.Proofs.Checking.Building
import RecordQuery.Proofs.Checking.Lexing
import RecordQuery.Query

/-!
# Queries and errors by index

A query may be compiled, and an error of it shown, by work on indices all the way: the lexer cuts
tokens out of the text, the reader of paths cuts keys out of them, the builder counts its groups and
shrinks their items in place, and the mark below a text is laid out by two pieces of its line.

* `Query.compileChecked`, `ParseError.renderChecked` — both from checked operations;
* `compile_and_render_checked` — **none of these operations fails on any text**.
-/

namespace RecordQuery

/-- Reads a query. -/
def Query.compileChecked (source : String) : Checked ParseError Query :=
  (tokenizeChecked source.toList).settle fun
    | .error e => .of (.error (.lex e))
    | .ok tokens =>
      if (tokens.head?.map Token.kind) = some .finish then .of (.ok ⟨source, none⟩)
      else do
        let root ← buildChecked tokens
        .of (.ok ⟨source, some root⟩)

/-- The wording of an error with a text underlined below it. -/
def ParseError.renderChecked (e : ParseError) (text : List Char) : Option String := do
  let line := oneLine text
  let start := min e.span.start line.length
  let stop := min e.span.stop line.length
  let before ← Checked.slice? line 0 start
  let marked ← Checked.slice? line start stop
  some (e.message ++ "\n" ++ String.ofList ("  ".toList ++ line ++ "\n  ".toList
    ++ List.replicate (Text.columns before) ' '
    ++ List.replicate (max (Text.columns marked) 1) '^'))

theorem compileChecked_eq (source : String) :
    Query.compileChecked source = .of (Query.compile source) := by
  rw [Query.compileChecked, tokenizeChecked_eq, Checked.settle_of, Query.compile]
  cases ht : tokenize source.toList with
  | error e => rfl
  | ok tokens =>
    dsimp only
    split_ifs with hempty
    · rfl
    · have hordered := (tokenize_eq_ok_iff.1 ht).ordered.imp fun h => Nat.le_of_lt h.1
      rw [buildChecked_eq hordered]
      cases build tokens <;> rfl

theorem renderChecked_eq (e : ParseError) (text : List Char) :
    e.renderChecked text = some (e.render text) := by
  have hle : e.span.start ≤ e.span.stop := Nat.le_add_right _ _
  generalize hline : ParseError.oneLine text = line
  have hbefore : Checked.slice? line 0 (min e.span.start line.length) =
      some (line.take (min e.span.start line.length)) :=
    Checked.slice?_take (Nat.min_le_right _ _)
  have hmarked : Checked.slice? line (min e.span.start line.length) (min e.span.stop line.length) =
      some ((line.drop (min e.span.start line.length)).take
        (min e.span.stop line.length - min e.span.start line.length)) :=
    if_pos ⟨by omega, Nat.min_le_right _ _⟩
  rw [ParseError.renderChecked, hline]
  simp only [hbefore, hmarked, Option.bind_eq_bind, Option.bind_some]
  subst hline
  rfl

/-- **No operation on indices fails**, whatever query is compiled and whatever text an error is shown
below; and what the operations come to is the compiled query and the text that is shown. -/
theorem compile_and_render_checked :
    (∀ source, (Query.compileChecked source).run = some (Query.compile source)) ∧
      ∀ (e : ParseError) text, e.renderChecked text = some (e.render text) := by
  refine ⟨fun source => ?_, renderChecked_eq⟩
  rw [compileChecked_eq]
  exact Checked.run_of _

end RecordQuery

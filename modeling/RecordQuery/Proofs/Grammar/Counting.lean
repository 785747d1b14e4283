import RecordQuery.Expr.Builder
import Mathlib.Data.Nat.Notation

/-!
# Descending into groups with a counter

A tree may also be taken by recursive descent: one function for a group, one for the row of its
items, one for an atom, and each of them may fail at many places.  The open groups are then no
stack, but only a counter that all of them share and that outlives a call: it is raised where a
group is entered and lowered where it is left, also where it is left by a failure.

* `Descent.group`, `Descent.row`, `Descent.atom` — the recursive descent with its counter;
* `group_depth`, `row_depth`, `atom_depth` — **whatever comes of it, the counter is as it was**;
* `collect_eq_row` — **the descent is the builder with its stack of open groups**;
* `CountingBuilder` — tokens from which trees are taken one after the other, with one counter.
-/

namespace RecordQuery

namespace Descent

/-- What a descent leaves behind: its result, the counter, and the tokens that it did not use. -/
structure Left (tokens : List Token) where
  result : Except ParseError Node
  depth : ℕ
  rest : List Token
  le : rest.length ≤ tokens.length

namespace Left

variable {tokens tokens' : List Token}

/-- The same behind some more tokens. -/
def behind (left : Left tokens) (h : tokens.length ≤ tokens'.length) : Left tokens' :=
  ⟨left.result, left.depth, left.rest, Nat.le_trans left.le h⟩

@[simp] theorem behind_depth (left : Left tokens) (h : tokens.length ≤ tokens'.length) :
    (left.behind h).depth = left.depth := rfl

/-- The same with the counter lowered. -/
def lowered (left : Left tokens) : Left tokens := { left with depth := left.depth - 1 }

/-- Goes on behind the node, with the counter and the tokens that are left; a failure ends it. -/
def onward (left : Left tokens)
    (next : Node → ℕ → (rest : List Token) → rest.length ≤ tokens.length → Left rest) :
    Left tokens :=
  match left.result with
  | .ok n => (next n left.depth left.rest left.le).behind left.le
  | .error e => ⟨.error e, left.depth, left.rest, left.le⟩

theorem onward_depth (left : Left tokens)
    {next : Node → ℕ → (rest : List Token) → rest.length ≤ tokens.length → Left rest}
    (h : ∀ n depth rest hle, (next n depth rest hle).depth = depth) :
    (left.onward next).depth = left.depth := by
  unfold onward
  split
  · rw [behind_depth, h]
  · rfl

end Left

/-- Whether a group is refused at this parenthesis; the outermost group has none. -/
def refusal? (opener : Option Token) (depth : ℕ) : Option ParseError :=
  match opener with
  | some token => if maxOpen + 1 ≤ depth then some (.misshapen .tooDeep token.span) else none
  | none => none

/-- What comes of a group behind the last token. -/
def atEnd (stop : ℕ) (opener : Option Token) (items : List Item) : Except ParseError Node :=
  match opener with
  | some _ => .error (.misshapen .unfinished ⟨stop, 0⟩)
  | none => reduce ⟨0, stop⟩ items.reverse

/-- What comes of a group at a closing parenthesis. -/
def atCloser (opener : Option Token) (items : List Item) (closer : Token) :
    Except ParseError Node :=
  match opener with
  | some opener =>
    let start := opener.span.start
    reduce ⟨start, closer.span.start + 1 - start⟩ items.reverse
  | none => .error (.malformed .strayClose ")" closer.span)

/-- What comes of a group at a finishing token. -/
def atFinish (stop : ℕ) (opener : Option Token) (items : List Item) (token : Token) :
    Except ParseError Node :=
  match opener with
  | some opener =>
    let start := opener.span.start
    .error (.malformed .neverClosed "(" ⟨start, token.span.start - start⟩)
  | none => reduce ⟨0, stop⟩ items.reverse

mutual

/-- Takes a group, behind the parenthesis that opened it. -/
def group (stop : ℕ) (opener : Option Token) (depth : ℕ) (tokens : List Token) : Left tokens :=
  match refusal? opener depth with
  | some e => ⟨.error e, depth, tokens, Nat.le_refl _⟩
  | none => (row stop opener (depth + 1) [] tokens).lowered
termination_by (tokens.length, 1)

/-- Takes the items of a group, the last one first, up to its end. -/
def row (stop : ℕ) (opener : Option Token) (depth : ℕ) (items : List Item) :
    (tokens : List Token) → Left tokens
  | [] => ⟨atEnd stop opener items, depth, [], Nat.le_refl _⟩
  | token :: rest =>
    match token.kind with
    | .text =>
      ((atom stop token depth rest).onward fun n depth behind _ =>
        row stop opener depth (.node n :: items) behind).behind (Nat.le_succ _)
    | .leftParen =>
      ((group stop (some token) depth rest).onward fun n depth behind _ =>
        row stop opener depth (.node n :: items) behind).behind (Nat.le_succ _)
    | .unary => (row stop opener depth (.operator token :: items) rest).behind (Nat.le_succ _)
    | .binary => (row stop opener depth (.operator token :: items) rest).behind (Nat.le_succ _)
    | .rightParen => ⟨atCloser opener items token, depth, rest, Nat.le_succ _⟩
    | .finish => ⟨atFinish stop opener items token, depth, rest, Nat.le_succ _⟩
    | .comma => ⟨.error (.misshapen .severalArguments token.span), depth, rest, Nat.le_succ _⟩
    | .keyword =>
      ⟨.error (.misshapen (.unexpected token.value) token.span), depth, rest, Nat.le_succ _⟩
    | .start =>
      ⟨.error (.misshapen (.unexpected token.value) token.span), depth, rest, Nat.le_succ _⟩
termination_by tokens => (tokens.length, 0)

/-- Takes the atom that starts with a text. -/
def atom (stop : ℕ) (token : Token) (depth : ℕ) : (tokens : List Token) → Left tokens
  | [] => ⟨(Operand.ofToken token).map (.operand · token), depth, [], Nat.le_refl _⟩
  | next :: tail =>
    match next.kind with
    | .leftParen =>
      match Method.ofName? token.value with
      | none =>
        ⟨.error (.unknownMethod token.value token.span), depth, next :: tail, Nat.le_refl _⟩
      | some method =>
        let left := group stop (some next) depth tail
        ⟨left.result.map (.method method · token), left.depth, left.rest, Nat.le_succ_of_le left.le⟩
    | .keyword =>
      match Keyword.ofName? next.value with
      | none => ⟨.error (.unknownKeyword next.value next.span), depth, tail, Nat.le_succ _⟩
      | some keyword =>
        match tail with
        | [] => ⟨.error (.misshapen (.missingField next.value) next.span), depth, [], Nat.zero_le _⟩
        | field :: behind =>
          if field.kind = .text then
            ⟨search keyword token next field, depth, behind, Nat.le_succ_of_le (Nat.le_succ _)⟩
          else
            ⟨.error (.misshapen (.missingField next.value) next.span), depth, behind,
              Nat.le_succ_of_le (Nat.le_succ _)⟩
    | _ => ⟨(Operand.ofToken token).map (.operand · token), depth, next :: tail, Nat.le_refl _⟩
termination_by tokens => (tokens.length, 0)

end

/-! ## The counter -/

variable (stop : ℕ)

mutual

/-- **A group leaves the counter as it was**, whatever comes of it. -/
theorem group_depth (opener : Option Token) (depth : ℕ) (tokens : List Token) :
    (group stop opener depth tokens).depth = depth := by
  rw [group]
  split
  · rfl
  · -- the row keeps the raised counter, also where it fails, and it is lowered behind the row
    have hrow := row_depth opener (depth + 1) [] tokens
    exact congrArg (· - 1) hrow
termination_by (tokens.length, 1)

theorem row_depth (opener : Option Token) (depth : ℕ) (items : List Item) (tokens : List Token) :
    (row stop opener depth items tokens).depth = depth := by
  cases tokens with
  | nil => rw [row]
  | cons token rest =>
    rw [row]
    cases hk : token.kind with
    | text =>
      have hatom := atom_depth token depth rest
      have hrow := Left.onward_depth (atom stop token depth rest) fun n depth behind _ =>
        row_depth opener depth (.node n :: items) behind
      exact hrow.trans hatom
    | leftParen =>
      have hgroup := group_depth (some token) depth rest
      have hrow := Left.onward_depth (group stop (some token) depth rest) fun n depth behind _ =>
        row_depth opener depth (.node n :: items) behind
      exact hrow.trans hgroup
    | unary | binary => exact row_depth opener depth (.operator token :: items) rest
    | _ => rfl
termination_by (tokens.length, 0)

theorem atom_depth (token : Token) (depth : ℕ) (tokens : List Token) :
    (atom stop token depth tokens).depth = depth := by
  cases tokens with
  | nil => rw [atom]
  | cons next tail =>
    rw [atom]
    cases next.kind with
    | leftParen =>
      cases Method.ofName? token.value with
      | none => rfl
      | some method => exact group_depth (some next) depth tail
    | keyword =>
      cases Keyword.ofName? next.value with
      | none => rfl
      | some keyword =>
        cases tail with
        | nil => rfl
        | cons field behind =>
          dsimp only
          split <;> rfl
    | _ => rfl
termination_by (tokens.length, 0)

end

/-! ## The descent and the stack -/

/-- Goes on with the node and the tokens behind it, unless there is a failure. -/
def Left.andThen {tokens : List Token} (left : Left tokens)
    (next : Node → List Token → Except ParseError Node × List Token) :
    Except ParseError Node × List Token :=
  match left.result with
  | .ok n => next n left.rest
  | .error e => (.error e, left.rest)

/-- How the builder goes on at the end of the innermost group. -/
def resume : List Group → Node → List Token → Except ParseError Node × List Token
  | [], n, rest => (.ok n, rest)
  | group :: outer, n, rest => collect stop outer (.node (group.close n) :: group.before) rest

variable {opener : Option Token} {depth : ℕ} {items : List Item} {token : Token}
  {rest : List Token} {next : Node → List Token → Except ParseError Node × List Token}

/-- Nothing is done to the counter in between. -/
theorem andThen_onward {tokens : List Token} {left : Left tokens} (hdepth : left.depth = depth)
    (f : Node → ℕ → (rest : List Token) → Left rest) :
    (left.onward fun n depth rest _ => f n depth rest).andThen next =
      left.andThen fun n rest => (f n depth rest).andThen next := by
  cases hr : left.result with
  | ok n => simp only [Left.onward, Left.andThen, Left.behind, hr, hdepth]
  | error e => simp only [Left.onward, Left.andThen, hr]

theorem andThen_congr {tokens : List Token} {left : Left tokens}
    {next next' : Node → List Token → Except ParseError Node × List Token}
    (h : ∀ n, next n left.rest = next' n left.rest) : left.andThen next = left.andThen next' := by
  unfold Left.andThen
  split
  · exact h _
  · rfl

/-- The outermost group is counted too, so the limit is one more than that on parentheses. -/
theorem refusal?_some (opener : Token) (opened : ℕ) :
    refusal? (some opener) (opened + 1) =
      if maxOpen ≤ opened then some (.misshapen .tooDeep opener.span) else none := by
  simp [refusal?]

mutual

/-- **The descent is the builder with its stack of open groups.**  The stack is what the descent
goes on with behind the row of the innermost group, and its height is told by the counter. -/
theorem collect_eq_row (groups : List Group) (items : List Item) (tokens : List Token) :
    collect stop groups items tokens =
      (row stop (groups.head?.map Group.opener) (groups.length + 1) items tokens).andThen
        (resume stop groups) := by
  cases tokens with
  | nil =>
    rw [collect, row]
    cases groups with
    | nil => cases h : reduce ⟨0, stop⟩ items.reverse <;> simp [Left.andThen, atEnd, h, resume]
    | cons group outer => rfl
  | cons token rest =>
    cases hk : token.kind with
    | text =>
      have hdepth := atom_depth stop token (groups.length + 1) rest
      have hle := (atom stop token (groups.length + 1) rest).le
      rw [collect_eq_atom groups items token rest hk, row]
      simp only [hk]
      -- behind the atom the row goes on with the counter that the atom found
      refine Eq.trans ?_ (andThen_onward hdepth _).symm
      exact andThen_congr fun n => collect_eq_row groups (.node n :: items) _
    | leftParen =>
      have hdepth := group_depth stop (some token) (groups.length + 1) rest
      have hle := (group stop (some token) (groups.length + 1) rest).le
      rw [collect.eq_def, row]
      simp only [hk]
      rw [collect_eq_group groups items token none rest]
      refine Eq.trans ?_ (andThen_onward hdepth _).symm
      exact andThen_congr fun n => collect_eq_row groups (.node n :: items) _
    | unary | binary =>
      rw [collect.eq_def, row]
      simp only [hk]
      exact collect_eq_row groups (.operator token :: items) rest
    | rightParen =>
      rw [collect.eq_def, row]
      simp only [hk]
      cases groups with
      | nil => rfl
      | cons group outer =>
        simp only [Left.andThen, atCloser, List.head?_cons, Option.map_some, Group.span]
        cases reduce ⟨group.opener.span.start, _⟩ items.reverse <;> rfl
    | finish =>
      rw [collect.eq_def, row]
      simp only [hk]
      cases groups with
      | nil => cases h : reduce ⟨0, stop⟩ items.reverse <;> simp [Left.andThen, atFinish, h, resume]
      | cons group outer => rfl
    | comma | keyword | start =>
      rw [collect.eq_def, row]
      simp only [hk]
      rfl
termination_by (tokens.length, 0)

/-- Both refuse at the same parenthesis. -/
theorem collect_eq_group (groups : List Group) (items : List Item) (opener : Token)
    (caller : Option (Method × Token)) (tokens : List Token) :
    (if maxOpen ≤ groups.length then (.error (.misshapen .tooDeep opener.span), tokens)
      else collect stop (⟨opener, caller, items⟩ :: groups) [] tokens) =
      (group stop (some opener) (groups.length + 1) tokens).andThen
        (resume stop (⟨opener, caller, items⟩ :: groups)) := by
  rw [group, refusal?_some]
  split
  · rfl
  · exact collect_eq_row (⟨opener, caller, items⟩ :: groups) [] tokens
termination_by (tokens.length, 1)

theorem collect_eq_atom (groups : List Group) (items : List Item) (token : Token)
    (tokens : List Token) (hk : token.kind = .text) :
    collect stop groups items (token :: tokens) =
      (atom stop token (groups.length + 1) tokens).andThen fun n behind =>
        collect stop groups (.node n :: items) behind := by
  cases tokens with
  | nil =>
    rw [collect.eq_def, atom]
    simp only [hk]
    cases Operand.ofToken token <;> rfl
  | cons second tail =>
    rw [collect.eq_def, atom]
    cases hs : second.kind with
    | leftParen =>
      simp only [hk, hs]
      cases Method.ofName? token.value with
      | none => rfl
      | some method =>
        dsimp only
        rw [collect_eq_group groups items second (some (method, token)) tail]
        unfold Left.andThen
        cases (group stop (some second) (groups.length + 1) tail).result <;> rfl
    | keyword =>
      simp only [hk, hs]
      cases Keyword.ofName? second.value with
      | none => rfl
      | some keyword =>
        cases tail with
        | nil => rfl
        | cons field behind =>
          by_cases hf : field.kind = .text
          · simp only [hf, if_true]
            cases search keyword token second field <;> rfl
          · simp only [hf, if_false]
            rfl
    | _ =>
      simp only [hk, hs]
      cases Operand.ofToken token <;> rfl
termination_by (tokens.length, 0)

end

/-- The outermost group, entered with the counter at nothing. -/
theorem collect_eq_outermost (tokens : List Token) :
    collect stop [] [] tokens =
      ((group stop none 0 tokens).result, (group stop none 0 tokens).rest) := by
  rw [collect_eq_row stop [] [] tokens, group]
  unfold Left.andThen
  cases h : (row stop none 1 [] tokens).result <;> simp [h, refusal?, Left.lowered, resume]

end Descent

/-! ## One tree after the other -/

/-- Tokens from which trees are taken, with the counter of open groups. -/
structure CountingBuilder where
  /-- The tokens not yet used. -/
  tokens : List Token
  /-- The place behind all tokens, the used ones included. -/
  stop : ℕ
  /-- How many groups are open. -/
  depth : ℕ

namespace CountingBuilder

/-- A builder for some tokens. -/
def ofTokens (tokens : List Token) : CountingBuilder :=
  ⟨tokens, (tokens.getLast?.map fun t => t.span.stop).getD 0, 0⟩

/-- Takes the next tree.  A failure uses up the tokens to its place. -/
def next (builder : CountingBuilder) : Except ParseError Node × CountingBuilder :=
  let left := Descent.group builder.stop none builder.depth builder.tokens
  (left.result, { builder with tokens := left.rest, depth := left.depth })

/-- What is left after some trees were taken, or not found. -/
def after (builder : CountingBuilder) : ℕ → CountingBuilder
  | 0 => builder
  | calls + 1 => (builder.after calls).next.2

variable (builder : CountingBuilder)

@[simp] theorem next_stop : builder.next.2.stop = builder.stop := rfl

@[simp] theorem next_depth : builder.next.2.depth = builder.depth :=
  Descent.group_depth builder.stop none builder.depth builder.tokens

@[simp] theorem after_stop (calls : ℕ) : (builder.after calls).stop = builder.stop := by
  induction calls with
  | zero => rfl
  | succ calls ih => rw [after, next_stop, ih]

/-- **No call leaves a group open**, so the counter stands where it stood. -/
@[simp] theorem after_depth (calls : ℕ) : (builder.after calls).depth = builder.depth := by
  induction calls with
  | zero => rfl
  | succ calls ih => rw [after, next_depth, ih]

/-- With the counter at nothing, the next tree is that of the builder without a counter. -/
theorem next_eq (tokens : List Token) (stop : ℕ) :
    (mk tokens stop 0).next =
      ((Builder.mk tokens stop).next.1, ⟨(Builder.mk tokens stop).next.2.tokens, stop, 0⟩) := by
  have hdepth := Descent.group_depth stop none 0 tokens
  have hcollect := Descent.collect_eq_outermost stop tokens
  simp only [next, Builder.next, hcollect, hdepth]

end CountingBuilder

end RecordQuery

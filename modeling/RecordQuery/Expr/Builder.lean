import RecordQuery.Expr.Operand

/-!
# Building trees

Tokens become a tree in two steps.  The items of a group in parentheses are collected side by
side: operands, method calls, searches and inner groups are nodes at once, and operators stay
between them.  At the end of the group its items are **reduced** to a single node: first `not`,
from right to left, then the binary operators tier by tier, each from left to right.

* `reduce` — the items of a group as one node;
* `build` — the tree at the front of some tokens, and the tokens behind it;
* `Builder` — tokens from which several trees may be taken one after the other.
-/

namespace RecordQuery

/-- A member of a group: an operator that waits for its operands, or a complete node. -/
inductive Item where
  | operator (token : Token)
  | node (n : Node)

/-! ## Reducing a group -/

/-- Joins every `not` with the node behind it, from right to left. -/
def joinUnary : List Item → Except ParseError (List Item)
  | [] => .ok []
  | item :: items => do
    let items ← joinUnary items
    match item with
    | .operator token =>
      if token.kind = .unary then
        match UnaryOp.ofSymbol? token.value with
        | none => .error (.unknownOperator token.value token.span)
        | some op =>
          match items with
          | .node n :: rest => .ok (.node (.unary op n token) :: rest)
          | _ => .error (.misshapen .missingOperand token.span)
      else .ok (item :: items)
    | .node _ => .ok (item :: items)

/-- Joins every operator of a tier with the nodes beside it, from left to right.  The items on
the left come last item first. -/
def joinBinary (tier : Tier) (left : List Item) : List Item → Except ParseError (List Item)
  | [] => .ok left.reverse
  | .node n :: items => joinBinary tier (.node n :: left) items
  | .operator token :: items =>
    if token.kind = .binary then
      match BinaryOp.ofSymbol? token.value with
      | none => .error (.unknownOperator token.value token.span)
      | some op =>
        if op.tier = tier then
          match left, items with
          | .node l :: left, .node r :: items =>
            joinBinary tier (.node (.binary op l r token) :: left) items
          | _, _ => .error (.misshapen (.missingOperands op) token.span)
        else joinBinary tier (.operator token :: left) items
    else joinBinary tier (.operator token :: left) items

/-- Joins the operators of all tiers, one tier after the other. -/
def joinTiers : List Tier → List Item → Except ParseError (List Item)
  | [], items => .ok items
  | tier :: tiers, items => do
    let items ← joinBinary tier [] items
    joinTiers tiers items

/-- The single node that is left of a group. -/
def single (span : Span) : List Item → Except ParseError Node
  | [] => .error (.misshapen .empty span)
  | [.node n] => .ok n
  | [.operator _] => .error (.misshapen .onlyOperator span)
  | items => .error (.misshapen (.severalParts items.length) span)

/-- Reduces the items of a group to one node; the span is that of the group. -/
def reduce (span : Span) (items : List Item) : Except ParseError Node := do
  let items ← joinUnary items
  let items ← joinTiers Tier.all items
  single span items

/-! ## Collecting groups -/

/-- How many parentheses may be open at most. -/
def maxOpen : Nat := 127

/-- An open group: its parenthesis, the method that waits for it with the token of the method,
and the items in front of it, last item first. -/
structure Group where
  opener : Token
  caller : Option (Method × Token)
  before : List Item

namespace Group

/-- The span from the opening to the closing parenthesis. -/
def span (group : Group) (closer : Token) : Span :=
  ⟨group.opener.span.start, closer.span.start + 1 - group.opener.span.start⟩

/-- The node of a group: a method call, or what the group reduces to. -/
def close (group : Group) (argument : Node) : Node :=
  match group.caller with
  | some (method, token) => .method method argument token
  | none => argument

end Group

/-- Reads the search for a pattern in a field. -/
def search (keyword : Keyword) (pattern keywordToken field : Token) : Except ParseError Node :=
  match Pattern.compile? pattern.value with
  | none => .error (.malformed .pattern pattern.value pattern.span)
  | some compiled => do
    let operand ← Operand.ofToken field
    .ok (.keyword keyword compiled operand keywordToken)

/-- Takes a tree from the front of some tokens.  The items of the innermost group come last item
first, and `stop` is the place behind all tokens. -/
def collect (stop : Nat) (groups : List Group) (items : List Item) :
    List Token → Except ParseError Node × List Token
  | [] =>
    if groups.isEmpty then (reduce ⟨0, stop⟩ items.reverse, [])
    else (.error (.misshapen .unfinished ⟨stop, 0⟩), [])
  | token :: rest =>
    match token.kind with
    | .text =>
      match rest with
      | [] =>
        match Operand.ofToken token with
        | .ok operand => collect stop groups (.node (.operand operand token) :: items) []
        | .error e => (.error e, [])
      | next :: tail =>
        match next.kind with
        | .leftParen =>
          match Method.ofName? token.value with
          | none => (.error (.unknownMethod token.value token.span), rest)
          | some method =>
            if maxOpen ≤ groups.length then (.error (.misshapen .tooDeep next.span), tail)
            else collect stop (⟨next, some (method, token), items⟩ :: groups) [] tail
        | .keyword =>
          match Keyword.ofName? next.value with
          | none => (.error (.unknownKeyword next.value next.span), tail)
          | some keyword =>
            match tail with
            | [] => (.error (.misshapen (.missingField next.value) next.span), [])
            | field :: behind =>
              if field.kind = .text then
                match search keyword token next field with
                | .ok n => collect stop groups (.node n :: items) behind
                | .error e => (.error e, behind)
              else (.error (.misshapen (.missingField next.value) next.span), behind)
        | _ =>
          match Operand.ofToken token with
          | .ok operand =>
            collect stop groups (.node (.operand operand token) :: items) (next :: tail)
          | .error e => (.error e, rest)
    | .leftParen =>
      if maxOpen ≤ groups.length then (.error (.misshapen .tooDeep token.span), rest)
      else collect stop (⟨token, none, items⟩ :: groups) [] rest
    | .unary => collect stop groups (.operator token :: items) rest
    | .binary => collect stop groups (.operator token :: items) rest
    | .rightParen =>
      match groups with
      | [] => (.error (.malformed .strayClose ")" token.span), rest)
      | group :: outer =>
        match reduce (group.span token) items.reverse with
        | .ok n => collect stop outer (.node (group.close n) :: group.before) rest
        | .error e => (.error e, rest)
    | .finish =>
      match groups with
      | [] => (reduce ⟨0, stop⟩ items.reverse, rest)
      | group :: _ =>
        let start := group.opener.span.start
        (.error (.malformed .neverClosed "(" ⟨start, token.span.start - start⟩), rest)
    | .comma => (.error (.misshapen .severalArguments token.span), rest)
    | .keyword => (.error (.misshapen (.unexpected token.value) token.span), rest)
    | .start => (.error (.misshapen (.unexpected token.value) token.span), rest)

/-- Tokens from which trees are taken. -/
structure Builder where
  /-- The tokens not yet used. -/
  tokens : List Token
  /-- The place behind all tokens, the used ones included. -/
  stop : Nat

namespace Builder

/-- A builder for some tokens. -/
def ofTokens (tokens : List Token) : Builder :=
  ⟨tokens, (tokens.getLast?.map fun t => t.span.stop).getD 0⟩

/-- Takes the next tree.  A failure uses up the tokens to its place. -/
def next (builder : Builder) : Except ParseError Node × Builder :=
  let (result, rest) := collect builder.stop [] [] builder.tokens
  (result, { builder with tokens := rest })

end Builder

/-- The tree of some tokens. -/
def build (tokens : List Token) : Except ParseError Node := (Builder.ofTokens tokens).next.1

end RecordQuery

import RecordQuery.Proofs.Checking.Paths
import RecordQuery.Proofs.Checking.Reducing
import RecordQuery.Proofs.Compiling.Locating

/-!
# Building a tree with a counter of groups

The limit on open parentheses may be kept by a counter, raised where a group starts and lowered where
it ends, also where it ends by a failure.  And the span of a group is a difference of places: that of
its opening parenthesis, and that of a token behind it.

* `lower?`, `collectChecked`, `buildChecked` — the builder with a counter, from checked operations;
* `Counted` — the counter is one more than the number of open groups, and each of them was opened in
  front of the tokens to come;
* `Counted.collectChecked_eq` — **no operation fails, and the tree is that of the builder**.
-/

namespace RecordQuery

/-! ## The builder with a counter -/

namespace Operand

/-- Reads the path of a token, which starts some characters behind the start of the value. -/
def pathOfTokenChecked (token : Token) (offset : ℕ) (text : List Char) :
    Checked ParseError Operand :=
  (FieldPath.parseChecked text).settle fun
    | .ok read => .of (.ok (.path read))
    | .error e =>
      let start := token.span.start + (if token.quoted then 1 else 0) + offset + e.offset
      .of (.error (.malformed (.path e.fault) token.value ⟨start, e.length⟩))

/-- Reads the operand of a text token. -/
def ofTokenChecked (token : Token) : Checked ParseError Operand :=
  let text := token.value.toList
  match stripMark? fieldMark text with
  | some rest => pathOfTokenChecked token fieldMark.length rest
  | none =>
    if Numeral.isDecimal text then
      match numberOf? text with
      | some value => .of (.ok (.number value))
      | none => .of (.error (.malformed .number token.value token.span))
    else pathOfTokenChecked token 0 text

end Operand

/-- Reads the search for a pattern in a field. -/
def searchChecked (keyword : Keyword) (pattern keywordToken field : Token) :
    Checked ParseError Node :=
  match Pattern.compile? pattern.value with
  | none => .of (.error (.malformed .pattern pattern.value pattern.span))
  | some compiled => do
    let operand ← Operand.ofTokenChecked field
    .of (.ok (.keyword keyword compiled operand keywordToken))

/-- Lowers a counter by one, some number of times. -/
def lower? : ℕ → ℕ → Option ℕ
  | 0, depth => some depth
  | count + 1, depth => do
    let depth ← Checked.minus? depth 1
    lower? count depth

/-- Ends with a result inside of some groups: each of them and the outermost one lowers the
counter. -/
def leave (groups : List Group) (depth : ℕ) (result : Except ParseError Node) :
    Checked ParseError Node := do
  let _ ← Checked.need (lower? (groups.length + 1) depth)
  .of result

/-- Takes a tree from the front of some tokens, behind so many groups that were entered. -/
def collectChecked (stop depth : ℕ) (groups : List Group) (items : List Item) :
    List Token → Checked ParseError Node
  | [] =>
    if groups.isEmpty then (reduceChecked ⟨0, stop⟩ items.reverse).settle (leave groups depth)
    else leave groups depth (.error (.misshapen .unfinished ⟨stop, 0⟩))
  | token :: rest =>
    match token.kind with
    | .text =>
      match rest with
      | [] =>
        (Operand.ofTokenChecked token).settle fun
          | .ok operand =>
            collectChecked stop depth groups (.node (.operand operand token) :: items) []
          | .error e => leave groups depth (.error e)
      | next :: tail =>
        match next.kind with
        | .leftParen =>
          match Method.ofName? token.value with
          | none => leave groups depth (.error (.unknownMethod token.value token.span))
          | some method =>
            if maxOpen + 1 ≤ depth then
              leave groups depth (.error (.misshapen .tooDeep next.span))
            else
              collectChecked stop (depth + 1) (⟨next, some (method, token), items⟩ :: groups) [] tail
        | .keyword =>
          match Keyword.ofName? next.value with
          | none => leave groups depth (.error (.unknownKeyword next.value next.span))
          | some keyword =>
            match tail with
            | [] => leave groups depth (.error (.misshapen (.missingField next.value) next.span))
            | field :: behind =>
              if field.kind = .text then
                (searchChecked keyword token next field).settle fun
                  | .ok n => collectChecked stop depth groups (.node n :: items) behind
                  | .error e => leave groups depth (.error e)
              else leave groups depth (.error (.misshapen (.missingField next.value) next.span))
        | _ =>
          (Operand.ofTokenChecked token).settle fun
            | .ok operand =>
              collectChecked stop depth groups (.node (.operand operand token) :: items)
                (next :: tail)
            | .error e => leave groups depth (.error e)
    | .leftParen =>
      if maxOpen + 1 ≤ depth then leave groups depth (.error (.misshapen .tooDeep token.span))
      else collectChecked stop (depth + 1) (⟨token, none, items⟩ :: groups) [] rest
    | .unary => collectChecked stop depth groups (.operator token :: items) rest
    | .binary => collectChecked stop depth groups (.operator token :: items) rest
    | .rightParen =>
      match groups with
      | [] => leave groups depth (.error (.malformed .strayClose ")" token.span))
      | group :: outer => do
        let start := group.opener.span.start
        let length ← Checked.need (Checked.minus? (token.span.start + 1) start)
        (reduceChecked ⟨start, length⟩ items.reverse).settle fun
          | .ok n => do
            let depth ← Checked.need (Checked.minus? depth 1)
            collectChecked stop depth outer (.node (group.close n) :: group.before) rest
          | .error e => leave groups depth (.error e)
    | .finish =>
      match groups with
      | [] => (reduceChecked ⟨0, stop⟩ items.reverse).settle (leave groups depth)
      | group :: _ => do
        let start := group.opener.span.start
        let length ← Checked.need (Checked.minus? token.span.start start)
        leave groups depth (.error (.malformed .neverClosed "(" ⟨start, length⟩))
    | .comma => leave groups depth (.error (.misshapen .severalArguments token.span))
    | .keyword => leave groups depth (.error (.misshapen (.unexpected token.value) token.span))
    | .start => leave groups depth (.error (.misshapen (.unexpected token.value) token.span))

/-- The tree of some tokens. -/
def buildChecked (tokens : List Token) : Checked ParseError Node :=
  collectChecked (Builder.ofTokens tokens).stop 1 [] [] tokens

/-! ## Operands -/

theorem Operand.pathOfTokenChecked_eq (token : Token) (offset : ℕ) (text : List Char) :
    pathOfTokenChecked token offset text = .of (pathOfToken token offset text) := by
  rw [pathOfTokenChecked, FieldPath.parseChecked_eq, Checked.settle_of, pathOfToken]
  cases FieldPath.parse text <;> rfl

theorem Operand.ofTokenChecked_eq (token : Token) :
    ofTokenChecked token = .of (ofToken token) := by
  unfold ofTokenChecked ofToken
  dsimp only
  cases stripMark? fieldMark token.value.toList with
  | some rest => exact pathOfTokenChecked_eq _ _ _
  | none =>
    dsimp only
    split_ifs
    · cases numberOf? token.value.toList <;> rfl
    · exact pathOfTokenChecked_eq _ _ _

theorem searchChecked_eq (keyword : Keyword) (pattern keywordToken field : Token) :
    searchChecked keyword pattern keywordToken field =
      .of (search keyword pattern keywordToken field) := by
  unfold searchChecked search
  cases Pattern.compile? pattern.value with
  | none => rfl
  | some compiled =>
    dsimp only
    rw [Operand.ofTokenChecked_eq]
    exact Checked.of_bind fun _ => rfl

/-! ## Groups -/

/-- The counter is one more than the number of open groups, and the tokens to come stand in their
order behind the parentheses that opened them. -/
structure Counted (depth : ℕ) (groups : List Group) (tokens : List Token) : Prop where
  depth : depth = groups.length + 1
  ordered : tokens.Pairwise fun a b => a.span.start ≤ b.span.start
  opened : ∀ group ∈ groups, ∀ token ∈ tokens, group.opener.span.start ≤ token.span.start

variable {depth stop : ℕ} {groups outer : List Group} {group : Group} {items : List Item}
  {token : Token} {tokens rest : List Token}

theorem lower?_add (count depth : ℕ) : lower? count (depth + count) = some depth := by
  induction count with
  | zero => rfl
  | succ count ih =>
    rw [lower?, ← Nat.add_assoc, Checked.minus?_add]
    exact ih

namespace Counted

theorem leave_eq (h : Counted depth groups tokens) (result : Except ParseError Node) :
    leave groups depth result = .of result := by
  have hlower : lower? (groups.length + 1) depth = some 0 := by
    rw [h.depth]
    have hzero := lower?_add (groups.length + 1) 0
    rwa [Nat.zero_add] at hzero
  rw [leave, hlower, Checked.need_some_bind]

theorem tail (h : Counted depth groups (token :: rest)) : Counted depth groups rest :=
  ⟨h.depth, h.ordered.tail, fun group hg t ht => h.opened group hg t (List.mem_cons_of_mem _ ht)⟩

theorem enter (h : Counted depth groups (token :: rest)) (caller : Option (Method × Token))
    (items : List Item) : Counted (depth + 1) (⟨token, caller, items⟩ :: groups) rest := by
  refine ⟨?_, h.ordered.tail, List.forall_mem_cons.2 ⟨?_, h.tail.opened⟩⟩
  · rw [h.depth, List.length_cons]
  · exact fun t ht => List.rel_of_pairwise_cons h.ordered ht

theorem close (h : Counted depth (group :: outer) (token :: rest)) :
    Checked.minus? depth 1 = some (depth - 1) ∧ Counted (depth - 1) outer rest := by
  have hdepth := h.depth
  rw [List.length_cons] at hdepth
  refine ⟨Checked.minus?_of_le (by omega), by omega, h.tail.ordered, ?_⟩
  exact fun group hg => h.tail.opened group (List.mem_cons_of_mem _ hg)

theorem limit_iff (h : Counted depth groups tokens) :
    maxOpen + 1 ≤ depth ↔ maxOpen ≤ groups.length := by
  rw [h.depth]
  exact Nat.add_le_add_iff_right

/-- **No operation fails, and the tree is that of the builder.** -/
theorem collectChecked_eq (h : Counted depth groups tokens) (stop : ℕ) (items : List Item) :
    collectChecked stop depth groups items tokens = .of (collect stop groups items tokens).1 := by
  fun_induction collect stop groups items tokens generalizing depth with rw [collectChecked.eq_def]
  | case1 groups items hopen =>
    simp only [hopen, if_true, reduceChecked_eq, Checked.settle_of]
    exact h.leave_eq _
  | case2 groups items hopen =>
    simp only [hopen]
    exact h.leave_eq _
  | case3 groups items token hk operand ho ih =>
    simp only [hk, Operand.ofTokenChecked_eq, ho, Checked.settle_of]
    exact ih h.tail
  | case4 groups items token hk e ho =>
    simp only [hk, Operand.ofTokenChecked_eq, ho, Checked.settle_of]
    exact h.leave_eq _
  | case5 groups items token hk next tail hp hm =>
    simp only [hk, hp, hm]
    exact h.leave_eq _
  | case6 groups items token hk next tail hp method hm hopen =>
    simp only [hk, hp, hm, h.limit_iff, hopen, if_true]
    exact h.leave_eq _
  | case7 groups items token hk next tail hp method hm hopen ih =>
    simp only [hk, hp, hm, h.limit_iff, hopen, if_false]
    exact ih (h.tail.enter _ _)
  | case8 groups items token hk next tail hw hkey =>
    simp only [hk, hw, hkey]
    exact h.leave_eq _
  | case9 groups items token hk next hw keyword hkey =>
    simp only [hk, hw, hkey]
    exact h.leave_eq _
  | case10 groups items token hk next hw keyword hkey field behind hf m hs ih =>
    simp only [hk, hw, hkey, hf, if_true, searchChecked_eq, hs, Checked.settle_of]
    exact ih h.tail.tail.tail
  | case11 groups items token hk next hw keyword hkey field behind hf e hs =>
    simp only [hk, hw, hkey, hf, if_true, searchChecked_eq, hs, Checked.settle_of]
    exact h.leave_eq _
  | case12 groups items token hk next hw keyword hkey field behind hf =>
    simp only [hk, hw, hkey, hf, if_false]
    exact h.leave_eq _
  | case13 groups items token hk next tail leaf ho hl hw ih =>
    simp only [hk, Operand.ofTokenChecked_eq, ho, Checked.settle_of]
    exact ih h.tail
  | case14 groups items token hk next tail e ho hl hw =>
    simp only [hk, Operand.ofTokenChecked_eq, ho, Checked.settle_of]
    exact h.leave_eq _
  | case15 groups items token rest hk hopen =>
    simp only [hk, h.limit_iff, hopen, if_true]
    exact h.leave_eq _
  | case16 groups items token rest hk hopen ih =>
    simp only [hk, h.limit_iff, hopen, if_false]
    exact ih (h.enter _ _)
  | case17 groups items token rest hk ih | case18 groups items token rest hk ih =>
    simp only [hk]
    exact ih h.tail
  | case19 items token rest hk =>
    simp only [hk]
    exact h.leave_eq _
  | case20 items token rest hk group outer m hr ih =>
    have hstart := h.opened group List.mem_cons_self token List.mem_cons_self
    obtain ⟨hlower, hclosed⟩ := h.close
    rw [Group.span] at hr
    simp only [hk, Checked.minus?_of_le (Nat.le_succ_of_le hstart), Checked.need_some_bind,
      reduceChecked_eq, hr, Checked.settle_of, hlower]
    exact ih hclosed
  | case21 items token rest hk group outer e hr =>
    have hstart := h.opened group List.mem_cons_self token List.mem_cons_self
    rw [Group.span] at hr
    simp only [hk, Checked.minus?_of_le (Nat.le_succ_of_le hstart), Checked.need_some_bind,
      reduceChecked_eq, hr, Checked.settle_of]
    exact h.leave_eq _
  | case22 items token rest hk =>
    simp only [hk, reduceChecked_eq, Checked.settle_of]
    exact h.leave_eq _
  | case23 items token rest hk group outer =>
    have hstart := h.opened group List.mem_cons_self token List.mem_cons_self
    simp only [hk, Checked.minus?_of_le hstart, Checked.need_some_bind]
    exact h.leave_eq _
  | case24 groups items token rest hk | case25 groups items token rest hk
  | case26 groups items token rest hk =>
    simp only [hk]
    exact h.leave_eq _

end Counted

/-- The tree of tokens that stand in their order. -/
theorem buildChecked_eq {tokens : List Token}
    (h : tokens.Pairwise fun a b => a.span.start ≤ b.span.start) :
    buildChecked tokens = .of (build tokens) := by
  have hcounted : Counted 1 [] tokens := ⟨rfl, h, by simp⟩
  exact hcounted.collectChecked_eq _ _

end RecordQuery

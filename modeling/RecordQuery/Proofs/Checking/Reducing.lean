import Mathlib.Data.List.Induction
import RecordQuery.Proofs.Grammar.Grouping
import RecordQuery.Proofs.Checking.Operations

/-!
# Reducing a group by index

The items of a group may be reduced in one list that shrinks while an index runs over it: from the
end for `not`, and from the start for the operators of a tier.  Only items behind the index are taken
out, or items beside it that become one item.  So the index never leaves the list.

* `joinUnaryChecked`, `joinBinaryChecked`, `reduceChecked` — the passes by index, from checked
  operations;
* `reduceChecked_eq` — **no operation fails, and the result is that of `reduce`**.
-/

namespace RecordQuery

/-! ## The passes by index -/

/-- The node that an item is. -/
def Item.node? : Item → Option Node
  | node n => some n
  | operator _ => none

/-- The operator that an item is. -/
def Item.operator? : Item → Option Token
  | node _ => none
  | operator token => some token

/-- Takes the item at a place out of a list if it is of a sort. -/
def takeAs? {α : Type} (sort? : Item → Option α) (items : List Item) (index : ℕ) :
    Option (α × List Item) := do
  let item ← items[index]?
  let taken ← sort? item
  some (taken, items.eraseIdx index)

/-- Joins every `not` in front of a place with the node behind it, from right to left. -/
def joinUnaryChecked : ℕ → List Item → Checked ParseError (List Item)
  | 0, items => .of (.ok items)
  | index + 1, items => do
    match ← Checked.need items[index]? with
    | .operator token =>
      if token.kind = .unary then
        match UnaryOp.ofSymbol? token.value with
        | none => .of (.error (.unknownOperator token.value token.span))
        | some op =>
          match takeAs? Item.node? items (index + 1) with
          | none => .of (.error (.misshapen .missingOperand token.span))
          | some (n, items) =>
            match takeAs? Item.operator? items index with
            | none => .of (.error (.misshapen .missingOperand token.span))
            | some (token, items) => do
              let items ← Checked.need (Checked.insert? items index (.node (.unary op n token)))
              joinUnaryChecked index items
      else joinUnaryChecked index items
    | .node _ => joinUnaryChecked index items

/-- Whether there are nodes on both sides of a place. -/
def hasOperands? (items : List Item) (index : ℕ) : Option Bool :=
  if index = 0 then some false
  else do
    let before ← Checked.minus? index 1
    let left ← items[before]?
    some (left.node?.isSome && (items[index + 1]?.bind Item.node?).isSome)

/-- Joins the operator at a place with the nodes beside it, which must be there. -/
def joinAt? (op : BinaryOp) (items : List Item) (index : ℕ) : Option (List Item) := do
  let (r, items) ← takeAs? Item.node? items (index + 1)
  let (token, items) ← takeAs? Item.operator? items index
  let before ← Checked.minus? index 1
  let (l, items) ← takeAs? Item.node? items before
  Checked.insert? items before (.node (.binary op l r token))

theorem length_takeAs? {α : Type} {sort? : Item → Option α} {items items' : List Item}
    {index : ℕ} {x : α} (h : takeAs? sort? items index = some (x, items')) :
    items'.length + 1 = items.length := by
  simp only [takeAs?, Option.bind_eq_bind, Option.bind_eq_some_iff] at h
  obtain ⟨item, hitem, taken, _, h⟩ := h
  cases h
  have hindex := (List.getElem?_eq_some_iff.1 hitem).1
  rw [List.length_eraseIdx_of_lt hindex]
  omega

theorem length_joinAt? {op : BinaryOp} {items items' : List Item} {index : ℕ}
    (h : joinAt? op items index = some items') : items'.length + 2 = items.length := by
  simp only [joinAt?, Option.bind_eq_bind, Option.bind_eq_some_iff] at h
  obtain ⟨⟨r, items₁⟩, hr, ⟨token, items₂⟩, ht, before, _, ⟨l, items₃⟩, hl, hinsert⟩ := h
  have h₁ := length_takeAs? hr
  have h₂ := length_takeAs? ht
  have h₃ := length_takeAs? hl
  have h₄ := Checked.length_insert? hinsert
  dsimp only at h₁ h₂ h₃ h₄
  omega

/-- Joins every operator of a tier from a place on with the nodes beside it, from left to right. -/
def joinBinaryChecked (tier : Tier) (index : ℕ) (items : List Item) :
    Checked ParseError (List Item) :=
  if _hindex : index < items.length then do
    match ← Checked.need items[index]? with
    | .operator token =>
      if token.kind = .binary then
        match BinaryOp.ofSymbol? token.value with
        | none => .of (.error (.unknownOperator token.value token.span))
        | some op =>
          if op.tier = tier then do
            if ← Checked.need (hasOperands? items index) then
              match _hjoin : joinAt? op items index with
              | none => Checked.need none
              | some items' => joinBinaryChecked tier index items'
            else .of (.error (.misshapen (.missingOperands op) token.span))
          else joinBinaryChecked tier (index + 1) items
      else joinBinaryChecked tier (index + 1) items
    | .node _ => joinBinaryChecked tier (index + 1) items
  else .of (.ok items)
termination_by items.length - index
decreasing_by
  · have := length_joinAt? _hjoin
    omega
  all_goals omega

/-- Joins the operators of all tiers, one tier after the other. -/
def joinTiersChecked : List Tier → List Item → Checked ParseError (List Item)
  | [], items => .of (.ok items)
  | tier :: tiers, items => do
    let items ← joinBinaryChecked tier 0 items
    joinTiersChecked tiers items

/-- Reduces the items of a group to one node. -/
def reduceChecked (span : Span) (items : List Item) : Checked ParseError Node := do
  let items ← joinUnaryChecked items.length items
  let items ← joinTiersChecked Tier.all items
  .of (single span items)

/-! ## Items between two parts of a list -/

variable {α : Type} {sort? : Item → Option α} {item : Item} {x : α}

theorem takeAs?_between (before behind : List Item) (h : sort? item = some x) :
    takeAs? sort? (before ++ item :: behind) before.length = some (x, before ++ behind) := by
  simp only [takeAs?, Checked.getElem?_between, Option.bind_eq_bind, Option.bind_some, h,
    Checked.eraseIdx_between]

theorem takeAs?_node (before behind : List Item) (n : Node) :
    takeAs? Item.node? (before ++ .node n :: behind) before.length = some (n, before ++ behind) :=
  takeAs?_between before behind rfl

theorem takeAs?_operator (before behind : List Item) (token : Token) :
    takeAs? Item.operator? (before ++ .operator token :: behind) before.length =
      some (token, before ++ behind) :=
  takeAs?_between before behind rfl

/-- Nothing is taken from the front of what does not start with an item of the sort. -/
theorem takeAs?_eq_none (before : List Item) {behind : List Item}
    (h : ∀ item ∈ behind.head?, sort? item = none) :
    takeAs? sort? (before ++ behind) before.length = none := by
  rw [takeAs?, List.getElem?_append_right (Nat.le_refl _), Nat.sub_self]
  cases behind with
  | nil => rfl
  | cons item behind =>
    simp only [List.getElem?_cons_zero, Option.bind_eq_bind, Option.bind_some, h item rfl,
      Option.bind_none]

/-- Behind an item stands what is behind the items up to it. -/
theorem takeAs?_succ (before behind : List Item) (item : Item) :
    takeAs? sort? (before ++ item :: behind) (before.length + 1) =
      takeAs? sort? ((before ++ [item]) ++ behind) (before ++ [item]).length := by
  rw [List.append_assoc, List.singleton_append, List.length_append, List.length_singleton]

/-! ## From right to left -/

/-- Puts an item in front of a row in which every `not` is joined. -/
def joinFront (item : Item) (items : List Item) : Except ParseError (List Item) :=
  match item with
  | .operator token =>
    if token.kind = .unary then
      match UnaryOp.ofSymbol? token.value with
      | none => .error (.unknownOperator token.value token.span)
      | some op =>
        match items with
        | .node n :: rest => .ok (.node (.unary op n token) :: rest)
        | _ => .error (.misshapen .missingOperand token.span)
    else .ok (item :: items)
  | .node _ => .ok (item :: items)

/-- Puts items in front of a row, the last one first. -/
def joinFronts (items : List Item) (joined : Except ParseError (List Item)) :
    Except ParseError (List Item) :=
  items.foldr (fun item joined => joined >>= joinFront item) joined

theorem joinUnary_eq (items : List Item) : joinUnary items = joinFronts items (.ok []) := by
  induction items with
  | nil => rfl
  | cons item items ih =>
    change joinUnary items >>= joinFront item = joinFronts items (.ok []) >>= joinFront item
    rw [ih]

theorem joinFronts_error (items : List Item) (e : ParseError) :
    joinFronts items (.error e) = .error e := by
  induction items with
  | nil => rfl
  | cons item items ih =>
    change joinFronts items (.error e) >>= joinFront item = _
    rw [ih]
    rfl

theorem joinFronts_concat (items : List Item) (item : Item) (joined : List Item) :
    joinFronts (items ++ [item]) (.ok joined) = joinFronts items (joinFront item joined) := by
  rw [joinFronts, List.foldr_append]
  rfl

/-- With an index in front of a row in which every `not` is joined, the pass goes on as it does from
item to item. -/
theorem joinUnaryChecked_append (items joined : List Item) :
    joinUnaryChecked items.length (items ++ joined) = .of (joinFronts items (.ok joined)) := by
  induction items using List.reverseRecOn generalizing joined with
  | nil => rfl
  | append_singleton items item ih =>
    rw [joinFronts_concat, List.length_append, List.length_singleton, joinUnaryChecked,
      List.append_assoc, List.singleton_append, Checked.getElem?_between, Checked.need_some_bind]
    cases item with
    | node n => exact ih _
    | operator token =>
      simp only [joinFront]
      split_ifs with hk
      · cases hop : UnaryOp.ofSymbol? token.value with
        | none => exact congrArg Checked.of (joinFronts_error _ _).symm
        | some op =>
          dsimp only
          rw [takeAs?_succ]
          cases joined with
          | nil =>
            rw [takeAs?_eq_none _ (by simp)]
            exact congrArg Checked.of (joinFronts_error _ _).symm
          | cons item joined =>
            cases item with
            | operator other =>
              rw [takeAs?_eq_none _ (by simp [Item.node?])]
              exact congrArg Checked.of (joinFronts_error _ _).symm
            | node n =>
              rw [takeAs?_node]
              dsimp only
              rw [List.append_assoc, List.singleton_append, takeAs?_operator]
              dsimp only
              rw [Checked.insert?_append, Checked.need_some_bind]
              exact ih _
      · exact ih _

theorem joinUnaryChecked_eq (items : List Item) :
    joinUnaryChecked items.length items = .of (joinUnary items) := by
  have hall := joinUnaryChecked_append items []
  rwa [List.append_nil, ← joinUnary_eq] at hall

/-! ## From left to right -/

theorem reverse_cons_append (left items : List Item) (item : Item) :
    (item :: left).reverse ++ items = left.reverse ++ item :: items := by
  rw [List.reverse_cons, List.append_assoc, List.singleton_append]

theorem getElem?_reverse_append (left items : List Item) (item : Item) :
    (left.reverse ++ item :: items)[left.length]? = some item := by
  rw [← List.length_reverse, Checked.getElem?_between]

/-- The pass at an item behind those that were passed. -/
theorem joinBinaryChecked_cons (tier : Tier) (left items : List Item) (item : Item) :
    joinBinaryChecked tier left.length (left.reverse ++ item :: items) =
      match item with
      | .operator token =>
        if token.kind = .binary then
          match BinaryOp.ofSymbol? token.value with
          | none => .of (.error (.unknownOperator token.value token.span))
          | some op =>
            if op.tier = tier then do
              if ← Checked.need (hasOperands? (left.reverse ++ item :: items) left.length) then
                let joined ← Checked.need (joinAt? op (left.reverse ++ item :: items) left.length)
                joinBinaryChecked tier left.length joined
              else .of (.error (.misshapen (.missingOperands op) token.span))
            else joinBinaryChecked tier (item :: left).length ((item :: left).reverse ++ items)
        else joinBinaryChecked tier (item :: left).length ((item :: left).reverse ++ items)
      | .node _ => joinBinaryChecked tier (item :: left).length ((item :: left).reverse ++ items) := by
  have hindex : left.length < (left.reverse ++ item :: items).length := by
    rw [List.length_append, List.length_reverse, List.length_cons]
    omega
  rw [joinBinaryChecked, dif_pos hindex, getElem?_reverse_append, Checked.need_some_bind,
    List.length_cons, reverse_cons_append]
  cases item with
  | node n => rfl
  | operator token =>
    dsimp only
    split_ifs with hk
    · cases BinaryOp.ofSymbol? token.value with
      | none => rfl
      | some op =>
        dsimp only
        split_ifs with htier
        · -- only here the two differ: the pass also remembers that the list has shrunk
          refine congrArg _ (funext fun operands => ?_)
          split_ifs with hoperands
          · split
            · rename_i hjoin
              rw [hjoin]
              rfl
            · rename_i hjoin
              rw [hjoin]
              rfl
          · rfl
        · rfl
    · rfl

theorem getElem?_behind (left items : List Item) (item : Item) :
    (left.reverse ++ item :: items)[left.length + 1]? = items.head? := by
  rw [← reverse_cons_append, ← List.length_cons (a := item), ← List.length_reverse,
    List.getElem?_append_right (Nat.le_refl _), Nat.sub_self, List.head?_eq_getElem?]

/-- There are operands just between two nodes. -/
theorem hasOperands?_append (left items : List Item) (item : Item) :
    hasOperands? (left.reverse ++ item :: items) left.length =
      some ((left.head?.bind Item.node?).isSome && (items.head?.bind Item.node?).isSome) := by
  cases left with
  | nil => rfl
  | cons before left =>
    have hfront : ((before :: left).reverse ++ item :: items)[left.length]? = some before := by
      rw [reverse_cons_append, getElem?_reverse_append]
    have hminus : Checked.minus? (before :: left).length 1 = some left.length :=
      Checked.minus?_add left.length 1
    rw [hasOperands?, if_neg (by simp), hminus, getElem?_behind]
    simp only [Option.bind_eq_bind, Option.bind_some, hfront]
    rfl

/-- An operator between two nodes becomes one node with them. -/
theorem joinAt?_between (op : BinaryOp) (left items : List Item) (l r : Node) (token : Token) :
    joinAt? op ((.node l :: left).reverse ++ .operator token :: .node r :: items)
      (Item.node l :: left).length =
        some ((.node (.binary op l r token) :: left).reverse ++ items) := by
  have hright : takeAs? Item.node? ((.node l :: left).reverse ++ .operator token :: .node r :: items)
      ((Item.node l :: left).length + 1) =
        some (r, (.node l :: left).reverse ++ .operator token :: items) := by
    rw [← List.length_reverse, takeAs?_succ, takeAs?_node, List.append_assoc,
      List.singleton_append]
  have hmiddle : takeAs? Item.operator? ((.node l :: left).reverse ++ .operator token :: items)
      (Item.node l :: left).length = some (token, (.node l :: left).reverse ++ items) := by
    have htake := takeAs?_operator (Item.node l :: left).reverse items token
    rwa [List.length_reverse] at htake
  have hminus : Checked.minus? (Item.node l :: left).length 1 = some left.length :=
    Checked.minus?_add left.length 1
  have hleft : takeAs? Item.node? ((.node l :: left).reverse ++ items) left.length =
      some (l, left.reverse ++ items) := by
    have htake := takeAs?_node left.reverse items l
    rwa [List.length_reverse, ← reverse_cons_append] at htake
  have hinsert : Checked.insert? (left.reverse ++ items) left.length
      (.node (.binary op l r token)) =
        some ((.node (.binary op l r token) :: left).reverse ++ items) := by
    have hput := Checked.insert?_append left.reverse items (Item.node (.binary op l r token))
    rwa [List.length_reverse, ← reverse_cons_append] at hput
  simp only [joinAt?, Option.bind_eq_bind, hright, hmiddle, hminus, hleft, Option.bind_some,
    hinsert]

/-- With an index behind the items that were passed, the pass goes on as it does from item to
item. -/
theorem joinBinaryChecked_append (tier : Tier) (left items : List Item) :
    joinBinaryChecked tier left.length (left.reverse ++ items) =
      .of (joinBinary tier left items) := by
  fun_induction joinBinary tier left items with
  | case1 left => rw [joinBinaryChecked, dif_neg (by simp), List.append_nil]
  | case2 left n items ih =>
    rw [joinBinaryChecked_cons]
    exact ih
  | case3 left token items hk hop =>
    rw [joinBinaryChecked_cons]
    dsimp only
    rw [if_pos hk, hop]
  | case4 token hk op hop htier l left r items ih =>
    rw [joinBinaryChecked_cons]
    dsimp only
    rw [if_pos hk, hop]
    dsimp only
    rw [if_pos htier, hasOperands?_append, joinAt?_between]
    exact ih
  | case5 left token items hk op hop htier hsides =>
    have hnone : ((left.head?.bind Item.node?).isSome && (items.head?.bind Item.node?).isSome) =
        false := by
      rw [Bool.and_eq_false_iff]
      cases left with
      | nil => exact .inl rfl
      | cons before left =>
        cases items with
        | nil => exact .inr rfl
        | cons behind items =>
          cases before with
          | operator _ => exact .inl rfl
          | node l =>
            cases behind with
            | operator _ => exact .inr rfl
            | node r => exact absurd (hsides l left r items rfl rfl) not_false
    rw [joinBinaryChecked_cons]
    dsimp only
    rw [if_pos hk, hop]
    dsimp only
    rw [if_pos htier, hasOperands?_append, hnone]
    rfl
  | case6 left token items hk op hop htier ih =>
    rw [joinBinaryChecked_cons]
    dsimp only
    rw [if_pos hk, hop]
    dsimp only
    rw [if_neg htier]
    exact ih
  | case7 left token items hk ih =>
    rw [joinBinaryChecked_cons]
    dsimp only
    rw [if_neg hk]
    exact ih

/-! ## The whole group -/

theorem joinTiersChecked_eq (tiers : List Tier) (items : List Item) :
    joinTiersChecked tiers items = .of (joinTiers tiers items) := by
  induction tiers generalizing items with
  | nil => rfl
  | cons tier tiers ih =>
    have hpass := joinBinaryChecked_append tier [] items
    rw [List.reverse_nil, List.nil_append, List.length_nil] at hpass
    rw [joinTiersChecked, hpass, joinTiers]
    exact Checked.of_bind ih

/-- **No operation on the items of a group fails**, and what they come to is its node. -/
theorem reduceChecked_eq (span : Span) (items : List Item) :
    reduceChecked span items = .of (reduce span items) := by
  rw [reduceChecked, joinUnaryChecked_eq, reduce]
  refine Checked.of_bind fun items' => ?_
  rw [joinTiersChecked_eq]
  exact Checked.of_bind fun _ => rfl

end RecordQuery

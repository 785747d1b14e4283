import RecordQuery.Proofs.Broadcasting.Quantifiers
import RecordQuery.Proofs.Grammar.Placing

/-!
# Results of trees at other places

A tree keeps the tokens that it was built from, and they are the places of its errors.  A tree with
other places comes to the same result, except for what its errors tell: it fails where the first one
fails, and all values are the same.

* `AlikeBy.refl`, `AlikeBy.bind` — computations that fail alike;
* `Evaluated.Alike.view`, `Evaluated.Alike.toValue` — alike results look alike and have one value;
* `alike_negate`, `alike_broadcast`, `alike_applyMethod` — **operations make alike results of alike
  results**, whatever their tokens;
* `alike_eval` — **trees that differ in their places only come to alike results**.
-/

namespace RecordQuery

open Evaluated

variable {x y x' y' : Evaluated} {items items' : List ResultItem} {item item' : ResultItem}
  {t t' : Token} {v : Value}

/-- The items are alike: equal, or failed both. -/
abbrev AlikeItems : List ResultItem → List ResultItem → Prop := List.Forall₂ (AlikeBy Eq)

/-! ## Computations that fail alike -/

section AlikeBy

variable {α β : Type} {R : α → α → Prop} {Q : β → β → Prop} {r r' : Except EvalError α}

theorem AlikeBy.refl (h : ∀ a, R a a) (r : Except EvalError α) : AlikeBy R r r := by
  cases r with
  | error e => exact .failed
  | ok a => exact .came (h a)

theorem AlikeBy.self (r : Except EvalError α) : AlikeBy Eq r r := .refl (fun _ => rfl) r

/-- What comes behind a computation fails alike where the computation does. -/
theorem AlikeBy.bind {f f' : α → Except EvalError β} (h : AlikeBy R r r')
    (hf : ∀ a a', R a a' → AlikeBy Q (f a) (f' a')) : AlikeBy Q (r >>= f) (r' >>= f') := by
  cases h with
  | failed => exact .failed
  | came ha => exact hf _ _ ha

theorem AlikeBy.bind_eq {f f' : α → Except EvalError β} (h : AlikeBy Eq r r')
    (hf : ∀ a, AlikeBy Q (f a) (f' a)) : AlikeBy Q (r >>= f) (r' >>= f') := by
  refine h.bind fun a a' ha => ?_
  subst ha
  exact hf a

theorem AlikeBy.map {f : α → β} {f' : α → β} (h : AlikeBy R r r')
    (hf : ∀ a a', R a a' → Q (f a) (f' a')) : AlikeBy Q (r.map f) (r'.map f') := by
  cases h with
  | failed => exact .failed
  | came ha => exact .came (hf _ _ ha)

end AlikeBy

theorem alikeItems_refl (items : List ResultItem) : AlikeItems items items :=
  List.forall₂_same.2 fun item _ => .self item

theorem Evaluated.Alike.refl (x : Evaluated) : x.Alike x := by
  cases x with
  | value v => exact .value
  | sequence items => exact .sequence (alikeItems_refl items)

theorem alikeItems_map {f f' : ResultItem → ResultItem}
    (hf : ∀ item item', AlikeBy Eq item item' → AlikeBy Eq (f item) (f' item'))
    (h : AlikeItems items items') : AlikeItems (items.map f) (items'.map f') := List.rel_map hf h

/-! ## Uses of results -/

/-- Alike results are one scalar, or have alike items. -/
theorem Evaluated.Alike.view (h : x.Alike x') :
    (∃ v, x = .value v ∧ x' = .value v ∧ x.view = .scalar v ∧ x'.view = .scalar v) ∨
      ∃ items items', x.view = .items items ∧ x'.view = .items items' ∧
        AlikeItems items items' := by
  cases h with
  | @value v =>
    cases hview : (Evaluated.value v).view with
    | items items => exact .inr ⟨items, items, rfl, rfl, alikeItems_refl items⟩
    | scalar w =>
      cases v <;> cases hview
      all_goals exact .inl ⟨_, rfl, rfl, rfl, rfl⟩
  | sequence hitems => exact .inr ⟨_, _, rfl, rfl, hitems⟩

theorem alike_valuesOf (h : AlikeItems items items') :
    AlikeBy Eq (valuesOf items) (valuesOf items') := by
  induction h with
  | nil => exact .self _
  | cons hitem _ ih =>
    cases hitem with
    | failed => exact .failed
    | came heq =>
      subst heq
      rw [valuesOf, valuesOf]
      exact (AlikeBy.self _).bind_eq fun v => ih.bind_eq fun vs => .self _

/-- Alike results have one value, or none of them has. -/
theorem Evaluated.Alike.toValue (h : x.Alike x') : AlikeBy Eq x.toValue x'.toValue := by
  cases h with
  | value => exact .self _
  | sequence hitems =>
    rw [Evaluated.toValue, Evaluated.toValue]
    exact (alike_valuesOf hitems).map fun _ _ hvs => congrArg Value.array hvs

theorem alike_someMatch (h : AlikeItems items items') :
    AlikeBy Eq (someMatch items) (someMatch items') := by
  induction h with
  | nil => exact .self _
  | cons hitem _ ih =>
    cases hitem with
    | failed => exact .failed
    | came heq =>
      subst heq
      rw [someMatch, someMatch]
      refine (AlikeBy.self _).bind_eq fun b => ?_
      cases b
      · exact ih
      · exact .self _

/-- Alike results match, or do not, or failed to tell. -/
theorem Evaluated.Alike.isMatch (h : x.Alike x') : AlikeBy Eq x.isMatch x'.isMatch := by
  cases h with
  | value => exact .self _
  | sequence hitems =>
    rw [Evaluated.isMatch, Evaluated.isMatch]
    exact alike_someMatch hitems

/-! ## Operators -/

theorem alike_negateItem (h : AlikeBy Eq item item') :
    AlikeBy Eq (negateItem item) (negateItem item') := h.bind_eq fun _ => .self _

theorem alike_negate (h : x.Alike x') : (negate x).Alike (negate x') := by
  rcases h.view with ⟨v, _, _, hx, hx'⟩ | ⟨items, items', hx, hx', hitems⟩
  · rw [negate, negate, hx, hx']
    exact .value
  · rw [negate, negate, hx, hx']
    exact .sequence (alikeItems_map (fun _ _ => alike_negateItem) hitems)

/-- Values that an operator does not fit, it fits at no place. -/
theorem alike_applyBinary (t t' : Token) (op : BinaryOp) (a b : Value) :
    AlikeBy Eq (applyBinary t op a b) (applyBinary t' op a b) := by
  unfold applyBinary
  cases op
  case less | greater | lessEqual | greaterEqual =>
    dsimp only
    cases a.compare? b with
    | none => exact .failed
    | some order => exact .self _
  all_goals exact .self _

theorem alikeItems_applyToItem {s : Option Bool} {apply apply' : Value → Except EvalError Bool}
    (happly : ∀ v, AlikeBy Eq (apply v) (apply' v)) (h : AlikeItems items items') :
    AlikeItems (items.map (applyToItem s apply)) (items'.map (applyToItem s apply')) := by
  refine alikeItems_map (fun item item' hitem => ?_) h
  cases hitem with
  | failed => exact .failed
  | came heq =>
    subst heq
    exact alike_applyToItem happly _

theorem alike_broadcast (t t' : Token) (op : BinaryOp) (hx : x.Alike x') (hy : y.Alike y') :
    AlikeBy Evaluated.Alike (broadcast t op x y) (broadcast t' op x' y') := by
  have happly := alike_applyBinary t t' op
  unfold broadcast
  rcases hx.view with ⟨a, _, _, hl, hl'⟩ | ⟨xs, xs', hl, hl', hxs⟩
  · rcases hy.view with ⟨b, _, _, hr, hr'⟩ | ⟨ys, ys', hr, hr', hys⟩
    · rw [hl, hl', hr, hr']
      exact (happly a b).map_ofBool fun _ => .value
    · rw [hl, hl', hr, hr']
      exact .came (.sequence (alikeItems_applyToItem (happly a) hys))
  · rcases hy.view with ⟨b, _, _, hr, hr'⟩ | ⟨ys, ys', hr, hr', hys⟩
    · rw [hl, hl', hr, hr']
      exact .came (.sequence (alikeItems_applyToItem (fun a => happly a b) hxs))
    · rw [hl, hl', hr, hr']
      refine (alike_valuesOf hxs).bind_eq fun as => (alike_valuesOf hys).bind_eq fun bs => ?_
      refine .came (.sequence ?_)
      rw [applyToPairs_eq_map, applyToPairs_eq_map]
      exact forall₂_alike_map (fun pair : Value × Value =>
        (happly pair.1 pair.2).map_ofBool fun _ => rfl) _

/-! ## Methods -/

theorem alike_applyToTexts (t t' : Token) (method : Method) (apply : String → Value)
    (h : x.Alike x') :
    AlikeBy Evaluated.Alike (applyToTexts t method apply x) (applyToTexts t' method apply x') := by
  unfold applyToTexts
  rcases h.view with ⟨v, _, _, hx, hx'⟩ | ⟨items, items', hx, hx', hitems⟩
  · rw [hx, hx']
    cases v
    case text s => exact .came .value
    all_goals exact .failed
  · rw [hx, hx']
    refine .came (.sequence (alikeItems_map (fun item item' hitem => ?_) hitems))
    refine hitem.bind_eq fun y => (AlikeBy.self y.toValue).bind_eq fun v => ?_
    cases v
    case text s => exact .self _
    all_goals exact .failed

theorem alike_countItems (h : AlikeItems items items') :
    AlikeBy Eq (countItems items) (countItems items') := by
  induction h with
  | nil => exact .self _
  | cons hitem _ ih => exact hitem.bind_eq fun _ => ih.bind_eq fun _ => .self _

theorem alike_size (h : x.Alike x') : AlikeBy Eq (size x) (size x') := by
  cases h with
  | value => exact .self _
  | sequence hitems => exact alike_countItems hitems

theorem alike_scanItems (passing : Bool) (h : AlikeItems items items') :
    AlikeBy Eq (scanItems passing items) (scanItems passing items') := by
  induction h with
  | nil => exact .self _
  | cons hitem _ ih =>
    rw [scanItems, scanItems]
    refine (hitem.bind_eq fun y => .self y.isTruthy).bind_eq fun answer => ?_
    split
    · exact ih
    · exact .self _

theorem alike_anyOf (t t' : Token) (h : x.Alike x') : AlikeBy Eq (anyOf t x) (anyOf t' x') := by
  unfold anyOf
  rcases h.view with ⟨v, _, _, hx, hx'⟩ | ⟨items, items', hx, hx', hitems⟩
  · rw [hx, hx']
    cases v
    case text s => exact .self _
    all_goals exact .failed
  · rw [hx, hx']
    dsimp only
    rw [anyTruthy_eq_scanItems, anyTruthy_eq_scanItems]
    exact alike_scanItems false hitems

theorem alike_allOf (t t' : Token) (h : x.Alike x') : AlikeBy Eq (allOf t x) (allOf t' x') := by
  unfold allOf
  rcases h.view with ⟨v, _, _, hx, hx'⟩ | ⟨items, items', hx, hx', hitems⟩
  · rw [hx, hx']
    cases v
    case text s => exact .self _
    all_goals exact .failed
  · rw [hx, hx']
    dsimp only
    rw [allTruthy_eq_scanItems, allTruthy_eq_scanItems]
    exact alike_scanItems true hitems

theorem alikeItems_flattenItem (t t' : Token) (h : AlikeBy Eq item item') :
    AlikeItems (flattenItem t item) (flattenItem t' item') := by
  cases h with
  | failed => exact .cons .failed .nil
  | @came y _ heq =>
    subst heq
    rw [flattenItem, flattenItem]
    cases y.view with
    | items inner => exact alikeItems_refl inner
    | scalar v => exact .cons .failed .nil

theorem alike_flatten (t t' : Token) (h : x.Alike x') :
    AlikeBy Evaluated.Alike (flatten t x) (flatten t' x') := by
  unfold flatten
  rcases h.view with ⟨v, _, _, hx, hx'⟩ | ⟨items, items', hx, hx', hitems⟩
  · rw [hx, hx']
    exact .failed
  · rw [hx, hx']
    have hflattened := List.rel_flatMap hitems fun _ _ => alikeItems_flattenItem t t'
    exact .came (.sequence hflattened)

/-! ## Searches -/

theorem alike_textsOf (t t' : Token) (items : List ResultItem) :
    AlikeBy Eq (textsOf t items) (textsOf t' items) := by
  induction items with
  | nil => exact .self _
  | cons item rest ih =>
    rw [textsOf, textsOf]
    refine (AlikeBy.self item).bind_eq fun y => (AlikeBy.self y.toValue).bind_eq fun v => ?_
    cases v
    case text s => exact ih.bind_eq fun _ => .self _
    all_goals exact .failed

theorem alike_searchIn (t t' : Token) (pattern : Pattern) (x : Evaluated) :
    AlikeBy Eq (searchIn t pattern x) (searchIn t' pattern x) := by
  unfold searchIn
  cases x.view with
  | scalar v =>
    cases v
    case text s => exact .self _
    case null => exact .self _
    all_goals exact .failed
  | items items => exact (alike_textsOf t t' items).bind_eq fun _ => .self _

/-! ## Trees -/

/-- Two runs came to alike results, printed one value, or failed both. -/
inductive AlikeRun : Except Interrupt Evaluated → Except Interrupt Evaluated → Prop
  | came {x x' : Evaluated} (h : x.Alike x') : AlikeRun (.ok x) (.ok x')
  | print (v : Value) : AlikeRun (.error (.print v)) (.error (.print v))
  | failed (e e' : EvalError) : AlikeRun (.error (.failure e)) (.error (.failure e'))

variable {run run' : Except Interrupt Evaluated} {tree tree' : Node} {record : Value}

theorem AlikeRun.bind {f f' : Evaluated → Except Interrupt Evaluated} (h : AlikeRun run run')
    (hf : ∀ x x', x.Alike x' → AlikeRun (f x) (f' x')) : AlikeRun (run >>= f) (run' >>= f') := by
  cases h with
  | came hx => exact hf _ _ hx
  | print v => exact .print v
  | failed e e' => exact .failed e e'

theorem AlikeBy.interrupt {r r' : Except EvalError Evaluated} (h : AlikeBy Evaluated.Alike r r') :
    AlikeRun (orInterrupt r) (orInterrupt r') := by
  cases h with
  | failed => exact .failed _ _
  | came hx => exact .came hx

/-- An answer as a result, or its failure. -/
theorem AlikeBy.interrupt_map {α : Type} {r r' : Except EvalError α} (h : AlikeBy Eq r r')
    (f : α → Evaluated) : AlikeRun (orInterrupt (r.map f)) (orInterrupt (r'.map f)) := by
  refine AlikeBy.interrupt (h.map fun a a' heq => ?_)
  subst heq
  exact .refl _

/-- **Methods make alike results of alike results**, at whatever place. -/
theorem alike_applyMethod (t t' : Token) (method : Method) (h : x.Alike x') :
    AlikeRun (applyMethod t method x) (applyMethod t' method x') := by
  cases method <;> rw [applyMethod, applyMethod]
  case len =>
    have hsize := (alike_size h).bind_eq fun n => AlikeBy.self (.ok (n : ℤ))
    exact hsize.interrupt_map _
  case split => exact (alike_applyToTexts t t' .split splitWords h).interrupt
  case lower => exact (alike_applyToTexts t t' .lower lowerText h).interrupt
  case upper => exact (alike_applyToTexts t t' .upper upperText h).interrupt
  case any => exact (alike_anyOf t t' h).interrupt_map _
  case all => exact (alike_allOf t t' h).interrupt_map _
  case reduce => exact (alike_flatten t t' h).interrupt
  case print =>
    have hvalue := h.toValue
    generalize x.toValue = r at hvalue ⊢
    generalize x'.toValue = r' at hvalue ⊢
    cases hvalue with
    | failed => exact .failed _ _
    | came heq =>
      subst heq
      exact .print _

/-- **Trees that differ in their places only come to alike results**, print the same, or fail. -/
theorem alike_eval (h : tree.detached = tree'.detached) (record : Value) :
    AlikeRun (tree.eval record) (tree'.eval record) := by
  induction tree generalizing tree' with
  | operand leaf token =>
    cases tree' with
    | operand leaf' token' =>
      obtain ⟨rfl, _⟩ := Node.operand.inj h
      exact .came (.refl _)
    | _ => cases h
  | method m argument token ih =>
    cases tree' with
    | method m' argument' token' =>
      obtain ⟨rfl, hargument, _⟩ := Node.method.inj h
      exact (ih hargument).bind fun _ _ hx => alike_applyMethod token token' m hx
    | _ => cases h
  | unary op inner token ih =>
    cases tree' with
    | unary op' inner' token' =>
      obtain ⟨rfl, hinner, _⟩ := Node.unary.inj h
      cases op
      exact (ih hinner).bind fun _ _ hx => .came (alike_negate hx)
    | _ => cases h
  | binary op left right token ihl ihr =>
    cases tree' with
    | binary op' left' right' token' =>
      obtain ⟨rfl, hleft, hright, _⟩ := Node.binary.inj h
      refine (ihl hleft).bind fun x x' hx => (ihr hright).bind fun y y' hy => ?_
      exact (alike_broadcast token token' op hx hy).interrupt
    | _ => cases h
  | keyword k pattern field token =>
    cases tree' with
    | keyword k' pattern' field' token' =>
      obtain ⟨rfl, rfl, rfl, _⟩ := Node.keyword.inj h
      cases k
      exact (alike_searchIn token token' pattern _).interrupt_map _
    | _ => cases h

/-- So they come to alike outcomes. -/
theorem alike_compute (h : tree.detached = tree'.detached) (record : Value) :
    (tree.compute record).Alike (tree'.compute record) := by
  have hrun := alike_eval h record
  rw [Node.compute, Node.compute]
  generalize tree.eval record = run at hrun ⊢
  generalize tree'.eval record = run' at hrun ⊢
  cases hrun with
  | came hx => exact .value hx
  | print v => exact .print
  | failed e e' => exact .failure

end RecordQuery

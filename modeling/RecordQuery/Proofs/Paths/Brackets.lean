import Mathlib.Data.Nat.Notation
import Mathlib.Tactic.SplitIfs
import RecordQuery.Path.Parse

/-!
# Keys in brackets

A key of a path may hold brackets of its own, as long as they match.  Such a key is read whole: the
bracket that ends it is the first one that closes none of its own.

* `Balanced` — the brackets of a text match, and close so many others;
* `balanced_cons_iff` — brackets match if they match behind the first character;
* `Balanced.eq_of_closed` — **a key ends at one bracket only**;
* `parseKey_append` — **inside a key, a text with matching brackets is read as it is**;
* `exists_closing` — the bracket that ends a key, if there is one;
* `keys_induction` — **induction over the keys of a text**, as the reader goes through them.
-/

namespace RecordQuery

/-- The text closes the brackets that it opens and so many others, never one too many. -/
structure Balanced (depth : ℕ) (text : List Char) : Prop where
  before : ∀ before behind, text = before ++ behind →
    before.count ']' ≤ depth + before.count '['
  all : text.count ']' = depth + text.count '['

/-- Keys, each in brackets. -/
def bracketed (keys : List (List Char)) : List Char :=
  keys.flatMap fun key => '[' :: (key ++ [']'])

variable {depth : ℕ} {c : Char} {cs key key' rest rest' : List Char} {keys : List (List Char)}

/-! ## Brackets character by character -/

theorem balanced_nil_iff : Balanced depth [] ↔ depth = 0 := by
  constructor
  · intro h
    simpa using h.all.symm
  · rintro rfl
    refine ⟨?_, rfl⟩
    intro before behind h
    obtain ⟨rfl, rfl⟩ := List.append_eq_nil_iff.1 h.symm
    exact Nat.le_refl _

theorem count_cons_eq_add (c d : Char) (cs : List Char) :
    (c :: cs).count d = cs.count d + if c = d then 1 else 0 := by
  simp [List.count_cons]

/-- **The brackets of a text match if they match behind its first character.** -/
theorem balanced_cons_iff :
    Balanced depth (c :: cs) ↔
      ∃ depth', depth' + (if c = ']' then 1 else 0) = depth + (if c = '[' then 1 else 0) ∧
        Balanced depth' cs := by
  constructor
  · intro h
    have hfirst := h.before [c] cs rfl
    simp only [count_cons_eq_add, List.count_nil, Nat.zero_add] at hfirst
    refine ⟨depth + (if c = '[' then 1 else 0) - (if c = ']' then 1 else 0), by omega, ?_, ?_⟩
    · intro before behind hcs
      have hbefore := h.before (c :: before) behind (by rw [hcs]; rfl)
      simp only [count_cons_eq_add] at hbefore
      omega
    · have hall := h.all
      simp only [count_cons_eq_add] at hall
      omega
  · rintro ⟨depth', hdepth, h⟩
    refine ⟨?_, ?_⟩
    · intro before behind hcs
      cases before with
      | nil => exact Nat.zero_le _
      | cons d before =>
        obtain ⟨rfl, hcs'⟩ := List.cons.inj hcs
        have hbefore := h.before before behind hcs'
        simp only [count_cons_eq_add]
        omega
    · have hall := h.all
      simp only [count_cons_eq_add]
      omega

/-- No text with matching brackets starts with one that closes. -/
theorem not_balanced_close (cs : List Char) : ¬ Balanced 0 (']' :: cs) := by
  intro h
  obtain ⟨depth', hdepth, _⟩ := balanced_cons_iff.1 h
  simp at hdepth

/-- **A key ends at one bracket only.** -/
theorem Balanced.eq_of_closed (h : Balanced depth key) (h' : Balanced depth key')
    (heq : key ++ ']' :: rest = key' ++ ']' :: rest') : key = key' ∧ rest = rest' := by
  induction key generalizing depth key' with
  | nil =>
    obtain rfl := balanced_nil_iff.1 h
    cases key' with
    | nil => exact ⟨rfl, (List.cons.inj heq).2⟩
    | cons c cs =>
      obtain ⟨rfl, _⟩ := List.cons.inj heq
      exact absurd h' (not_balanced_close cs)
  | cons c cs ih =>
    cases key' with
    | nil =>
      obtain rfl := balanced_nil_iff.1 h'
      obtain ⟨rfl, _⟩ := List.cons.inj heq
      exact absurd h (not_balanced_close cs)
    | cons c' cs' =>
      obtain ⟨rfl, htail⟩ := List.cons.inj heq
      obtain ⟨inner, hinner, hcs⟩ := balanced_cons_iff.1 h
      obtain ⟨inner', hinner', hcs'⟩ := balanced_cons_iff.1 h'
      obtain rfl : inner = inner' := by omega
      obtain ⟨rfl, hrest⟩ := ih hcs hcs' htail
      exact ⟨rfl, hrest⟩

theorem bracketed_cons (key : List Char) (keys : List (List Char)) :
    bracketed (key :: keys) = '[' :: (key ++ ']' :: bracketed keys) := by
  simp [bracketed]

/-! ## Reading keys -/

namespace FieldPath

/-- **Inside a key, a text with matching brackets is read as it is.** -/
theorem parseKey_append (h : Balanced depth key) (opened offset : ℕ) (front rest : List Char) :
    parseKey opened offset depth front (key ++ rest) =
      parseKey opened (offset + key.length) 0 (key.reverse ++ front) rest := by
  induction key generalizing depth offset front with
  | nil =>
    obtain rfl := balanced_nil_iff.1 h
    rfl
  | cons c cs ih =>
    obtain ⟨depth', hdepth, hcs⟩ := balanced_cons_iff.1 h
    have hrest := ih hcs (offset + 1) (c :: front)
    rw [List.cons_append, List.length_cons, List.reverse_cons, List.append_assoc,
      Nat.add_comm cs.length, ← Nat.add_assoc, List.singleton_append, ← hrest, parseKey.eq_def]
    dsimp only
    split_ifs with hopen hclose
    · subst hopen
      obtain rfl : depth' = depth + 1 := hdepth
      rfl
    · subst hclose
      obtain rfl : depth = depth' + 1 := hdepth.symm
      rfl
    · obtain rfl : depth' = depth := by simpa [hopen, hclose] using hdepth
      rfl

/-- Inside a key, no bracket closes it: the reader comes to the end of the text. -/
def Unclosed (depth : ℕ) (cs : List Char) : Prop :=
  ∀ opened offset key, parseKey opened offset depth key cs =
    .error ⟨.neverClosed, opened, offset + cs.length - opened⟩

theorem Unclosed.cons {depth' : ℕ} {c : Char} {cs : List Char} (h : Unclosed depth' cs)
    (hkey : ∀ opened offset key, parseKey opened offset depth key (c :: cs) =
      parseKey opened (offset + 1) depth' (c :: key) cs) : Unclosed depth (c :: cs) := by
  intro opened offset key
  rw [hkey, h, List.length_cons, Nat.add_right_comm, Nat.add_assoc]

/-- **Inside a key, the text in front of some bracket is the rest of the key**, or no bracket closes
it. -/
theorem exists_closing (depth : ℕ) (cs : List Char) :
    (∃ inside behind, cs = inside ++ ']' :: behind ∧ Balanced depth inside) ∨
      Unclosed depth cs := by
  have hcons : ∀ {depth depth' : ℕ} {c : Char} {cs : List Char},
      depth' + (if c = ']' then 1 else 0) = depth + (if c = '[' then 1 else 0) →
      (∃ inside behind, cs = inside ++ ']' :: behind ∧ Balanced depth' inside) →
        ∃ inside behind, c :: cs = inside ++ ']' :: behind ∧ Balanced depth inside := by
    rintro depth depth' c _ hdepth ⟨inside, behind, rfl, hinside⟩
    exact ⟨c :: inside, behind, rfl, balanced_cons_iff.2 ⟨depth', hdepth, hinside⟩⟩
  induction cs generalizing depth with
  | nil => exact .inr fun _ _ _ => rfl
  | cons c cs ih =>
    by_cases hopen : c = '['
    · subst hopen
      refine (ih (depth + 1)).imp (hcons rfl) fun h => h.cons fun opened offset key => ?_
      rw [parseKey.eq_def]
      rfl
    · by_cases hclose : c = ']'
      · subst hclose
        cases depth with
        | zero => exact .inl ⟨[], cs, rfl, balanced_nil_iff.2 rfl⟩
        | succ depth =>
          refine (ih depth).imp (hcons rfl) fun h => h.cons fun opened offset key => ?_
          rw [parseKey.eq_def]
          rfl
      · refine (ih depth).imp (hcons ?_) fun h => h.cons fun opened offset key => ?_
        · rw [if_neg hopen, if_neg hclose]
        · rw [parseKey.eq_def]
          dsimp only
          rw [if_neg hopen, if_neg hclose]

/-- A key with matching brackets is read up to the bracket behind it. -/
theorem parseKeys_closed (h : Balanced 0 key) (offset : ℕ) (rest : List Char) :
    parseKeys offset ('[' :: (key ++ ']' :: rest)) = (do
      let segment ← Segment.parse key (offset + 1)
      let others ← parseKeys (offset + 1 + key.length + 1) rest
      .ok (segment :: others)) := by
  rw [parseKeys, if_pos rfl, parseKey_append h, parseKey, if_neg (by decide), if_pos rfl,
    List.append_nil, List.reverse_reverse]

theorem parseKeys_unclosed {cs : List Char} (h : Unclosed 0 cs) (offset : ℕ) :
    parseKeys offset ('[' :: cs) =
      .error ⟨.neverClosed, offset, offset + 1 + cs.length - offset⟩ := by
  rw [parseKeys, if_pos rfl, h]

/-- Between two keys there is no bracket that opens one: nothing but blanks may follow. -/
theorem parseKeys_bare {cs : List Char} (h : cs.head? ≠ some '[') (offset : ℕ) :
    parseKeys offset cs =
      if cs.all Text.isBlank then .ok [] else .error ⟨.trailing, offset, cs.length⟩ := by
  cases cs with
  | nil => rfl
  | cons c cs =>
    have hopen : c ≠ '[' := fun heq => h (congrArg some heq)
    rw [parseKeys, if_neg hopen]
    rfl

/-- **A text from between two keys** does not open a key, or opens one that is closed further on, or
one that is not. -/
@[elab_as_elim]
theorem keys_induction {motive : List Char → Prop}
    (bare : ∀ cs, cs.head? ≠ some '[' → motive cs)
    (closed : ∀ key rest, Balanced 0 key → motive rest → motive ('[' :: (key ++ ']' :: rest)))
    (unclosed : ∀ cs, Unclosed 0 cs → motive ('[' :: cs)) (cs : List Char) : motive cs := by
  induction hlength : cs.length using Nat.strongRecOn generalizing cs with
  | ind n ih =>
    subst hlength
    by_cases hopen : cs.head? = some '['
    · obtain ⟨cs, rfl⟩ := List.head?_eq_some_iff.1 hopen
      rcases exists_closing 0 cs with ⟨key, rest, rfl, hkey⟩ | hunclosed
      · have hshorter : rest.length < ('[' :: (key ++ ']' :: rest)).length := by
          simp only [List.length_cons, List.length_append]
          omega
        exact closed key rest hkey (ih _ hshorter rest rfl)
      · exact unclosed cs hunclosed
    · exact bare cs hopen

end FieldPath

end RecordQuery

import RecordQuery.Proofs.Grammar.Derivation
import RecordQuery.Proofs.Lexing.Nesting

/-!
# How deep an expression stands

A derivation knows how many parentheses are open around it, and only for the limit: the same
tokens have the same tree at every depth at which the limit is kept.

* `OpensAtMost` — no beginning of the row leaves more parentheses open than the limit;
* `Derives.balanced`, `Derives.opensAtMost` — an expression closes what it opens, and keeps the
  limit where it stands;
* `Derives.at_depth` — **an expression has its tree at every depth at which it keeps the limit**.
-/

namespace RecordQuery

/-- No beginning of the row leaves more than `limit` parentheses open, where `opened` are open in
front of the row. -/
def OpensAtMost (limit opened : ℕ) (tokens : List Token) : Prop :=
  ∀ before behind, tokens = before ++ behind →
    opened + countKind .leftParen before ≤ limit + countKind .rightParen before

variable {limit opened opened' : ℕ} {token closer : Token} {tokens xs ys : List Token}
  {level : Level} {n : Node}

/-! ## Rows of tokens -/

theorem countKind_append (kind : TokenKind) (xs ys : List Token) :
    countKind kind (xs ++ ys) = countKind kind xs + countKind kind ys := by
  rw [countKind, List.countP_append]
  rfl

theorem opensAtMost_nil_iff : OpensAtMost limit opened [] ↔ opened ≤ limit := by
  constructor
  · exact fun h => h [] [] rfl
  · intro h before behind hts
    obtain ⟨rfl, _⟩ := List.append_eq_nil_iff.1 hts.symm
    exact h

theorem OpensAtMost.le (h : OpensAtMost limit opened tokens) : opened ≤ limit := h [] tokens rfl

/-- A beginning of a row keeps the limit of the row. -/
theorem OpensAtMost.of_append (h : OpensAtMost limit opened (xs ++ ys)) :
    OpensAtMost limit opened xs := by
  intro before behind hts
  exact h before (behind ++ ys) (by rw [hts, List.append_assoc])

/-- A row with few parentheses keeps the limit in any order. -/
theorem opensAtMost_of_countKind (h : opened + countKind .leftParen tokens ≤ limit) :
    OpensAtMost limit opened tokens := by
  rintro before behind rfl
  rw [countKind_append] at h
  omega

/-- One more open parenthesis raises the limit by one. -/
theorem OpensAtMost.succ (h : OpensAtMost limit opened tokens) :
    OpensAtMost (limit + 1) (opened + 1) tokens := by
  intro before behind hts
  have hcount := h before behind hts
  omega

/-- A token that is no parenthesis changes nothing. -/
theorem opensAtMost_cons_iff (hl : token.kind ≠ .leftParen) (hr : token.kind ≠ .rightParen) :
    OpensAtMost limit opened (token :: tokens) ↔ OpensAtMost limit opened tokens := by
  constructor
  · intro h before behind hts
    have hcount := h (token :: before) behind (by rw [hts]; rfl)
    simpa only [countKind_cons, if_neg hl, if_neg hr, Nat.add_zero] using hcount
  · intro h before behind hts
    cases before with
    | nil => exact h.le
    | cons t before =>
      obtain ⟨rfl, hts'⟩ := List.cons.inj hts
      simp only [countKind_cons, if_neg hl, if_neg hr, Nat.add_zero]
      exact h before behind hts'

/-- A row that closes what it opens changes nothing for the row behind it. -/
theorem opensAtMost_append_iff
    (hxs : countKind .leftParen xs = countKind .rightParen xs) :
    OpensAtMost limit opened (xs ++ ys) ↔
      OpensAtMost limit opened xs ∧ OpensAtMost limit opened ys := by
  constructor
  · intro h
    refine ⟨h.of_append, ?_⟩
    · intro before behind hts
      have hcount := h (xs ++ before) behind (by rw [hts, List.append_assoc])
      simp only [countKind_append] at hcount
      omega
  · rintro ⟨hx, hy⟩ before behind hts
    rcases List.append_eq_append_iff.1 hts with ⟨zs, rfl, hzs⟩ | ⟨zs, hzs, _⟩
    · have hcount := hy zs behind hzs
      simp only [countKind_append]
      omega
    · exact hx before zs hzs

/-- A pair of parentheses stands around a row that keeps the limit one deeper. -/
theorem opensAtMost_enclosed_iff (ho : token.kind = .leftParen) (hc : closer.kind = .rightParen)
    (hxs : countKind .leftParen xs = countKind .rightParen xs) :
    OpensAtMost limit opened (token :: (xs ++ [closer])) ↔
      OpensAtMost limit (opened + 1) xs := by
  constructor
  · intro h before behind hts
    have hcount := h (token :: before) (behind ++ [closer]) (by rw [hts]; simp)
    simp [countKind_cons, ho] at hcount
    omega
  · intro h before behind hts
    have hle := h.le
    cases before with
    | nil => simp; omega
    | cons t before =>
      obtain ⟨rfl, hts'⟩ := List.cons.inj hts
      simp only [countKind_cons, ho, if_true, reduceCtorEq, if_false]
      rcases List.append_eq_append_iff.1 hts' with ⟨zs, rfl, hzs⟩ | ⟨zs, hzs, _⟩
      · have hclose : countKind .leftParen zs = 0 := by
          rw [List.singleton_eq_append_iff] at hzs
          rcases hzs with ⟨rfl, _⟩ | ⟨rfl, _⟩
          · rfl
          · simp [countKind_cons, hc]
        simp only [countKind_append]
        omega
      · have hcount := h before zs hzs
        omega

/-! ## Expressions -/

/-- An expression closes what it opens. -/
theorem Derives.balanced (h : Derives level opened tokens n) :
    countKind .leftParen tokens = countKind .rightParen tokens := by
  induction h with
  | operand hk _ => simp [countKind_cons, hk]
  | search hp _ hw _ hf _ => simp [countKind_cons, hp, hw, hf]
  | call hk _ ho _ _ hc ih => simp [countKind_cons, countKind_append, hk, ho, hc, ih]
  | group ho _ _ hc ih => simp [countKind_cons, countKind_append, ho, hc, ih]
  | atom _ ih => exact ih
  | not hs _ ih => simp [countKind_cons, hs.1, ih]
  | part _ ih => exact ih
  | join _ hj _ ihl ihr => simp [countKind_cons, countKind_append, hj.1, ihl, ihr]

/-- An expression keeps the limit where it stands. -/
theorem Derives.opensAtMost (h : Derives level opened tokens n) (hle : opened ≤ maxOpen) :
    OpensAtMost maxOpen opened tokens := by
  induction h with
  | operand hk _ =>
    rw [opensAtMost_cons_iff (by rw [hk]; decide) (by rw [hk]; decide)]
    exact opensAtMost_nil_iff.2 hle
  | search hp _ hw _ hf _ =>
    rw [opensAtMost_cons_iff (by rw [hp]; decide) (by rw [hp]; decide),
      opensAtMost_cons_iff (by rw [hw]; decide) (by rw [hw]; decide),
      opensAtMost_cons_iff (by rw [hf]; decide) (by rw [hf]; decide)]
    exact opensAtMost_nil_iff.2 hle
  | call hk _ ho hopen hd hc ih =>
    rw [opensAtMost_cons_iff (by rw [hk]; decide) (by rw [hk]; decide),
      opensAtMost_enclosed_iff ho hc hd.balanced]
    exact ih hopen
  | group ho hopen hd hc ih =>
    rw [opensAtMost_enclosed_iff ho hc hd.balanced]
    exact ih hopen
  | atom _ ih => exact ih hle
  | not hs _ ih =>
    rw [opensAtMost_cons_iff (by rw [hs.1]; decide) (by rw [hs.1]; decide)]
    exact ih hle
  | part _ ih => exact ih hle
  | join hl hj _ ihl ihr =>
    rw [opensAtMost_append_iff hl.balanced,
      opensAtMost_cons_iff (by rw [hj.1]; decide) (by rw [hj.1]; decide)]
    exact ⟨ihl hle, ihr hle⟩

/-- **An expression has its tree at every depth at which it keeps the limit.** -/
theorem Derives.at_depth (h : Derives level opened tokens n)
    (hd : OpensAtMost maxOpen opened' tokens) : Derives level opened' tokens n := by
  induction h generalizing opened' with
  | operand hk ho => exact .operand hk ho
  | search hp hc hw hk hf ho => exact .search hp hc hw hk hf ho
  | call hk hm ho _ hi hc ih =>
    rw [opensAtMost_cons_iff (by rw [hk]; decide) (by rw [hk]; decide),
      opensAtMost_enclosed_iff ho hc hi.balanced] at hd
    exact .call hk hm ho hd.le (ih hd) hc
  | group ho _ hi hc ih =>
    rw [opensAtMost_enclosed_iff ho hc hi.balanced] at hd
    exact .group ho hd.le (ih hd) hc
  | atom _ ih => exact .atom (ih hd)
  | not hs _ ih =>
    rw [opensAtMost_cons_iff (by rw [hs.1]; decide) (by rw [hs.1]; decide)] at hd
    exact .not hs (ih hd)
  | part _ ih => exact .part (ih hd)
  | join hl hj _ ihl ihr =>
    rw [opensAtMost_append_iff hl.balanced,
      opensAtMost_cons_iff (by rw [hj.1]; decide) (by rw [hj.1]; decide)] at hd
    exact .join (ihl hd.1) hj (ihr hd.2)

end RecordQuery

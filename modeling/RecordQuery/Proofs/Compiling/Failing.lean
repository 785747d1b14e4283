import RecordQuery.Proofs.Compiling.Reaching
import RecordQuery.Proofs.Compiling.Tree
import RecordQuery.Proofs.Grammar.Fitting

/-!
# Which queries have no tree

A query whose text is a row of tokens has no tree just if the row has a defect.  The builder fails
at a defect only, from the state at the first token on; and a row with a tree has none, since its
tree says of each pair of neighbours what they are.

* `reached_start` — the state of the builder at the first token;
* `Derives.not_defect` — an expression has no defect;
* `compile_eq_error_iff_defect` — **a query fails just at a defect, and with an error for it**.
-/

namespace RecordQuery

variable {text : List Char} {tokens front : List Token} {last token next : Token} {n : Node}
  {e : ParseError} {source : String}

/-! ## A builder that fails -/

/-- The state of the builder at the first token. -/
theorem reached_start (h : Lawful .start 0 tokens)
    (hne : tokens.head?.map Token.kind ≠ some .finish) :
    Reached tokens [] .start [] [] tokens where
  reading := ⟨rfl, h, rfl⟩
  between := by decide
  begun := by
    intro _ token ht hk
    rw [ht] at hne
    exact hne (congrArg some hk)
  behind := fun ht => absurd ht (by decide)
  items := awaits_nil
  groups := by simp

theorem defect_of_build (h : Lawful .start 0 tokens)
    (hne : tokens.head?.map Token.kind ≠ some .finish) (he : build tokens = .error e) :
    Defect tokens e :=
  (reached_start h hne).defect_of_collect _ e he

/-! ## A row with a tree -/

theorem of_isChain_pair {R : Token → Token → Prop} (h : tokens.IsChain R)
    (hpair : [token, next] <:+: tokens) : R token next := by
  have hchain : [token, next].IsChain R := List.IsChain.infix h hpair
  exact (List.isChain_cons_cons.1 hchain).1

/-- The first token of a query is no field. -/
theorem placed_of_lawful (h : Lawful .start 0 tokens) : Placed tokens := by
  refine ⟨h.linked, fun token ht => ?_⟩
  rw [h.first token ht]
  decide

/-- **An expression has no defect**, in front of the finishing token. -/
theorem Derives.not_defect (h : Derives (.tier .or) 0 front n)
    (hplaced : Placed (front ++ [last])) (hk : last.kind = .finish) :
    ¬ Defect (front ++ [last]) e := by
  have hfits : (front ++ [last]).IsChain Token.Fits :=
    h.fits hplaced.of_append (by rw [hk]; decide) (by rw [hk]; decide)
  have hbefore : (front ++ [last]).IsChain Token.Before := by
    refine h.neighbours.append (.singleton _) ?_
    rintro token _ next ⟨⟩
    exact Token.before_of_next (by rw [hk]; decide) (by rw [hk]; decide)
  have hdepth : OpensAtMost maxOpen 0 (front ++ [last]) := by
    rw [opensAtMost_append_iff h.balanced,
      opensAtMost_cons_iff (by rw [hk]; decide) (by rw [hk]; decide)]
    exact ⟨h.opensAtMost (by decide), opensAtMost_nil_iff.2 (by decide)⟩
  intro hdefect
  cases hdefect with
  | noMethod hpair ht _ hl hm =>
    obtain ⟨method, hmethod⟩ := (of_isChain_pair hbefore hpair ht).1 hl
    rw [hm] at hmethod
    cases hmethod
  | comma hmem hc =>
    rcases List.mem_append.1 hmem with hmem | hmem
    · exact h.ne_comma _ hmem hc
    · rw [List.mem_singleton.1 hmem, hk] at hc
      cases hc
  | fieldBeforeGroup hpair ht hprevious hl _ =>
    exact ((of_isChain_pair hfits hpair).field ht hprevious).1 hl
  | fieldBeforeKeyword hpair ht hprevious hw =>
    exact ((of_isChain_pair hfits hpair).field ht hprevious).2 hw
  | @tooDeep before behind opener hsplit ho hcount =>
    have hopen := hdepth (before ++ [opener]) behind (by rw [hsplit, List.append_assoc]; rfl)
    simp only [countKind_append, countKind_cons, countKind_nil, ho, if_true, reduceCtorEq,
      if_false] at hopen
    omega
  | pattern hpair ht _ hw hc =>
    obtain ⟨compiled, hcompiled⟩ := (of_isChain_pair hbefore hpair ht).2 hw
    rw [hc] at hcompiled
    cases hcompiled
  | path hpair ht hnext hpath hp =>
    obtain ⟨leaf, hleaf⟩ := (of_isChain_pair hfits hpair).operand ht hnext
    obtain ⟨path, hok⟩ := parse_of_ofToken hleaf hpath
    rw [hp] at hok
    cases hok

/-! ## Queries -/

/-- A query with a token is built from its tokens. -/
theorem compile_of_tokenize (ht : tokenize source.toList = .ok tokens)
    (hne : tokens.head?.map Token.kind ≠ some .finish) :
    Query.compile source = (build tokens).map fun root => ⟨source, some root⟩ := by
  unfold Query.compile
  rw [ht]
  exact if_neg hne

/-- **A query fails just at a defect, and with an error for it.**  So the builder never reports an
unknown keyword or operator, an operator without its operands, a keyword without its field, an empty
expression or parentheses that do not match, and several parts only if there are two at least. -/
theorem compile_eq_error_iff_defect (ht : tokenize source.toList = .ok tokens)
    (hne : tokens.head?.map Token.kind ≠ some .finish) :
    ((∃ e, Query.compile source = .error e) ↔ ∃ e, Defect tokens e) ∧
    ∀ e, Query.compile source = .error e → Defect tokens e ∧ e.leftToBuilder := by
  have hlawful : Lawful .start 0 tokens := (tokenize_eq_ok_iff.1 ht).lawful
  have hcompile := compile_of_tokenize ht hne
  have hfail : ∀ e, Query.compile source = .error e → Defect tokens e := by
    intro e he
    refine defect_of_build hlawful hne ?_
    rw [hcompile] at he
    cases hb : build tokens with
    | ok root =>
      rw [hb] at he
      cases he
    | error e' =>
      rw [hb] at he
      cases he
      rfl
  refine ⟨⟨?_, ?_⟩, fun e he => ⟨hfail e he, (hfail e he).leftToBuilder⟩⟩
  · rintro ⟨e, he⟩
    exact ⟨e, hfail e he⟩
  · rintro ⟨e, hdefect⟩
    cases hb : build tokens with
    | error e' => exact ⟨e', by rw [hcompile, hb]; rfl⟩
    | ok root =>
      have hok : Query.compile source = .ok ⟨source, some root⟩ := by
        rw [hcompile, hb]
        rfl
      obtain ⟨tokens', ht', hd⟩ := compile_eq_ok_iff.1 hok
      cases ht.symm.trans ht'
      obtain ⟨front, last, rfl, hlast, _⟩ := hlawful.finish
      rw [List.dropLast_concat] at hd
      exact absurd hdefect (hd.not_defect (placed_of_lawful hlawful) hlast.kind)

/-- Behind a keyword the name of a method is a field, and no group may follow it. -/
theorem compile_eq_error_field_call :
    let tokens : List Token :=
      [⟨"a", ⟨0, 1⟩, .text, .start, false⟩, ⟨"in", ⟨2, 2⟩, .keyword, .text, false⟩,
        ⟨"len", ⟨5, 3⟩, .text, .keyword, false⟩, ⟨"(", ⟨8, 1⟩, .leftParen, .text, false⟩,
        ⟨"b", ⟨9, 1⟩, .text, .leftParen, false⟩, ⟨")", ⟨10, 1⟩, .rightParen, .text, false⟩,
        ⟨"", ⟨11, 0⟩, .finish, .rightParen, false⟩]
    tokenize "a in len(b)".toList = .ok tokens ∧
      tokens.head?.map Token.kind ≠ some .finish ∧
      Defect tokens (.misshapen (.severalParts 2) ⟨0, 11⟩) ∧
      ∃ e, Query.compile "a in len(b)" = .error e := by
  intro tokens
  have ht : tokenize "a in len(b)".toList = .ok tokens := by cbv
  have hne : tokens.head?.map Token.kind ≠ some .finish := by decide
  have hdefect : Defect tokens (.misshapen (.severalParts 2) ⟨0, 11⟩) := by
    have hpair : [tokens[2], tokens[3]] <:+: tokens := ⟨tokens.take 2, tokens.drop 4, rfl⟩
    exact .fieldBeforeGroup hpair rfl rfl rfl (by decide)
  exact ⟨ht, hne, hdefect, (compile_eq_error_iff_defect ht hne).1.2 ⟨_, hdefect⟩⟩

end RecordQuery

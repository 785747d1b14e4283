import RecordQuery.Proofs.Compiling.Tree
import RecordQuery.Proofs.Grammar.Depth
import RecordQuery.Proofs.Lexing.Enclosing

/-!
# Queries compose by their texts

Two queries in parentheses with an operator between them are a query again, and its tree is made of
their trees; likewise for `not`, for a method and for the parentheses alone.  Each pair of
parentheses adds one to the depth, so the parts keep one below the limit.

* `CompilesTo`, `NestsAtMost` — what a query is compiled to, and how deep it is nested;
* `exists_enclosable` — a query in parentheses is an atom, wherever its text stands;
* `compile_composed` — **queries compose by their texts**.
-/

namespace RecordQuery

/-- The query is compiled to this tree, up to the places of its tokens. -/
def CompilesTo (source : String) (tree : Node) : Prop :=
  ∃ n, Query.compile source = .ok ⟨source, some n⟩ ∧ n.detached = tree.detached

/-- No more parentheses than the limit are open at once in the query. -/
def NestsAtMost (limit : ℕ) (source : String) : Prop :=
  ∀ tokens, tokenize source.toList = .ok tokens → OpensAtMost limit 0 tokens

/-- A row of tokens in parentheses. -/
def enclosed (words : List Token) : List Token :=
  Token.word "(" .leftParen false :: (words ++ [Token.word ")" .rightParen false])

/-- In parentheses the text spells these tokens, wherever it stands, and they are an expression with
this tree. -/
structure Enclosable (text : List Char) (tree : Node) (words : List Token) : Prop where
  derives : ∃ n, Derives (.tier .or) 1 words n ∧ n.detached = tree.detached
  reads : ∀ {previous : TokenKind} {gap rest : List Char} {more : List Token},
    (∀ c ∈ gap, Text.isBlank c) → previous.allows .leftParen → Reads .rightParen 0 rest more →
    Reads previous 0 (gap ++ '(' :: (text ++ ')' :: rest)) (enclosed words ++ more)

variable {opened : ℕ} {tokens words others : List Token} {level : Level} {p q source : String}
  {l n r tree : Node}

/-! ## Atoms as expressions -/

/-- An atom may stand wherever an expression may. -/
theorem Derives.of_atom (h : Derives .atom opened tokens n) (level : Level) :
    Derives level opened tokens n := by
  cases level with
  | atom => exact h
  | unary => exact .atom h
  | tier tier =>
    have hc : Derives (.tier .comparison) opened tokens n := .part (.atom h)
    cases tier with
    | comparison => exact hc
    | and => exact .part hc
    | or => exact .part (.part hc)

/-- What is read at any level is an expression. -/
theorem Derives.to_or (h : Derives level opened tokens n) : Derives (.tier .or) opened tokens n := by
  cases level with
  | atom => exact h.of_atom _
  | unary => exact .part (.part (.part h))
  | tier tier =>
    cases tier with
    | comparison => exact .part (.part h)
    | and => exact .part h
    | or => exact h

theorem derives_enclosed (h : Derives (.tier .or) 1 words n) : Derives .atom 0 (enclosed words) n :=
  .group rfl (by decide) h rfl

/-! ## Operators and methods as words -/

theorem ofSymbol?_symbol (op : BinaryOp) : BinaryOp.ofSymbol? op.symbol = some op := by
  cases op <;> rfl

theorem ofName?_name (m : Method) : Method.ofName? m.name = some m := by
  cases m <;> rfl

theorem stops_at_blank (text : List Char) : ∀ c ∈ (' ' :: text).head?, ¬ Lexer.isBare c := by
  rintro c ⟨⟩
  decide

theorem stops_at_open (text : List Char) : ∀ c ∈ ('(' :: text).head?, ¬ Lexer.isBare c := by
  rintro c ⟨⟩
  exact Paren.opening.not_bare

theorem isBareWord_symbol (op : BinaryOp) : isBareWord op.symbol.toList := by
  cases op <;> decide

theorem isBareWord_name (m : Method) : isBareWord m.name.toList := by
  cases m <;> decide

/-! ## From texts to trees -/

/-- A text that spells the words of an expression is compiled to its tree. -/
theorem compilesTo_of_reads {text : List Char} (htext : source.toList = text)
    (hr : Reads .start 0 text (words ++ [Token.word "" .finish false]))
    (hd : Derives level 0 words n) (hn : n.detached = tree.detached) : CompilesTo source tree := by
  obtain ⟨placed, hs, hwords⟩ := hr 0
  have hfront : placed.dropLast.map Token.detached = words := by
    rw [List.map_dropLast, hwords, List.dropLast_concat]
  have hsame : words.map Token.detached = placed.dropLast.map Token.detached := by
    rw [← hfront, map_detached_detached]
  obtain ⟨m, hm, hmn⟩ := hd.to_or.of_detached hsame
  rw [← htext] at hs
  exact ⟨m, compile_eq_ok_iff.2 ⟨placed, tokenize_eq_ok_iff.2 hs, hm⟩, hmn.trans hn⟩

/-- **A query in parentheses is an atom**, wherever its text stands. -/
theorem exists_enclosable (hp : CompilesTo p l) (hd : NestsAtMost 126 p) :
    ∃ words, Enclosable p.toList l words := by
  obtain ⟨n, hn, hnl⟩ := hp
  obtain ⟨tokens, ht, hderives⟩ := compile_eq_ok_iff.1 hn
  have hdepth : OpensAtMost maxOpen 1 tokens.dropLast := by
    obtain ⟨last, hlast⟩ := List.dropLast_prefix tokens
    have hall := hd tokens ht
    rw [← hlast] at hall
    exact hall.of_append.succ
  obtain ⟨m, hm, hmn⟩ :=
    (hderives.at_depth hdepth).of_detached (map_detached_detached tokens.dropLast).symm
  refine ⟨_, ⟨m, hm, hmn.trans hnl⟩, ?_⟩
  intro previous gap rest more hgap hallows hrest
  have hread := (tokenize_eq_ok_iff.1 ht).reads_enclosed hderives.ne_nil hgap hallows hrest
  simpa [enclosed] using hread

/-- The end of a query behind a closing parenthesis. -/
theorem reads_end : Reads .rightParen 0 [] [Token.word "" .finish false] := reads_finish (by decide)

namespace Enclosable

theorem compilesTo_group (hp : Enclosable p.toList l words) : CompilesTo ("(" ++ p ++ ")") l := by
  obtain ⟨n, hn, hnl⟩ := hp.derives
  have hread := @reads _ _ _ hp .start [] [] _ (by simp) (by decide) reads_end
  exact compilesTo_of_reads (by simp [String.toList_append]) hread (derives_enclosed hn) hnl

theorem compilesTo_method (hp : Enclosable p.toList l words) (m : Method) :
    CompilesTo (m.name ++ "(" ++ p ++ ")") (.method m l (Token.word m.name .text false)) := by
  obtain ⟨n, hn, hnl⟩ := hp.derives
  have hof : TokenKind.of? m.name false .start = some .text := by cases m <;> rfl
  have hargument := @reads _ _ _ hp .text [] [] _ (by simp) (by decide) reads_end
  have hread := @reads_bare 0 .start .text [] _ _ m.name (by simp) (isBareWord_name m)
    (stops_at_open _) hof (by decide) (by decide) hargument
  have hcall : Derives .atom 0 (Token.word m.name .text false :: enclosed words)
      (.method m n (Token.word m.name .text false)) :=
    .call rfl (ofName?_name m) rfl (by decide) hn rfl
  refine compilesTo_of_reads (by simp [String.toList_append]) hread hcall ?_
  rw [Node.detached, Node.detached, hnl]

theorem compilesTo_not (hp : Enclosable p.toList l words) :
    CompilesTo ("not (" ++ p ++ ")") (.unary .not l (Token.word "not" .unary false)) := by
  obtain ⟨n, hn, hnl⟩ := hp.derives
  have hoperand := @reads _ _ _ hp .unary [' '] [] _ (by simp [Text.isBlank]) (by decide) reads_end
  have hread := @reads_bare 0 .start .unary [] _ _ "not" (by simp) (by decide)
    (stops_at_blank _) rfl (by decide) (by decide) hoperand
  have hnot : Derives .unary 0 (Token.word "not" .unary false :: enclosed words)
      (.unary .not n (Token.word "not" .unary false)) :=
    .not ⟨rfl, rfl⟩ (.atom (derives_enclosed hn))
  refine compilesTo_of_reads (by simp [String.toList_append]) hread hnot ?_
  rw [Node.detached, Node.detached, hnl]

theorem compilesTo_binary (hp : Enclosable p.toList l words) (hq : Enclosable q.toList r others)
    (op : BinaryOp) :
    CompilesTo ("(" ++ p ++ ") " ++ op.symbol ++ " (" ++ q ++ ")")
      (.binary op l r (Token.word op.symbol .binary false)) := by
  obtain ⟨m, hm, hml⟩ := hp.derives
  obtain ⟨n, hn, hnr⟩ := hq.derives
  have hof : TokenKind.of? op.symbol false .rightParen = some .binary := by cases op <;> rfl
  have hright := @reads _ _ _ hq .binary [' '] [] _ (by simp [Text.isBlank]) (by decide) reads_end
  have hsign := @reads_bare 0 .rightParen .binary [' '] _ _ op.symbol (by simp [Text.isBlank])
    (isBareWord_symbol op) (stops_at_blank _) hof (by decide) (by decide) hright
  have hread := @reads _ _ _ hp .start [] _ _ (by simp) (by decide) hsign
  have hjoin : Derives (.tier op.tier) 0
      (enclosed words ++ Token.word op.symbol .binary false :: enclosed others)
      (.binary op m n (Token.word op.symbol .binary false)) :=
    .join ((derives_enclosed hm).of_atom _) ⟨rfl, ofSymbol?_symbol op, rfl⟩
      ((derives_enclosed hn).of_atom _)
  have hwords : ∀ last : Token,
      enclosed words ++ Token.word op.symbol .binary false :: (enclosed others ++ [last]) =
        (enclosed words ++ Token.word op.symbol .binary false :: enclosed others) ++ [last] := by
    simp
  rw [hwords] at hread
  refine compilesTo_of_reads (by simp [String.toList_append]) hread hjoin ?_
  rw [Node.detached, Node.detached, hml, hnr]

end Enclosable

/-- **Queries compose by their texts**: with an operator between them, behind `not`, as the argument
of a method, and in parentheses alone. -/
theorem compile_composed (hp : CompilesTo p l) (hq : CompilesTo q r) (hdp : NestsAtMost 126 p)
    (hdq : NestsAtMost 126 q) :
    (∀ op : BinaryOp, CompilesTo ("(" ++ p ++ ") " ++ op.symbol ++ " (" ++ q ++ ")")
      (.binary op l r (Token.word op.symbol .binary false))) ∧
    CompilesTo ("not (" ++ p ++ ")") (.unary .not l (Token.word "not" .unary false)) ∧
    (∀ m : Method, CompilesTo (m.name ++ "(" ++ p ++ ")")
      (.method m l (Token.word m.name .text false))) ∧
    CompilesTo ("(" ++ p ++ ")") l := by
  obtain ⟨words, hl⟩ := exists_enclosable hp hdp
  obtain ⟨others, hr⟩ := exists_enclosable hq hdq
  exact ⟨hl.compilesTo_binary hr, hl.compilesTo_not, hl.compilesTo_method, hl.compilesTo_group⟩

/-- The parentheses keep `or` below `and`. -/
theorem compile_composed_or_and :
    let either := Node.binary .or
      (.operand (.path ⟨[.key "a"]⟩) ⟨"a", ⟨0, 1⟩, .text, .start, false⟩)
      (.operand (.path ⟨[.key "b"]⟩) ⟨"b", ⟨5, 1⟩, .text, .binary, false⟩)
      ⟨"or", ⟨2, 2⟩, .binary, .text, false⟩
    let size := Node.method .len
      (.operand (.path ⟨[.key "c"]⟩) ⟨"c", ⟨4, 1⟩, .text, .leftParen, false⟩)
      ⟨"len", ⟨0, 3⟩, .text, .start, false⟩
    (CompilesTo "a or b" either ∧ NestsAtMost 126 "a or b") ∧
    (CompilesTo "len(c)" size ∧ NestsAtMost 126 "len(c)") ∧
    CompilesTo "(a or b) and (len(c))"
      (.binary .and either size ⟨"and", ⟨0, 0⟩, .binary, .start, false⟩) := by
  intro either size
  have htokensp : tokenize "a or b".toList =
      .ok [⟨"a", ⟨0, 1⟩, .text, .start, false⟩, ⟨"or", ⟨2, 2⟩, .binary, .text, false⟩,
        ⟨"b", ⟨5, 1⟩, .text, .binary, false⟩, ⟨"", ⟨6, 0⟩, .finish, .text, false⟩] := by cbv
  have htokensq : tokenize "len(c)".toList =
      .ok [⟨"len", ⟨0, 3⟩, .text, .start, false⟩, ⟨"(", ⟨3, 1⟩, .leftParen, .text, false⟩,
        ⟨"c", ⟨4, 1⟩, .text, .leftParen, false⟩, ⟨")", ⟨5, 1⟩, .rightParen, .text, false⟩,
        ⟨"", ⟨6, 0⟩, .finish, .rightParen, false⟩] := by cbv
  have hp : CompilesTo "a or b" either := by
    refine ⟨either, compile_eq_ok_iff.2 ⟨_, htokensp, ?_⟩, rfl⟩
    exact .join (.of_atom (.operand rfl rfl) _) ⟨rfl, rfl, rfl⟩ (.of_atom (.operand rfl rfl) _)
  have hq : CompilesTo "len(c)" size := by
    refine ⟨size, compile_eq_ok_iff.2 ⟨_, htokensq, ?_⟩, rfl⟩
    exact .of_atom (.call rfl rfl rfl (by decide) (.of_atom (.operand rfl rfl) _) rfl) _
  have hdp : NestsAtMost 126 "a or b" := by
    intro tokens ht
    cases htokensp.symm.trans ht
    exact opensAtMost_of_countKind (by decide)
  have hdq : NestsAtMost 126 "len(c)" := by
    intro tokens ht
    cases htokensq.symm.trans ht
    exact opensAtMost_of_countKind (by decide)
  exact ⟨⟨hp, hdp⟩, ⟨hq, hdq⟩, (compile_composed hp hq hdp hdq).1 .and⟩

end RecordQuery

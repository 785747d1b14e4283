import RecordQuery.Proofs.Paths.Failing

/-!
# The grammar of paths

A path is a head without brackets, then keys in brackets, each with matching brackets of its own,
and behind the last key at most blanks.  The reader goes from character to character with a counter
and never looks back.  What it accepts are the texts of this form, and they have it in one way.

* `WrittenAs`, `WrittenAs.unique` — **the form of a path, which it has in one way**;
* `parts` — the keys that a path of this form says;
* `FieldPath.parse_eq_ok_iff` — **the reader accepts this form, and nothing else**;
* `accepts_grammar` — all of it together, for every text.
-/

namespace RecordQuery

variable {head head' key key' text blanks blanks' : List Char} {keys keys' : List (List Char)}
  {segments : List Segment} {path : FieldPath}

namespace FieldPath

/-! ## Keys in brackets -/

theorem head?_ne_of_blank (h : ∀ c ∈ blanks, Text.isBlank c = true) : blanks.head? ≠ some '[' := by
  intro hopen
  obtain ⟨cs, rfl⟩ := List.head?_eq_some_iff.1 hopen
  exact absurd (h '[' List.mem_cons_self) (by decide)

theorem bracketed_cons_append (key : List Char) (keys : List (List Char)) (blanks : List Char) :
    bracketed (key :: keys) ++ blanks = '[' :: (key ++ ']' :: (bracketed keys ++ blanks)) := by
  rw [bracketed_cons, List.cons_append, List.append_assoc, List.cons_append]

/-- Keys in brackets are read one by one, up to the blanks behind them. -/
theorem parseKeys_of_keys (hkeys : ∀ key ∈ keys, Balanced 0 key)
    (hblanks : ∀ c ∈ blanks, Text.isBlank c = true)
    (hreads : List.Forall₂ Segment.Reads keys segments) (offset : ℕ) :
    parseKeys offset (bracketed keys ++ blanks) = .ok segments := by
  induction hreads generalizing offset with
  | nil =>
    show parseKeys offset blanks = _
    rw [parseKeys_bare (head?_ne_of_blank hblanks), if_pos (List.all_eq_true.2 hblanks)]
  | @cons key segment keys segments hsegment _ ih =>
    obtain ⟨hkey, hothers⟩ := List.forall_mem_cons.1 hkeys
    have hfirst : Segment.parse key (offset + 1) = .ok segment :=
      Segment.parse_eq_ok_iff.2 hsegment
    rw [bracketed_cons_append, parseKeys_closed hkey, hfirst, ih hothers]
    rfl

/-- What is read as keys are keys in brackets, with blanks behind them. -/
theorem exists_keys_of_parseKeys {cs : List Char} {offset : ℕ}
    (h : parseKeys offset cs = .ok segments) :
    ∃ keys blanks, cs = bracketed keys ++ blanks ∧ (∀ key ∈ keys, Balanced 0 key) ∧
      (∀ c ∈ blanks, Text.isBlank c = true) ∧ List.Forall₂ Segment.Reads keys segments := by
  induction cs using keys_induction generalizing offset segments with
  | bare cs hbare =>
    rw [parseKeys_bare hbare] at h
    split_ifs at h with hblanks
    cases h
    exact ⟨[], cs, rfl, nofun, List.all_eq_true.1 hblanks, .nil⟩
  | closed key rest hkey ih =>
    rw [parseKeys_closed hkey] at h
    obtain ⟨segment, hsegment, h⟩ := Except.bind_eq_ok_iff.1 h
    obtain ⟨others, hothers, h⟩ := Except.bind_eq_ok_iff.1 h
    cases h
    obtain ⟨keys, blanks, rfl, hkeys, hblanks, hreads⟩ := ih hothers
    exact ⟨key :: keys, blanks, (bracketed_cons_append key keys blanks).symm,
      List.forall_mem_cons.2 ⟨hkey, hkeys⟩, hblanks,
      .cons (Segment.parse_eq_ok_iff.1 hsegment) hreads⟩
  | unclosed cs hunclosed =>
    rw [parseKeys_unclosed hunclosed] at h
    cases h

/-- **Keys in brackets and blanks behind them are so in one way only.** -/
theorem bracketed_append_inj (hkeys : ∀ key ∈ keys, Balanced 0 key)
    (hkeys' : ∀ key ∈ keys', Balanced 0 key) (hblanks : ∀ c ∈ blanks, Text.isBlank c = true)
    (hblanks' : ∀ c ∈ blanks', Text.isBlank c = true)
    (heq : bracketed keys ++ blanks = bracketed keys' ++ blanks') :
    keys = keys' ∧ blanks = blanks' := by
  induction keys generalizing keys' with
  | nil =>
    cases keys' with
    | nil => exact ⟨rfl, heq⟩
    | cons key' keys' =>
      rw [bracketed_cons_append] at heq
      exact absurd (congrArg List.head? heq) (head?_ne_of_blank hblanks)
  | cons key keys ih =>
    obtain ⟨hkey, hothers⟩ := List.forall_mem_cons.1 hkeys
    rw [bracketed_cons_append] at heq
    cases keys' with
    | nil => exact absurd (congrArg List.head? heq.symm) (head?_ne_of_blank hblanks')
    | cons key' keys' =>
      obtain ⟨hkey', hothers'⟩ := List.forall_mem_cons.1 hkeys'
      rw [bracketed_cons_append] at heq
      obtain ⟨rfl, hrest⟩ := hkey.eq_of_closed hkey' (List.cons.inj heq).2
      obtain ⟨rfl, hlast⟩ := ih hothers hothers' hrest
      exact ⟨rfl, hlast⟩

/-! ## Paths -/

/-- The text is a head without brackets, then keys in brackets, then blanks.  Blanks behind a head
alone are a part of it. -/
structure WrittenAs (text head : List Char) (keys : List (List Char)) (blanks : List Char) :
    Prop where
  text_eq : text = head ++ (bracketed keys ++ blanks)
  head_bare : ∀ c ∈ head, c ≠ '[' ∧ c ≠ ']'
  keys_balanced : ∀ key ∈ keys, Balanced 0 key
  blanks_blank : ∀ c ∈ blanks, Text.isBlank c = true
  blanks_nil : keys = [] → blanks = []

/-- The keys that a path says: an empty head in front of other keys is left out. -/
def parts (head : List Char) (keys : List (List Char)) : List (List Char) :=
  if head = [] ∧ keys ≠ [] then keys else head :: keys

/-- What is behind the head starts with a bracket, if there is anything. -/
theorem WrittenAs.behind_head (h : WrittenAs text head keys blanks) :
    bracketed keys ++ blanks = [] ∧ keys = [] ∨
      ∃ rest, bracketed keys ++ blanks = '[' :: rest ∧ keys ≠ [] := by
  cases keys with
  | nil =>
    rw [h.blanks_nil rfl]
    exact .inl ⟨rfl, rfl⟩
  | cons key keys => exact .inr ⟨_, bracketed_cons_append key keys blanks, by simp⟩

/-- The head is what stands in front of the first bracket. -/
theorem WrittenAs.takeWhile_dropWhile (h : WrittenAs text head keys blanks) :
    text.takeWhile (· != '[') = head ∧ text.dropWhile (· != '[') = bracketed keys ++ blanks := by
  have hhead : ∀ c ∈ head, (c != '[') = true := fun c hc => by simpa using (h.head_bare c hc).1
  have hstop : (bracketed keys ++ blanks).takeWhile (· != '[') = [] ∧
      (bracketed keys ++ blanks).dropWhile (· != '[') = bracketed keys ++ blanks := by
    rcases h.behind_head with ⟨hnil, _⟩ | ⟨rest, hrest, _⟩
    · rw [hnil]
      exact ⟨rfl, rfl⟩
    · rw [hrest]
      exact ⟨rfl, rfl⟩
  rw [h.text_eq, List.takeWhile_append_of_pos hhead, List.dropWhile_append_of_pos hhead,
    hstop.1, hstop.2, List.append_nil]
  exact ⟨rfl, rfl⟩

/-- **A path has its form in one way only.** -/
theorem WrittenAs.unique (h : WrittenAs text head keys blanks)
    (h' : WrittenAs text head' keys' blanks') :
    head = head' ∧ keys = keys' ∧ blanks = blanks' := by
  obtain ⟨hhead, hbehind⟩ := h.takeWhile_dropWhile
  obtain ⟨hhead', hbehind'⟩ := h'.takeWhile_dropWhile
  exact ⟨hhead.symm.trans hhead', bracketed_append_inj h.keys_balanced h'.keys_balanced
    h.blanks_blank h'.blanks_blank (hbehind.symm.trans hbehind')⟩

/-- An empty head is left out just if a key follows. -/
theorem WrittenAs.omits_head_iff (h : WrittenAs text head keys blanks) :
    (head.isEmpty && !(bracketed keys ++ blanks).isEmpty) = true ↔ head = [] ∧ keys ≠ [] := by
  rcases h.behind_head with ⟨hnil, hkeys⟩ | ⟨rest, hrest, hkeys⟩
  · rw [hnil]
    simp [hkeys]
  · rw [hrest]
    simp [hkeys]

/-- A text of this form is read part by part. -/
theorem WrittenAs.parse_eq (h : WrittenAs text head keys blanks)
    (hreads : List.Forall₂ Segment.Reads (parts head keys) segments) :
    parse text = .ok ⟨segments⟩ := by
  obtain ⟨hhead, hbehind⟩ := h.takeWhile_dropWhile
  have hbare : ¬ head.contains ']' := by
    intro hclose
    exact (h.head_bare ']' (by simpa using hclose)).2 rfl
  have hkeys : ∀ {others : List Segment} (offset : ℕ), List.Forall₂ Segment.Reads keys others →
      parseKeys offset (bracketed keys ++ blanks) = .ok others :=
    fun offset hothers => parseKeys_of_keys h.keys_balanced h.blanks_blank hothers offset
  rw [parse, hhead, hbehind, if_neg hbare]
  by_cases homits : head = [] ∧ keys ≠ []
  · rw [parts, if_pos homits] at hreads
    rw [if_pos (h.omits_head_iff.2 homits), hkeys 0 hreads]
    rfl
  · rw [parts, if_neg homits] at hreads
    rw [if_neg (mt h.omits_head_iff.1 homits)]
    cases hreads with
    | @cons _ first _ others hfirst hothers =>
      have hparse : Segment.parse head 0 = .ok first := Segment.parse_eq_ok_iff.2 hfirst
      rw [hparse, hkeys head.length hothers]
      rfl

/-- What stands behind a head without brackets, if it is keys and blanks, gives the form. -/
theorem writtenAs_of_dropWhile (hbare : ¬ (text.takeWhile (· != '[')).contains ']')
    (hbehind : text.dropWhile (· != '[') = bracketed keys ++ blanks)
    (hkeys : ∀ key ∈ keys, Balanced 0 key) (hblanks : ∀ c ∈ blanks, Text.isBlank c = true) :
    WrittenAs text (text.takeWhile (· != '[')) keys blanks where
  text_eq := by rw [← hbehind, List.takeWhile_append_dropWhile]
  head_bare c hc := by
    refine ⟨by simpa using List.mem_takeWhile_imp hc, ?_⟩
    rintro rfl
    exact hbare (by simpa using hc)
  keys_balanced := hkeys
  blanks_blank := hblanks
  blanks_nil hnil := by
    subst hnil
    have hblank : text.dropWhile (· != '[') = blanks := hbehind
    cases blanks with
    | nil => rfl
    | cons c cs =>
      -- the first character behind the head is a bracket, so it is not blank
      have hfirst := List.head?_dropWhile_not (· != '[') text
      rw [hblank] at hfirst
      have hopen : c = '[' := by simpa using hfirst
      exact absurd (congrArg some hopen) (head?_ne_of_blank hblanks)

/-- **The reader accepts texts of this form, and nothing else.** -/
theorem parse_eq_ok_iff :
    parse text = .ok path ↔ ∃ head keys blanks, WrittenAs text head keys blanks ∧
      List.Forall₂ Segment.Reads (parts head keys) path.segments := by
  constructor
  · intro h
    rw [parse] at h
    split_ifs at h with hbare homits
    · obtain ⟨segments, hsegments, h⟩ := Except.bind_eq_ok_iff.1 h
      cases h
      obtain ⟨keys, blanks, hbehind, hkeys, hblanks, hreads⟩ := exists_keys_of_parseKeys hsegments
      have hwritten := writtenAs_of_dropWhile hbare hbehind hkeys hblanks
      rw [hbehind] at homits
      refine ⟨_, keys, blanks, hwritten, ?_⟩
      rw [parts, if_pos (hwritten.omits_head_iff.1 homits)]
      exact hreads
    · obtain ⟨first, hfirst, h⟩ := Except.bind_eq_ok_iff.1 h
      obtain ⟨segments, hsegments, h⟩ := Except.bind_eq_ok_iff.1 h
      cases h
      obtain ⟨keys, blanks, hbehind, hkeys, hblanks, hreads⟩ := exists_keys_of_parseKeys hsegments
      have hwritten := writtenAs_of_dropWhile hbare hbehind hkeys hblanks
      rw [hbehind] at homits
      refine ⟨_, keys, blanks, hwritten, ?_⟩
      rw [parts, if_neg (mt hwritten.omits_head_iff.2 homits)]
      exact .cons (Segment.parse_eq_ok_iff.1 hfirst) hreads
  · rintro ⟨head, keys, blanks, hwritten, hreads⟩
    exact hwritten.parse_eq hreads

/-! ## The grammar -/

theorem exists_forall₂_reads_iff {raws : List (List Char)} :
    (∃ segments, List.Forall₂ Segment.Reads raws segments) ↔
      ∀ raw ∈ raws, Segment.IsReadable raw := by
  induction raws with
  | nil => exact ⟨fun _ => nofun, fun _ => ⟨[], .nil⟩⟩
  | cons raw raws ih =>
    rw [List.forall_mem_cons, ← ih, ← Segment.exists_reads_iff]
    constructor
    · rintro ⟨_, _ | ⟨hsegment, hsegments⟩⟩
      exact ⟨⟨_, hsegment⟩, _, hsegments⟩
    · rintro ⟨⟨segment, hsegment⟩, segments, hsegments⟩
      exact ⟨segment :: segments, .cons hsegment hsegments⟩

/-- An empty head says nothing that could not be read. -/
theorem forall_parts_iff :
    (∀ part ∈ parts head keys, Segment.IsReadable part) ↔
      ∀ part ∈ head :: keys, Segment.IsReadable part := by
  unfold parts
  split_ifs with homits
  · have hempty : Segment.IsReadable head := by
      rw [homits.1]
      exact nofun
    rw [List.forall_mem_cons, and_iff_right hempty]
  · rfl

/-- What the reader makes of a text, against the grammar of paths. -/
structure AcceptsGrammar (text : List Char) : Prop where
  /-- It accepts the form of a path in which all marked keys hold numbers. -/
  accepts : (∃ path, parse text = .ok path) ↔ ∃ head keys blanks,
    WrittenAs text head keys blanks ∧ ∀ part ∈ head :: keys, Segment.IsReadable part
  unique : ∀ head keys blanks head' keys' blanks', WrittenAs text head keys blanks →
    WrittenAs text head' keys' blanks' → head = head' ∧ keys = keys' ∧ blanks = blanks'
  /-- The segments are the keys, each for what it says. -/
  segments : ∀ path head keys blanks, parse text = .ok path → WrittenAs text head keys blanks →
    List.Forall₂ Segment.Reads (parts head keys) path.segments
  /-- A failure shows a part of the text, and no empty one. -/
  failure : ∀ e, parse text = .error e → 0 < e.length ∧ e.offset + e.length ≤ text.length

/-- **The reader of paths accepts exactly its grammar**, on every text. -/
theorem accepts_grammar (text : List Char) : AcceptsGrammar text where
  accepts := by
    constructor
    · rintro ⟨path, h⟩
      obtain ⟨head, keys, blanks, hwritten, hreads⟩ := parse_eq_ok_iff.1 h
      have hreadable := exists_forall₂_reads_iff.1 ⟨_, hreads⟩
      exact ⟨head, keys, blanks, hwritten, forall_parts_iff.1 hreadable⟩
    · rintro ⟨head, keys, blanks, hwritten, hreadable⟩
      obtain ⟨segments, hreads⟩ := exists_forall₂_reads_iff.2 (forall_parts_iff.2 hreadable)
      exact ⟨⟨segments⟩, hwritten.parse_eq hreads⟩
  unique _ _ _ _ _ _ h h' := h.unique h'
  segments path head keys blanks h hwritten := by
    obtain ⟨head', keys', blanks', hwritten', hreads⟩ := parse_eq_ok_iff.1 h
    obtain ⟨rfl, rfl, rfl⟩ := hwritten.unique hwritten'
    exact hreads
  failure _ h := shows_of_parse h

end FieldPath

end RecordQuery

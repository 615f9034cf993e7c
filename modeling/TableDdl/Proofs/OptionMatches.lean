import TableDdl.Proofs.OptionLines
import TableDdl.Proofs.ColumnHeads
import TableDdl.Reader.Options

/-!
# The first match of an option grammar

Each directive's grammar reads an option the way an option line writes it. At the start of an
option of its directive, the grammar's first way reads the whole option: the directive, the
equals sign or the blank after it, and the value, which the grammar records as the group `val`
and which the directive's cleaning turns back into the value. Where the directive's name does
not start, the grammar has no way at all. `ReadsOptionsOf` says this of a grammar, and every
grammar that the scanner runs is of this kind (`stringGrammars_read`, `otherGrammars_read`).

The pieces: the separator is read as the one character that the line writes
(`head?_ways_optionalEquals`); a word value is read to its end, a `UNION` list up to its closing
parenthesis, a `TABLESPACE` value lazily up to the first ` STORAGE DISK`, and a quoted value
over its doubled quotes up to the first quote that no quote follows (`head?_ways_quotedValue`),
after which undoing the doubling gives the value back (`unescapeOption_escapedValue`).
-/

namespace TableDdl

namespace Pattern

variable {n : Nat}

@[simp] theorem progressive_append (p q : Pattern) :
    (p ++ q).Progressive = (p.Progressive && q.Progressive) := rfl

@[simp] theorem progressive_literal (s : String) : (literal s).Progressive = true := by
  unfold literal
  induction s.toList with
  | nil => rfl
  | cons x xs ih =>
    rw [List.foldr_cons, progressive_append, ih]
    rfl

theorem pos_skip_of_le {c : Cursor n} {k : Nat} (h : k ≤ c.rest.length) :
    (c.skip k).pos = c.pos + k := by
  simp [Nat.min_eq_left h]

/-- The first way of a sequence goes through the first way of its first part, when the second
part has a way from there. -/
theorem head?_ways_append_of_head? {p q : Pattern} {c : Cursor n} {caps : Captures}
    {v w : Cursor n × Captures} (hp : (p.ways c caps).head? = some v)
    (hq : (q.ways v.1 v.2).head? = some w) : ((p ++ q).ways c caps).head? = some w := by
  obtain ⟨vs, hvs⟩ := List.head?_eq_some_iff.1 hp
  rw [ways_append, List.head?_flatMap, hvs, List.findSome?_cons, hq]

/-- A sequence has no way where its first part has none. -/
theorem ways_append_eq_nil {p : Pattern} (q : Pattern) {c : Cursor n} {caps : Captures}
    (h : p.ways c caps = []) : (p ++ q).ways c caps = [] := by
  rw [ways_append, h, List.flatMap_nil]

/-- The first way of a greedy repetition of a class reads the longest run of the class's
characters. -/
theorem head?_ways_many_chars (cls : CharClass) (c : Cursor n) (caps : Captures) :
    ((Pattern.star true (.chars cls)).ways c caps).head? =
      some (c.skip (c.rest.takeWhile cls.admits).length, caps) := by
  rw [ways_many_chars, List.range_succ, List.reverse_append]
  simp

/-- A greedy repetition stops where its pattern has no way. -/
theorem ways_many_of_nil {p : Pattern} {c : Cursor n} {caps : Captures} (h : p.ways c caps = []) :
    (Pattern.star true p).ways c caps = [(c, caps)] := by
  rw [ways_star, h]
  simp

/-- A greedy repetition goes on first from the one way of its pattern, when that way reads. -/
theorem head?_ways_many_of_single {p : Pattern} {c : Cursor n} {caps : Captures}
    {v : Cursor n × Captures} (h : p.ways c caps = [v]) (hv : c.pos < v.1.pos) :
    ((Pattern.star true p).ways c caps).head? = ((Pattern.star true p).ways v.1 v.2).head? := by
  have hne : (Pattern.star true p).ways v.1 v.2 ≠ [] := by
    rw [ways_star]
    simp
  obtain ⟨w, ws, hws⟩ := List.exists_cons_of_ne_nil hne
  conv_lhs => rw [ways_star, h]
  simp [hv, hws]

/-- A lazy repetition followed by `q` first tries `q` where the repetition starts. -/
theorem head?_ways_manyLazy_of_head? {p q : Pattern} {c : Cursor n} {caps : Captures}
    {w : Cursor n × Captures} (hq : (q.ways c caps).head? = some w) :
    ((Pattern.star false p ++ q).ways c caps).head? = some w := by
  rw [ways_append, ways_star]
  simp [List.head?_append, hq]

/-- A lazy repetition of a class followed by `q` reads one more character of the class where
`q` has no way. -/
theorem head?_ways_manyLazy_chars_of_nil {cls : CharClass} {q : Pattern} {c : Cursor n}
    {caps : Captures} {x : Char} {r : List Char} (hc : c.rest = x :: r) (hx : cls.admits x = true)
    (hq : q.ways c caps = []) :
    ((Pattern.star false (.chars cls) ++ q).ways c caps).head? =
      ((Pattern.star false (.chars cls) ++ q).ways (c.skip 1) caps).head? := by
  have hpos : c.pos < (c.skip 1).pos := by simp [hc]
  rw [ways_append, ways_star, ways_chars, hc, ways_append]
  simp [hx, hq, hc]

end Pattern

namespace Grammar

open Pattern

variable {n : Nat}

/-! ## One-character pieces -/

theorem admits_space (x : Char) :
    (CharClass.anyOf [.space]).admits x = Unicode.whiteSpace.contains x := by
  simp [CharClass.anyOf, CharClass.admits, ClassItem.admits]

theorem admits_noneOf_caseless {x : Char} (hx : Unicode.Caseless x) (y : Char) :
    (CharClass.noneOf [.char x]).admits y = true ↔ y ≠ x := by
  unfold Unicode.Caseless at hx
  simp only [CharClass.noneOf, CharClass.anyOf, CharClass.admits, List.flatMap_cons,
    List.flatMap_nil, hx, List.map_cons, List.map_nil, List.append_nil, List.any_cons,
    List.any_nil, ClassItem.admits, Bool.or_false]
  by_cases h : x = y
  · subst h
    simp
  · simp [h, Ne.symm h]

/-- A literal of one character without other cases reads that character. -/
theorem ways_literal_caseless {s : String} {x : Char} (hs : s.toList = [x])
    (hx : Unicode.Caseless x) {c : Cursor n} {r : List Char} (hc : c.rest = x :: r)
    (caps : Captures) : (literal s).ways c caps = [(c.skip 1, caps)] := by
  have hpre : Unicode.foldPrefix s.toList c.rest = true :=
    (Unicode.foldPrefix_iff (by simpa [hs] using hx) _).2 (by simp [hs, hc])
  rw [ways_literal, if_pos hpre, ← String.length_toList, hs]
  rfl

/-- A literal of one character without other cases reads nothing where another character or
the end follows. -/
theorem ways_literal_caseless_of_ne {s : String} {x : Char} (hs : s.toList = [x])
    (hx : Unicode.Caseless x) {c : Cursor n} (hc : c.rest.head? ≠ some x) (caps : Captures) :
    (literal s).ways c caps = [] := by
  have hpre : Unicode.foldPrefix s.toList c.rest = false := by
    rw [Bool.eq_false_iff, Ne, Unicode.foldPrefix_iff (by simpa [hs] using hx), hs]
    rintro ⟨t, ht⟩
    exact hc (by simp [← ht])
  rw [ways_literal, hpre]
  rfl

/-! ## The directive and the separator -/

/-- The separator after a directive, followed by a text that starts with neither white space nor
an equals sign, is read first as the one equals sign or blank that an option line writes. -/
theorem head?_ways_optionalEquals {sep : Char} (hsep : sep = '=' ∨ sep = ' ') {r : List Char}
    (hr : ∀ x ∈ r.head?, Unicode.whiteSpace.contains x = false ∧ x ≠ '=') {c : Cursor n}
    (hc : c.rest = sep :: r) (caps : Captures) :
    (optionalEquals.ways c caps).head? = some (c.skip 1, caps) := by
  have hstop : r.takeWhile (CharClass.anyOf [.space]).admits = [] := by
    cases r with
    | nil => rfl
    | cons x r => simp [admits_space, (hr x rfl).1]
  have hrest : (c.skip 1).rest = r := by simp [hc]
  have hblanks : ((many space).ways (c.skip 1) caps).head? = some (c.skip 1, caps) := by
    rw [many, space, oneOf, head?_ways_many_chars, hrest, hstop, List.length_nil,
      Cursor.skip_zero]
  rw [optionalEquals, ways_alt, List.head?_append]
  rcases hsep with rfl | rfl
  · -- no blanks, the equals sign, no blanks
    have hnone : ((many space).ways c caps).head? = some (c, caps) := by
      have hws : Unicode.whiteSpace.contains '=' = false := by
        rw [Unicode.whiteSpace_grammar (by decide)]
        decide
      rw [many, space, oneOf, head?_ways_many_chars, hc]
      simp [admits_space, hws]
    have heq : ((literal "=").ways c caps).head? = some (c.skip 1, caps) := by
      rw [ways_literal_caseless (x := '=') rfl (Unicode.caseless_punctuation (by decide)) hc]
      rfl
    rw [head?_ways_append_of_head? (head?_ways_append_of_head? hnone heq) hblanks]
    rfl
  · -- the blank is no equals sign, so only the second branch reads it
    have hsp : Unicode.whiteSpace.contains ' ' = true := by
      rw [Unicode.whiteSpace_grammar (by decide)]
      decide
    have hsigns : ((many space ++ literal "=").ways c caps) = [] := by
      have hrun : (c.rest.takeWhile (CharClass.anyOf [.space]).admits).length = 1 := by
        rw [hc, List.takeWhile_cons_of_pos (by simp [admits_space, hsp]), hstop]
        rfl
      have hblank : (many space).ways c caps = [(c.skip 1, caps), (c.skip 0, caps)] := by
        rw [many, space, oneOf, ways_many_chars, hrun]
        rfl
      rw [ways_append, hblank, List.flatMap_cons, List.flatMap_cons, List.flatMap_nil,
        ways_literal_caseless_of_ne (x := '=') rfl (Unicode.caseless_punctuation (by decide)) (by
          rw [hrest]
          cases r with
          | nil => simp
          | cons x r => simpa using (hr x rfl).2),
        ways_literal_caseless_of_ne (x := '=') rfl (Unicode.caseless_punctuation (by decide)) (by simp [hc])]
      rfl
    have hone : ((plus space).ways c caps).head? = some (c.skip 1, caps) := by
      have hfirst : (space.ways c caps).head? = some (c.skip 1, caps) := by
        rw [space, oneOf, ways_chars, hc]
        simp [admits_space, hsp]
      exact head?_ways_append_of_head? hfirst hblanks
    rw [ways_append_eq_nil _ hsigns, hone]
    rfl

/-- The directive group reads nothing where the directive's name does not start. -/
theorem ways_directive_eq_nil {d : String} {c : Cursor n}
    (h : Unicode.foldPrefix d.toList c.rest = false) (caps : Captures) :
    (Pattern.group "directive" (literal d)).ways c caps = [] := by
  rw [ways_group, ways_literal, h]
  rfl

/-- At a directive followed by its separator and a text that starts with neither white space nor
an equals sign, the first way of the directive and the separator reads both and records the
directive. -/
theorem head?_ways_directive {d : String} (hd : d ∈ optionDirectives) {sep : Char}
    (hsep : sep = '=' ∨ sep = ' ') {r : List Char}
    (hr : ∀ x ∈ r.head?, Unicode.whiteSpace.contains x = false ∧ x ≠ '=') {c : Cursor n}
    (hc : c.rest = d.toList ++ sep :: r) (caps : Captures) :
    ((Pattern.group "directive" (literal d) ++ optionalEquals).ways c caps).head? =
      some (c.skip (d.toList.length + 1), ("directive", c.pos, c.pos + d.toList.length) :: caps) := by
  have hdA := (directive_chars hd).1
  have hpre : Unicode.foldPrefix d.toList c.rest = true := by
    rw [hc, Unicode.foldPrefix_append_of_le _ (Nat.le_refl _),
      Unicode.foldPrefix_iff_prefix_of_alphabet hdA fun y hy => List.mem_append_left _ (hdA y hy)]
  have hname : ((Pattern.group "directive" (literal d)).ways c caps).head? =
      some (c.skip d.toList.length, ("directive", c.pos, c.pos + d.toList.length) :: caps) := by
    rw [ways_group, ways_literal, if_pos hpre, ← String.length_toList]
    simp only [List.map_cons, List.map_nil, List.head?_cons,
      pos_skip_of_le (show d.toList.length ≤ c.rest.length by simp [hc])]
  refine head?_ways_append_of_head? hname ?_
  rw [head?_ways_optionalEquals hsep hr (by simp [hc]), Cursor.skip_skip]

/-- An option grammar reads nothing where its directive's name does not start. -/
theorem ways_option_eq_nil {d : String} (value : Pattern) {c : Cursor n}
    (h : Unicode.foldPrefix d.toList c.rest = false) (caps : Captures) :
    (option d value).ways c caps = [] :=
  ways_append_eq_nil _ (ways_append_eq_nil _ (ways_directive_eq_nil h caps))

theorem stringOption_ways_eq_nil {d : String} {c : Cursor n}
    (h : Unicode.foldPrefix d.toList c.rest = false) (caps : Captures) :
    (stringOption d).ways c caps = [] :=
  ways_append_eq_nil _ (ways_append_eq_nil _ (ways_append_eq_nil _
    (ways_append_eq_nil _ (ways_directive_eq_nil h caps))))

/-- At an option of the directive, the first way of an option grammar reads the directive, the
separator and the value, when the value's first way reads the value. -/
theorem head?_ways_option {d : String} (hd : d ∈ optionDirectives) {value : Pattern} {sep : Char}
    (hsep : sep = '=' ∨ sep = ' ') {W u : List Char}
    (hW : ∀ x ∈ (W ++ u).head?, Unicode.whiteSpace.contains x = false ∧ x ≠ '=')
    (hval : ∀ (c' : Cursor n) (caps' : Captures), c'.rest = W ++ u →
      (value.ways c' caps').head? = some (c'.skip W.length, caps'))
    {c : Cursor n} (hc : c.rest = (d.toList ++ sep :: W) ++ u) (caps : Captures) :
    ((option d value).ways c caps).head? =
      some (c.skip (d.toList ++ sep :: W).length,
        ("val", c.pos + (d.toList.length + 1), c.pos + (d.toList.length + 1) + W.length) ::
          ("directive", c.pos, c.pos + d.toList.length) :: caps) := by
  have hc' : c.rest = d.toList ++ sep :: (W ++ u) := by simp [hc]
  have hrest : (c.skip (d.toList.length + 1)).rest = W ++ u := by simp [hc']
  refine head?_ways_append_of_head? (head?_ways_directive hd hsep hW hc' caps) ?_
  rw [ways_group, List.head?_map, hval _ _ hrest, Cursor.skip_skip]
  have hlen : d.toList.length + 1 + W.length = (d.toList ++ sep :: W).length := by
    simp
    omega
  have hpos : (c.skip (d.toList.length + 1 + W.length)).pos =
      c.pos + (d.toList.length + 1) + W.length := by
    rw [pos_skip_of_le (by simp [hc']; omega)]
    omega
  have hpos₁ : (c.skip (d.toList.length + 1)).pos = c.pos + (d.toList.length + 1) :=
    pos_skip_of_le (by simp [hc'])
  simp only [Option.map_some]
  rw [hpos₁, hpos, hlen]

/-! ## Values -/

/-- The first way of a word value reads the whole value, when no word character follows. -/
theorem head?_ways_word_value {w u : List Char} (hw : w ≠ [])
    (hwc : ∀ x ∈ w, Unicode.word.contains x = true)
    (hu : ∀ x ∈ u.head?, Unicode.word.contains x = false) {c : Cursor n} (hc : c.rest = w ++ u)
    (caps : Captures) : (word.ways c caps).head? = some (c.skip w.length, caps) := by
  obtain ⟨v, hv, hvr, hvc⟩ := head?_ways_word hw hwc hu hc caps
  rw [hv]
  exact congrArg some (Prod.ext (Cursor.ext_rest (by simp [hvr, hc])) hvc)

/-- The first way of a `UNION` value reads the parenthesized list up to its closing
parenthesis. -/
theorem head?_ways_unionValue {x u : List Char} (hx : x ≠ []) (hxp : ')' ∉ x) {c : Cursor n}
    (hc : c.rest = ('(' :: x ++ [')']) ++ u) (caps : Captures) :
    ((literal "(" ++ plus (noneOf [.char ')']) ++ literal ")").ways c caps).head? =
      some (c.skip ('(' :: x ++ [')']).length, caps) := by
  obtain ⟨y, x', rfl⟩ := List.exists_cons_of_ne_nil hx
  have hcaseless : Unicode.Caseless ')' := Unicode.caseless_punctuation (by decide)
  have hadm : ∀ z ∈ x', (CharClass.noneOf [.char ')']).admits z = true := fun z hz =>
    (admits_noneOf_caseless hcaseless z).2 fun h => hxp (h ▸ List.mem_cons_of_mem y hz)
  have hopen : ((literal "(").ways c caps).head? = some (c.skip 1, caps) := by
    rw [ways_literal_caseless (x := '(') rfl (Unicode.caseless_punctuation (by decide))
      (r := y :: (x' ++ ')' :: u)) (by simp [hc])]
    rfl
  have hfirst : ((noneOf [.char ')']).ways (c.skip 1) caps).head? = some (c.skip 2, caps) := by
    rw [noneOf, ways_chars]
    simp [hc, (admits_noneOf_caseless hcaseless y).2 fun h => hxp (h ▸ List.mem_cons_self),
      Cursor.skip_skip]
  have hrun : ((Pattern.star true (noneOf [.char ')'])).ways (c.skip 2) caps).head? =
      some (c.skip (2 + x'.length), caps) := by
    rw [noneOf, head?_ways_many_chars, Cursor.skip_skip]
    have hstop : (CharClass.noneOf [.char ')']).admits ')' = false := by
      simpa using (admits_noneOf_caseless hcaseless ')').not
    simp [hc, List.takeWhile_append_of_pos hadm, hstop]
  have hclose : ((literal ")").ways (c.skip (2 + x'.length)) caps).head? =
      some (c.skip ('(' :: (y :: x') ++ [')']).length, caps) := by
    rw [ways_literal_caseless (x := ')') rfl hcaseless (r := u)
      (by rw [Cursor.rest_skip, hc, show 2 + x'.length = x'.length + 1 + 1 by omega]; simp),
      Cursor.skip_skip, show 2 + x'.length + 1 = ('(' :: (y :: x') ++ [')']).length by simp; omega]
    rfl
  exact head?_ways_append_of_head? (head?_ways_append_of_head? hopen
    (head?_ways_append_of_head? hfirst hrun)) hclose

/-- The first way of a `TABLESPACE` value reads a word and then the first ` STORAGE DISK`. -/
theorem head?_ways_tablespaceValue {w u : List Char}
    (hw : ∀ x ∈ w, Unicode.word.contains x = true) {c : Cursor n}
    (hc : c.rest = (w ++ " STORAGE DISK".toList) ++ u) (caps : Captures) :
    ((manyLazy anyChar ++ literal " STORAGE DISK").ways c caps).head? =
      some (c.skip (w ++ " STORAGE DISK".toList).length, caps) := by
  induction w generalizing c with
  | nil =>
    -- the storage starts here
    have hpre : Unicode.foldPrefix " STORAGE DISK".toList c.rest = true := by
      rw [hc, List.nil_append, Unicode.foldPrefix_append_of_le _ (Nat.le_refl _)]
      exact Unicode.foldPrefix_grammarWord (by decide)
    refine head?_ways_manyLazy_of_head? ?_
    rw [ways_literal, if_pos hpre, ← String.length_toList]
    rfl
  | cons x w ih =>
    -- a word character is no blank, so the storage does not start here
    have hx := hw x List.mem_cons_self
    have hnone : (literal " STORAGE DISK").ways c caps = [] := by
      have hpre : Unicode.foldPrefix " STORAGE DISK".toList c.rest = false := by
        have hsp : x ∉ Unicode.foldOrbit ' ' := by
          rw [show Unicode.foldOrbit ' ' = [' '] from Unicode.caseless_punctuation (by decide), List.mem_singleton]
          rintro rfl
          exact absurd hx (by rw [Unicode.word_space]; decide)
        rw [hc]
        simp [show " STORAGE DISK".toList = ' ' :: "STORAGE DISK".toList from rfl, hsp]
      rw [ways_literal, hpre]
      rfl
    have hadm : (CharClass.noneOf [.char '\n']).admits x = true :=
      (admits_noneOf_caseless (Unicode.caseless_punctuation (by decide)) x).2 fun h => by
        subst h
        rw [Unicode.word_grammar (by decide)] at hx
        exact absurd hx (by decide)
    rw [manyLazy, anyChar, noneOf, head?_ways_manyLazy_chars_of_nil
      (r := w ++ " STORAGE DISK".toList ++ u) (by simp [hc]) hadm hnone]
    rw [← noneOf, ← anyChar, ← manyLazy, ih (fun z hz => hw z (List.mem_cons_of_mem x hz))
      (c := c.skip 1) (by simp [hc]), Cursor.skip_skip]
    simp [Nat.add_comm]

theorem caseless_quotes : ∀ y ∈ "''".toList, Unicode.Caseless y := by
  intro y hy
  rw [show "''".toList = ['\'', '\''] from rfl] at hy
  simp only [List.mem_cons, List.not_mem_nil, or_false, or_self] at hy
  subst hy
  exact Unicode.caseless_punctuation (by decide)

/-- One piece of a quoted value: a character other than a quote, or a doubled quote. -/
theorem ways_quotedPiece_of_ne {c : Cursor n} {x : Char} {r : List Char} (hc : c.rest = x :: r)
    (hx : x ≠ '\'') (caps : Captures) :
    (Pattern.alt (noneOf [.char '\'']) (literal "''")).ways c caps = [(c.skip 1, caps)] := by
  have hquote : Unicode.Caseless '\'' := Unicode.caseless_punctuation (by decide)
  have hnone : (literal "''").ways c caps = [] := by
    have hpre : Unicode.foldPrefix "''".toList c.rest = false := by
      rw [Bool.eq_false_iff, Ne, Unicode.foldPrefix_iff caseless_quotes, hc]
      rintro ⟨t, ht⟩
      rw [show "''".toList = ['\'', '\''] from rfl] at ht
      simp only [List.cons_append, List.cons.injEq] at ht
      exact hx ht.1.symm
    rw [ways_literal, hpre]
    rfl
  rw [ways_alt, hnone, List.append_nil, noneOf, ways_chars, hc]
  simp [(admits_noneOf_caseless hquote x).2 hx]

theorem ways_quotedPiece_pair {c : Cursor n} {r : List Char} (hc : c.rest = '\'' :: '\'' :: r)
    (caps : Captures) :
    (Pattern.alt (noneOf [.char '\'']) (literal "''")).ways c caps = [(c.skip 2, caps)] := by
  have hquote : Unicode.Caseless '\'' := Unicode.caseless_punctuation (by decide)
  have hpre : Unicode.foldPrefix "''".toList c.rest = true := by
    rw [Unicode.foldPrefix_iff caseless_quotes, hc]
    exact ⟨r, rfl⟩
  have hadm : (CharClass.noneOf [.char '\'']).admits '\'' = false := by
    simpa using (admits_noneOf_caseless hquote '\'').not
  rw [ways_alt, noneOf, ways_chars, hc, ways_literal, if_pos hpre]
  simp [hadm]
  rfl

theorem ways_quotedPiece_end {c : Cursor n} {u : List Char} (hc : c.rest = '\'' :: u)
    (hu : u.head? ≠ some '\'') (caps : Captures) :
    (Pattern.alt (noneOf [.char '\'']) (literal "''")).ways c caps = [] := by
  have hquote : Unicode.Caseless '\'' := Unicode.caseless_punctuation (by decide)
  have hpre : Unicode.foldPrefix "''".toList c.rest = false := by
    rw [Bool.eq_false_iff, Ne, Unicode.foldPrefix_iff caseless_quotes, hc]
    rintro ⟨t, ht⟩
    exact hu (by simp [show "''".toList = ['\'', '\''] from rfl] at ht; simp [← ht])
  have hadm : (CharClass.noneOf [.char '\'']).admits '\'' = false := by
    simpa using (admits_noneOf_caseless hquote '\'').not
  rw [ways_alt, noneOf, ways_chars, hc, ways_literal, hpre]
  simp [hadm]

/-- Over a text with its quotes doubled, followed by a quote that no quote follows, the first
way of the quoted value reads the text. -/
theorem head?_ways_quotedValue (y : List Char) {u : List Char} (hu : u.head? ≠ some '\'')
    {c : Cursor n}
    (hc : c.rest = (y.flatMap fun x => if x = '\'' then ['\'', '\''] else [x]) ++ '\'' :: u)
    (caps : Captures) :
    (quotedOptionValue.ways c caps).head? =
      some (c.skip (y.flatMap fun x => if x = '\'' then ['\'', '\''] else [x]).length, caps) := by
  induction y generalizing c with
  | nil =>
    rw [quotedOptionValue, many, ways_many_of_nil (ways_quotedPiece_end (by simpa using hc) hu caps)]
    simp
  | cons x y ih =>
    by_cases hx : x = '\''
    · -- a doubled quote
      subst hx
      have hc' : c.rest = '\'' :: '\'' :: ((y.flatMap fun x => if x = '\'' then ['\'', '\''] else
          [x]) ++ '\'' :: u) := by simp [hc]
      rw [quotedOptionValue, many, head?_ways_many_of_single (ways_quotedPiece_pair hc' caps)
        (by simp [hc']), ← many, ← quotedOptionValue, ih (by simp [hc']), Cursor.skip_skip]
      congr 2
      simp only [List.flatMap_cons, List.length_append]
      rfl
    · -- any other character
      have hc' : c.rest = x :: ((y.flatMap fun x => if x = '\'' then ['\'', '\''] else [x]) ++
          '\'' :: u) := by simp [hc, hx]
      rw [quotedOptionValue, many, head?_ways_many_of_single (ways_quotedPiece_of_ne hc' hx caps)
        (by simp [hc']), ← many, ← quotedOptionValue, ih (by simp [hc']), Cursor.skip_skip]
      simp [hx, Nat.add_comm]

/-- At a string option of the directive, the first way of its grammar reads the directive, the
equals sign and the quoted value, and records the inside of the quotes. -/
theorem head?_ways_stringOption {d : String} (hd : d ∈ optionDirectives) (y : List Char)
    {u : List Char} (hu : u.head? ≠ some '\'') {c : Cursor n}
    (hc : c.rest = (d.toList ++ '=' :: ('\'' :: (y.flatMap fun x =>
      if x = '\'' then ['\'', '\''] else [x]) ++ ['\''])) ++ u) (caps : Captures) :
    ((stringOption d).ways c caps).head? =
      some (c.skip (d.toList ++ '=' :: ('\'' :: (y.flatMap fun x =>
          if x = '\'' then ['\'', '\''] else [x]) ++ ['\''])).length,
        ("val", c.pos + (d.toList.length + 2), c.pos + (d.toList.length + 2) +
          (y.flatMap fun x => if x = '\'' then ['\'', '\''] else [x]).length) ::
          ("directive", c.pos, c.pos + d.toList.length) :: caps) := by
  generalize hE : (y.flatMap fun x => if x = '\'' then ['\'', '\''] else [x]) = E at hc ⊢
  have hquote : Unicode.Caseless '\'' := Unicode.caseless_punctuation (by decide)
  have hc' : c.rest = d.toList ++ '=' :: ('\'' :: (E ++ '\'' :: u)) := by simp [hc]
  -- the directive and the sign, the opening quote, the inside, the closing quote
  have h₁ := head?_ways_directive hd (Or.inl rfl) (by simp; rw [Unicode.whiteSpace_grammar (by decide)]; decide) hc' caps
  have h₂ : ((literal "'").ways (c.skip (d.toList.length + 1))
      (("directive", c.pos, c.pos + d.toList.length) :: caps)).head? =
      some (c.skip (d.toList.length + 2), ("directive", c.pos, c.pos + d.toList.length) :: caps) := by
    rw [ways_literal_caseless (x := '\'') rfl hquote (r := E ++ '\'' :: u) (by simp [hc']),
      Cursor.skip_skip]
    rfl
  have h₃ : ((Pattern.group "val" quotedOptionValue).ways (c.skip (d.toList.length + 2))
      (("directive", c.pos, c.pos + d.toList.length) :: caps)).head? =
      some (c.skip (d.toList.length + 2 + E.length),
        ("val", c.pos + (d.toList.length + 2), c.pos + (d.toList.length + 2) + E.length) ::
          ("directive", c.pos, c.pos + d.toList.length) :: caps) := by
    rw [ways_group, List.head?_map, ← hE, head?_ways_quotedValue y hu (by simp [hc', hE]), hE,
      Cursor.skip_skip]
    simp only [Option.map_some]
    rw [pos_skip_of_le (by simp [hc']), pos_skip_of_le (by simp [hc']; omega)]
    simp only [Nat.add_assoc]
  have h₄ : ((literal "'").ways (c.skip (d.toList.length + 2 + E.length))
      (("val", c.pos + (d.toList.length + 2), c.pos + (d.toList.length + 2) + E.length) ::
        ("directive", c.pos, c.pos + d.toList.length) :: caps)).head? =
      some (c.skip (d.toList ++ '=' :: ('\'' :: E ++ ['\''])).length,
        ("val", c.pos + (d.toList.length + 2), c.pos + (d.toList.length + 2) + E.length) ::
          ("directive", c.pos, c.pos + d.toList.length) :: caps) := by
    rw [ways_literal_caseless (x := '\'') rfl hquote (r := u)
      (by rw [Cursor.rest_skip, hc', show d.toList.length + 2 + E.length =
        d.toList.length + (E.length + 2) by omega]; simp), Cursor.skip_skip]
    have hlen : d.toList.length + 2 + E.length + 1 = (d.toList ++ '=' :: ('\'' :: E ++ ['\''])).length := by
      simp
      omega
    rw [hlen]
    rfl
  exact head?_ways_append_of_head? (head?_ways_append_of_head? (head?_ways_append_of_head? h₁ h₂)
    h₃) h₄

/-- The grammars of options can be searched by their compiled programs. -/
theorem option_searchable (d : String) {value : Pattern} (hp : value.Progressive)
    (hn : value.groupNames = []) :
    (option d value).Progressive ∧ (option d value).groupNames.Nodup := by
  constructor
  · simp only [option, progressive_append, Progressive, progressive_literal, hp, Bool.true_and,
      Bool.and_true]
    decide
  · simp only [option, groupNames_append, groupNames, groupNames_literal, hn]
    decide

theorem stringOption_searchable (d : String) :
    (stringOption d).Progressive ∧ (stringOption d).groupNames.Nodup := by
  constructor
  · simp only [stringOption, progressive_append, Progressive, progressive_literal, Bool.true_and]
    decide
  · simp only [stringOption, groupNames_append, groupNames, groupNames_literal]
    decide

end Grammar

namespace Reader

open Grammar Pattern

/-! ## Reading a string value back -/

/-- Undoing the doubled backslashes and then the doubled quotes gives a quoted value back. -/
theorem unescapeOption_escapedValue (v : String) :
    unescapeOption (String.ofList (escapedValue v)) = v := by
  -- the two doublings commute, so the backslashes can be undone first
  have hswap : escapedValue v = ((v.toList.flatMap fun c =>
      if c = '\'' then ['\'', '\''] else [c]).flatMap fun c =>
        if c = '\\' then ['\\', '\\'] else [c]) := by
    simp only [escapedValue, List.flatMap_assoc]
    congr 1
    funext c
    by_cases h₁ : c = '\\'
    · subst h₁
      simp
    · by_cases h₂ : c = '\''
      · subst h₂
        simp
      · simp [h₁, h₂]
  simp only [unescapeOption, Text.replace, String.toList_ofList, hswap]
  rw [Text.replaceChars_of_ne (by simp), Text.replaceChars_of_ne (by simp)]
  simp only [show "\\".toList = ['\\'] from rfl, show "'".toList = ['\''] from rfl,
    show "\\\\".toList = ['\\', '\\'] from rfl, show "''".toList = ['\'', '\''] from rfl]
  rw [← Text.replaceNonempty_singleton '\\' ['\\', '\\'] (by simp),
    Text.replaceNonempty_replaceNonempty (by simp) (by simp) (by simp),
    ← Text.replaceNonempty_singleton '\'' ['\'', '\''] (by simp),
    Text.replaceNonempty_replaceNonempty (by simp) (by simp) (by simp), String.ofList_toList]

/-! ## Grammars that read options -/

/-- What the scanner needs of the grammar `g` of the options of directive `d`: its compiled
program can search it, it has no way where the directive's name does not start, and its first
way at an option of the directive, as a line writes it, reads the whole option, records the
directive as the group `directive` and, as the group `val`, a piece of the option that the
grammar's cleaning turns back into the value. -/
structure ReadsOptionsOf (d : String) (g : Pattern × (String → String)) : Prop where
  progressive : g.1.Progressive
  nodup : g.1.groupNames.Nodup
  nil : ∀ {N : Nat} (c : Cursor N) (caps : Captures),
    Unicode.foldPrefix d.toList c.rest = false → g.1.ways c caps = []
  first : ∀ {v : String}, ScannableOption (d, v) → ∀ {N : Nat} (c : Cursor N) (caps : Captures)
    {u : List Char}, AfterOption u → c.rest = (Render.optionText d v).toList ++ u →
    ∃ o len, o + len ≤ (Render.optionText d v).toList.length ∧
      g.2 (String.ofList (((Render.optionText d v).toList.drop o).take len)) = v ∧
      (g.1.ways c caps).head? = some (c.skip (Render.optionText d v).toList.length,
        ("val", c.pos + o, c.pos + o + len) :: ("directive", c.pos, c.pos + d.toList.length) :: caps)

theorem optionSep_of_ne {d : String} (h : d ≠ "TABLESPACE") : optionSep d = '=' := by
  simp [optionSep, h]

/-- A value that starts with a word character starts with neither white space nor an equals
sign. -/
theorem head?_of_word {w u : List Char} (hne : w ≠ [])
    (hw : ∀ x ∈ w, Unicode.word.contains x = true) :
    ∀ x ∈ (w ++ u).head?, Unicode.whiteSpace.contains x = false ∧ x ≠ '=' := by
  obtain ⟨y, w', rfl⟩ := List.exists_cons_of_ne_nil hne
  have hy := hw y List.mem_cons_self
  intro x hx
  obtain rfl : x = y := by simpa using hx.symm
  refine ⟨Unicode.whiteSpace_contains_of_word hy, ?_⟩
  rintro rfl
  rw [Unicode.word_grammar (by decide)] at hy
  exact absurd hy (by decide)

theorem readsOptionsOf_string {d : String} (hd : d ∈ stringDirectives) :
    ReadsOptionsOf d (stringOption d, unescapeOption) where
  progressive := (stringOption_searchable d).1
  nodup := (stringOption_searchable d).2
  nil _ caps h := stringOption_ways_eq_nil h caps
  first := by
    intro v _ N c caps u hu hc
    have hsep : optionSep d = '=' := optionSep_of_ne (by rintro rfl; simp [stringDirectives] at hd)
    have hwritten : (writtenValue d v).toList = '\'' :: escapedValue v ++ ['\''] := by
      simp [writtenValue, hd, escaped_toList]
    rw [optionText_toList, hsep, hwritten] at hc ⊢
    refine ⟨d.toList.length + 2, (escapedValue v).length,
      by simp only [List.length_append, List.length_cons]; omega, ?_, ?_⟩
    · have hinside : ((d.toList ++ '=' :: ('\'' :: escapedValue v ++ ['\''])).drop
          (d.toList.length + 2)).take (escapedValue v).length = escapedValue v := by
        rw [show d.toList.length + 2 = (d.toList ++ ['=', '\'']).length by simp,
          show d.toList ++ '=' :: ('\'' :: escapedValue v ++ ['\'']) =
            (d.toList ++ ['=', '\'']) ++ (escapedValue v ++ ['\'']) by simp,
          List.drop_left, List.take_left]
      rw [hinside]
      exact unescapeOption_escapedValue v
    · exact head?_ways_stringOption (by simp [optionDirectives, hd]) _
        (fun h => absurd (hu.head?_eq '\'' h) (by decide)) hc caps

/-- An option grammar whose value pattern reads a written value to its end reads options. -/
theorem first_option {d : String} (hd : d ∈ optionDirectives) {value : Pattern} {v : String}
    {sep : Char} (hsep : sep = '=' ∨ sep = ' ')
    (htext : (Render.optionText d v).toList = d.toList ++ sep :: v.toList)
    (hW : ∀ u : List Char, ∀ x ∈ (v.toList ++ u).head?,
      Unicode.whiteSpace.contains x = false ∧ x ≠ '=')
    (hval : ∀ {N : Nat} (c' : Cursor N) (caps' : Captures) {u : List Char}, AfterOption u →
      c'.rest = v.toList ++ u → (value.ways c' caps').head? = some (c'.skip v.toList.length, caps'))
    {N : Nat} (c : Cursor N) (caps : Captures) {u : List Char} (hu : AfterOption u)
    (hc : c.rest = (Render.optionText d v).toList ++ u) :
    ∃ o len, o + len ≤ (Render.optionText d v).toList.length ∧
      id (String.ofList (((Render.optionText d v).toList.drop o).take len)) = v ∧
      ((option d value).ways c caps).head? = some (c.skip (Render.optionText d v).toList.length,
        ("val", c.pos + o, c.pos + o + len) :: ("directive", c.pos, c.pos + d.toList.length) ::
          caps) := by
  rw [htext] at hc ⊢
  refine ⟨d.toList.length + 1, v.toList.length,
    by simp only [List.length_append, List.length_cons]; omega, by simp, ?_⟩
  exact head?_ways_option hd hsep (hW u) (fun c' caps' h => hval c' caps' hu h) hc caps

theorem readsOptionsOf_word {d : String} (hd : d ∈ wordDirectives) :
    ReadsOptionsOf d (option d word, id) where
  progressive := (option_searchable d (by decide) (by decide)).1
  nodup := (option_searchable d (by decide) (by decide)).2
  nil _ caps h := ways_option_eq_nil _ h caps
  first := by
    intro v hv N c caps u hu hc
    have hns : d ∉ stringDirectives := not_mem_stringDirectives (by simp [hd])
    cases hv with
    | string hs => exact absurd hs hns
    | word _ hne hw _ =>
      have hne' : v.toList ≠ [] := by simpa using hne
      refine first_option (by simp [optionDirectives, hd]) (Or.inl rfl) ?_
        (fun u => head?_of_word hne' hw) ?_ c caps hu hc
      · rw [optionText_toList, writtenValue_of_not_mem hns,
          optionSep_of_ne (by rintro rfl; simp [wordDirectives] at hd)]
      · intro N c' caps' u hu hc'
        exact head?_ways_word_value hne' hw
          (fun x hx => by rw [hu.head?_eq x hx]; exact Unicode.word_space) hc' caps'
    | union => simp [wordDirectives] at hd
    | tablespace => simp [wordDirectives] at hd

/-- An option of `UNION` is a list in parentheses, not empty and without closing parenthesis. -/
theorem ScannableOption.union_value {v : String} (h : ScannableOption ("UNION", v)) :
    ∃ x, v = "(" ++ x ++ ")" ∧ x ≠ "" ∧ ')' ∉ x.toList := by
  generalize he : ("UNION", v) = e at h
  cases h with
  | string hd =>
    obtain ⟨rfl, -⟩ := Prod.mk.inj he
    simp [stringDirectives] at hd
  | word hd =>
    obtain ⟨rfl, -⟩ := Prod.mk.inj he
    simp [wordDirectives] at hd
  | @union x hne hx _ => exact ⟨x, (Prod.mk.inj he).2, hne, hx⟩
  | tablespace => exact absurd (Prod.mk.inj he).1 (by decide)

/-- An option of `TABLESPACE` is a word and the storage. -/
theorem ScannableOption.tablespace_value {v : String} (h : ScannableOption ("TABLESPACE", v)) :
    ∃ w, v = w ++ " STORAGE DISK" ∧ w ≠ "" ∧ ∀ x ∈ w.toList, Unicode.word.contains x = true := by
  generalize he : ("TABLESPACE", v) = e at h
  cases h with
  | string hd =>
    obtain ⟨rfl, -⟩ := Prod.mk.inj he
    simp [stringDirectives] at hd
  | word hd =>
    obtain ⟨rfl, -⟩ := Prod.mk.inj he
    simp [wordDirectives] at hd
  | union => exact absurd (Prod.mk.inj he).1 (by decide)
  | @tablespace w hne hw _ => exact ⟨w, (Prod.mk.inj he).2, hne, hw⟩

theorem readsOptionsOf_union :
    ReadsOptionsOf "UNION" (option "UNION" (literal "(" ++ plus (noneOf [.char ')']) ++
      literal ")"), id) where
  progressive := (option_searchable _ (by decide) (by decide)).1
  nodup := (option_searchable _ (by decide) (by decide)).2
  nil _ caps h := ways_option_eq_nil _ h caps
  first := by
    intro v hv N c caps u hu hc
    obtain ⟨x, rfl, hne, hx⟩ := hv.union_value
    have hne' : x.toList ≠ [] := by simpa using hne
    have hW : ("(" ++ x ++ ")").toList = '(' :: x.toList ++ [')'] := by simp
    refine first_option (by simp [optionDirectives, shapedDirectives]) (Or.inl rfl) ?_
      (fun u y hy => ?_) ?_ c caps hu hc
    · rw [optionText_toList, writtenValue_of_not_mem (by simp [stringDirectives]),
        optionSep_of_ne (by decide)]
    · rw [hW] at hy
      obtain rfl : y = '(' := by simpa using hy.symm
      rw [Unicode.whiteSpace_grammar (by decide)]
      decide
    · intro N c' caps' u _ hc'
      rw [hW] at hc' ⊢
      exact head?_ways_unionValue hne' hx hc' caps'

theorem readsOptionsOf_tablespace :
    ReadsOptionsOf "TABLESPACE" (option "TABLESPACE" (manyLazy anyChar ++ literal " STORAGE DISK"),
      id) where
  progressive := (option_searchable _ (by decide) (by decide)).1
  nodup := (option_searchable _ (by decide) (by decide)).2
  nil _ caps h := ways_option_eq_nil _ h caps
  first := by
    intro v hv N c caps u hu hc
    obtain ⟨w, rfl, hne, hw⟩ := hv.tablespace_value
    have hne' : w.toList ≠ [] := by simpa using hne
    have hW : (w ++ " STORAGE DISK").toList = w.toList ++ " STORAGE DISK".toList := by simp
    refine first_option (by simp [optionDirectives, shapedDirectives]) (Or.inr rfl) ?_
      (fun u => ?_) ?_ c caps hu hc
    · rw [optionText_toList, writtenValue_of_not_mem (by simp [stringDirectives])]
      rfl
    · rw [hW, List.append_assoc]
      exact head?_of_word hne' hw
    · intro N c' caps' u _ hc'
      rw [hW] at hc' ⊢
      exact head?_ways_tablespaceValue hw hc' caps'

/-- A grammar of a directive that no option line holds reads no option. -/
theorem readsOptionsOf_of_not_mem {d : String} (hd : d ∉ lineDirectives) {value : Pattern}
    (hp : value.Progressive) (hn : value.groupNames = []) : ReadsOptionsOf d (option d value, id) where
  progressive := (option_searchable d hp hn).1
  nodup := (option_searchable d hp hn).2
  nil _ caps h := ways_option_eq_nil _ h caps
  first hv := absurd hv.mem_lineDirectives hd

/-- The grammars of the string directives, in the order of reading, read their options. -/
theorem stringGrammars_read :
    List.Forall₂ ReadsOptionsOf stringDirectives
      (stringDirectives.map fun d => (stringOption d, unescapeOption)) :=
  List.forall₂_map_right_iff.2 (List.forall₂_same.2 fun _ hd => readsOptionsOf_string hd)

/-- The grammars of the other directives, in the order of reading, read their options. -/
theorem otherGrammars_read :
    List.Forall₂ ReadsOptionsOf (wordDirectives ++ shapedDirectives.map (·.1))
      (wordDirectives.map (fun d => (option d word, id)) ++
        shapedDirectives.map fun (d, v) => (option d v, id)) := by
  refine List.rel_append
    (List.forall₂_map_right_iff.2 (List.forall₂_same.2 fun _ hd => readsOptionsOf_word hd)) ?_
  simp only [shapedDirectives, List.map_cons, List.map_nil]
  exact .cons readsOptionsOf_union (.cons readsOptionsOf_tablespace
    (.cons (readsOptionsOf_of_not_mem (by simp [lineDirectives, stringDirectives, wordDirectives])
      (by decide) (by decide)) .nil))

end Reader

end TableDdl

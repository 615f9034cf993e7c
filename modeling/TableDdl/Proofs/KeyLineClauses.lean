import TableDdl.Proofs.ForeignKeyLines

/-!
# The clauses after a key's column list

After its column list a key line may hold, each optional and in this order, an index type after
`USING`, a key block size after `KEY_BLOCK_SIZE` and an equals sign or a space, a parser after
`WITH PARSER`, a comment as a SQL string, a versioned comment between `/*` and `*/`, and a final
comma. Each clause has a first-way lemma over its written form followed by any text that does
not start the next clauses (`head?_ways_tokenClause`, `head?_ways_keyBlockClause`,
`head?_ways_commentClause`, `head?_ways_versionClause`), and together they read the whole tail
of a readable key line (`head?_ways_keyTail`). Where no clause, comma or end stands, nothing of
the tail can be read (`keyTail_ways_eq_nil`): this is what stops the lazy column group at the
right parenthesis.
-/

namespace TableDdl

open Pattern

namespace Cursor

variable {n : Nat}

/-- Skipping a written text from a cursor that stands before it leaves the text after it. -/
theorem skip_text_rest {c : Cursor n} {x : String} {t : List Char} (h : c.rest = x.toList ++ t) :
    (c.skip x.length).rest = t := by
  rw [rest_skip, h, ← String.length_toList, List.drop_left]

theorem skip_text_pos {c : Cursor n} {x : String} {t : List Char} (h : c.rest = x.toList ++ t) :
    (c.skip x.length).pos = c.pos + x.length :=
  pos_skip_of_le (by rw [h, List.length_append, String.length_toList]; omega)

end Cursor

namespace Pattern

variable {n : Nat}

/-- A lazy run of a class followed by `K` passes over admitted characters at which `K` has no
way: what it gives is what it gives after them. -/
theorem flatMap_ways_lazy_skip {α : Type} {cls : CharClass} (K : Cursor n × Captures → List α)
    {u r : List Char} (hu : ∀ y ∈ u, cls.admits y = true) {c : Cursor n} (hc : c.rest = u ++ r)
    (caps : Captures) (hK : ∀ j < u.length, K (c.skip j, caps) = []) :
    ((Pattern.star false (.chars cls)).ways c caps).flatMap K =
      ((Pattern.star false (.chars cls)).ways (c.skip u.length) caps).flatMap K := by
  -- induction on the characters passed over: at each `K` fails and the run goes on
  induction u generalizing c with
  | nil => simp
  | cons y u ih =>
    have h0 : K (c, caps) = [] := by simpa using hK 0 (by simp)
    have hc' : (c.skip 1).rest = u ++ r := by simp [hc]
    have hnext := ih (fun z hz => hu z (List.mem_cons_of_mem y hz)) hc'
      (fun j hj => by rw [Cursor.skip_skip]; exact hK (1 + j) (by simp; omega))
    rw [flatMap_ways_lazy_chars, h0, List.nil_append, hc]
    simp only [List.cons_append, hu y List.mem_cons_self, if_true]
    rw [hnext, Cursor.skip_skip, List.length_cons, Nat.add_comm]

/-- A greedy repetition goes on first from the first way of its pattern, when that way reads. -/
theorem head?_ways_many_of_head? {p : Pattern} {c : Cursor n} {caps : Captures}
    {v : Cursor n × Captures} (h : (p.ways c caps).head? = some v) (hv : c.pos < v.1.pos) :
    ((Pattern.star true p).ways c caps).head? = ((Pattern.star true p).ways v.1 v.2).head? := by
  have hne : (Pattern.star true p).ways v.1 v.2 ≠ [] := by
    rw [ways_star]
    simp
  obtain ⟨w, ws, hws⟩ := List.exists_cons_of_ne_nil hne
  obtain ⟨vs, hvs⟩ := List.head?_eq_some_iff.1 h
  conv_lhs => rw [ways_star, hvs]
  simp [hv, hws]

/-- One or more repetitions go on first from the first way of the pattern. -/
theorem head?_ways_plus_of_head? {p : Pattern} {c : Cursor n} {caps : Captures}
    {v : Cursor n × Captures} (h : (p.ways c caps).head? = some v) :
    ((plus p).ways c caps).head? = ((Pattern.star true p).ways v.1 v.2).head? := by
  have hne : (Pattern.star true p).ways v.1 v.2 ≠ [] := by
    rw [ways_star]
    simp
  obtain ⟨w, ws, hws⟩ := List.exists_cons_of_ne_nil hne
  obtain ⟨vs, hvs⟩ := List.head?_eq_some_iff.1 h
  rw [plus, ways_append, hvs]
  simp [hws]

/-- After a greedy run of a class, a literal has no way where it starts nowhere in the text. -/
theorem flatMap_ways_many_literal_nowhere {k : CharClass} {s : String}
    (F : Nat → Captures → Captures) {c : Cursor n}
    (hc : ∀ j ≤ c.rest.length, Unicode.foldPrefix s.toList (c.rest.drop j) = false)
    (caps : Captures) :
    ((Pattern.star true (.chars k)).ways c caps).flatMap
      (fun w => (literal s).ways w.1 (F w.1.pos w.2)) = [] := by
  refine List.flatMap_eq_nil_iff.2 fun w hw => ?_
  obtain ⟨u, hu⟩ := ways_suffix _ c caps w hw
  have hrest : w.1.rest = c.rest.drop u.length := by simp [hu]
  rw [ways_literal, hrest, hc u.length (by simp [hu])]
  rfl

/-- After a greedy run of a class that admits every character left, a literal is read first at
the last place where it stands. -/
theorem head?_many_chars_literal_last {cls : CharClass} {s : String}
    (hself : Unicode.foldPrefix s.toList s.toList = true) (F : Nat → Captures → Captures)
    {r : List Char} (hr : ∀ j, 0 < j → Unicode.foldPrefix s.toList ((s.toList ++ r).drop j) = false)
    (u : List Char) (hadm : ∀ y ∈ u ++ s.toList ++ r, cls.admits y = true) {c : Cursor n}
    (hc : c.rest = u ++ s.toList ++ r) (caps : Captures) :
    (((Pattern.star true (.chars cls)).ways c caps).flatMap
      (fun w => (literal s).ways w.1 (F w.1.pos w.2))).head? =
        some ((c.skip u.length).skip s.length, F (c.pos + u.length) caps) := by
  -- induction on the characters before the last place: each is read before the run stops
  induction u generalizing c with
  | nil =>
    have hlit : (literal s).ways c (F c.pos caps) = [(c.skip s.length, F c.pos caps)] :=
      ways_literal_self hself (by simpa using hc) _
    rw [flatMap_ways_many_chars]
    cases hcr : c.rest with
    | nil => simp [hlit]
    | cons x t =>
      have hx : cls.admits x = true := hadm x (by rw [← hc, hcr]; exact List.mem_cons_self)
      have hnone := flatMap_ways_many_literal_nowhere (k := cls) F (c := c.skip 1)
        (fun j _ => by
          rw [Cursor.rest_skip, List.drop_drop, hc, List.nil_append]
          exact hr (1 + j) (by omega)) caps
      simp [hx, hnone, hlit]
  | cons y u ih =>
    have hady : cls.admits y = true := hadm y (by simp)
    have hc' : (c.skip 1).rest = u ++ s.toList ++ r := by simp [hc]
    rw [flatMap_ways_many_chars, hc]
    simp only [List.cons_append, hady, if_true, List.head?_append,
      ih (fun z hz => hadm z (by simp at hz ⊢; tauto)) hc']
    have hmin : min 1 c.rest.length = 1 := by simp [hc]
    simp [Cursor.skip_skip, hmin, Nat.add_comm, Nat.add_left_comm]

end Pattern

namespace Grammar

variable {n : Nat}

/-! ## Tokens -/

/-- A value that the token pattern reads whole: not empty, with neither white space nor a
comma in it. -/
def IsToken (x : String) : Prop :=
  x ≠ "" ∧ ∀ y ∈ x.toList, Unicode.whiteSpace.contains y = false ∧ y ≠ ','

theorem admits_token (y : Char) :
    (CharClass.noneOf [.space, .char ',']).admits y = true ↔
      Unicode.whiteSpace.contains y = false ∧ y ≠ ',' := by
  have hcomma : Unicode.foldOrbit ',' = [','] := Unicode.caseless_punctuation (by decide)
  simp only [CharClass.noneOf, CharClass.anyOf, CharClass.admits, List.flatMap_cons,
    List.flatMap_nil, hcomma, List.map_cons, List.map_nil, List.append_nil, List.any_cons,
    List.any_nil, ClassItem.admits, Bool.or_false, List.singleton_append]
  by_cases h : y = ','
  · subst h
    simp
  · cases hw : Unicode.whiteSpace.contains y <;> simp [h, Ne.symm h]

/-- What may follow a token: a space, a comma or nothing. -/
def TokenEnd (t : List Char) : Prop :=
  t.head? = none ∨ t.head? = some ' ' ∨ t.head? = some ','

/-- The first way of the token pattern reads a token whole. -/
theorem head?_ways_token {x : String} (hx : IsToken x) {t : List Char} (ht : TokenEnd t)
    {c : Cursor n} (hc : c.rest = x.toList ++ t) (caps : Captures) :
    (token.ways c caps).head? = some (c.skip x.length, caps) := by
  have hend : ∀ y ∈ t.head?, (CharClass.noneOf [.space, .char ',']).admits y = false := by
    intro y hy
    rw [Bool.eq_false_iff, Ne, admits_token]
    rcases ht with h | h | h <;> rw [h] at hy <;> simp at hy <;> subst hy
    · simp [whiteSpace_space]
    · simp
  rw [← String.length_toList]
  exact head?_ways_plus_chars (by simpa using hx.1) (fun y hy => (admits_token y).2 (hx.2 y hy))
    hend hc caps


/-! ## Clauses of spaces, a keyword and a value -/

/-- The group `g` that an optional clause written at position `p` records over its value, which
stands `k` characters into the clause. -/
def clauseCaptures (g : String) (k : Nat) (a : Option String) (p : Nat) : Captures :=
  (a.map fun x => (g, p + k, p + k + x.length)).toList

/-- A clause of spaces, a keyword, spaces and a token recorded under `g`. -/
def tokenClause (kw g : String) : Pattern :=
  spaces ++ literal kw ++ spaces ++ .group g token

/-- A token clause has no way where its keyword does not follow the spaces. -/
theorem ways_tokenClause_eq_nil {kw : String} (g : String) {c : Cursor n}
    (hc : NoClause kw c.rest) (caps : Captures) : (tokenClause kw g).ways c caps = [] :=
  ways_append_eq_nil _ (ways_append_eq_nil _ (ways_spaces_literal_eq_nil hc caps))

/-- A token clause is read first with its token when it is written, before a space, a comma or
the end, and skipped when it is not written and its keyword does not follow the spaces. -/
theorem head?_ways_tokenClause {l w : String} (g : String)
    (hlead : l.toList = ' ' :: w.toList ++ [' '])
    (hkw : Unicode.foldPrefix w.toList w.toList = true) (hkw' : w.toList.head? ≠ some ' ')
    (hkne : w.toList ≠ []) (a : Option String) (ha : ∀ x ∈ a, IsToken x) {t : List Char}
    (ht : TokenEnd t) {c : Cursor n} (hskip : a = none → NoClause w c.rest)
    (hc : c.rest = (Render.optionalPart l a).toList ++ t) (caps : Captures) :
    ((tokenClause w g).opt.ways c caps).head? =
      some (c.skip (Render.optionalPart l a).length,
        clauseCaptures g (w.length + 2) a c.pos ++ caps) := by
  cases a with
  | none =>
    rw [head?_ways_opt_of_nil (ways_tokenClause_eq_nil g (hskip rfl) caps)]
    simp [Render.optionalPart, clauseCaptures]
  | some x =>
    obtain ⟨hx, hxc⟩ := ha x rfl
    obtain ⟨y, ys, hy⟩ := List.exists_cons_of_ne_nil (by simpa using hx : x.toList ≠ [])
    have hc' : c.rest = ' ' :: (w.toList ++ ' ' :: (x.toList ++ t)) := by
      rw [hc]
      simp [Render.optionalPart, hlead]
    have hsp := spaces_oneWay (by rwa [List.head?_append_of_ne_nil _ hkne]) hc' caps
    have hkwWay : (literal w).OneWay (c.skip 1) caps ((c.skip 1).skip w.length, caps) :=
      OneWay.of_ways_eq (ways_literal_self hkw (r := ' ' :: (x.toList ++ t)) (by simp [hc']) caps)
    have hrest : ((c.skip 1).skip w.length).rest = ' ' :: (x.toList ++ t) := by
      rw [Cursor.rest_skip, Cursor.rest_skip, hc', List.drop_one, List.tail_cons,
        ← String.length_toList, List.drop_left]
    -- the token starts with a character that is no space
    have hxsp : (x.toList ++ t).head? ≠ some ' ' := by
      have hwy := (hxc y (by simp [hy])).1
      rw [hy, List.cons_append, List.head?_cons, Ne, Option.some.injEq]
      rintro rfl
      simp [whiteSpace_space] at hwy
    have hsp₂ := spaces_oneWay hxsp hrest caps
    have hrest₂ : (((c.skip 1).skip w.length).skip 1).rest = x.toList ++ t := by
      rw [Cursor.rest_skip, hrest]
      rfl
    have htok := head?_ways_token (ha x rfl) ht hrest₂ caps
    have hlen : 1 + w.length + 1 + x.length ≤ c.rest.length := by
      rw [hc', ← String.length_toList, ← String.length_toList]
      simp
      omega
    have hleadLen : l.length = w.length + 2 := by
      rw [← String.length_toList, hlead]
      simp [String.length_toList]
    rw [head?_ways_opt_of_head? (by
      rw [tokenClause, ((hsp.seq hkwWay).seq hsp₂).head?_append, head?_ways_group, htok]
      rfl)]
    simp only [Cursor.skip_skip, Render.optionalPart, String.length_append, hleadLen,
      clauseCaptures, Option.map_some, Option.toList_some, List.singleton_append]
    rw [pos_skip_of_le (by omega), pos_skip_of_le (by omega),
      show 1 + w.length + 1 = w.length + 2 by omega, Nat.add_assoc c.pos]

/-! ## The key block size -/

/-- The clause of a key block size: spaces, `KEY_BLOCK_SIZE`, spaces, an optional equals sign or
space, spaces, and the size recorded under `keyblock`. -/
def keyBlockClause : Pattern :=
  spaces ++ literal "KEY_BLOCK_SIZE" ++ many (literal " ") ++ opt (oneOf [.char ' ', .char '=']) ++
    many (literal " ") ++ .group "keyblock" token

/-- A key block size as a key line writes it: `KEY_BLOCK_SIZE`, an equals sign or a space, and
the size. -/
def keyBlockText (b : Option (Bool × String)) : String :=
  Render.optionalPart " KEY_BLOCK_SIZE"
    (b.map fun (equals, size) => (if equals then "=" else " ") ++ size)

theorem admits_sizeSeparator (y : Char) :
    (CharClass.anyOf [.char ' ', .char '=']).admits y = true ↔ y = ' ' ∨ y = '=' := by
  have hspace : Unicode.foldOrbit ' ' = [' '] := Unicode.caseless_punctuation (by decide)
  have hequals : Unicode.foldOrbit '=' = ['='] := Unicode.caseless_punctuation (by decide)
  simp only [CharClass.anyOf, CharClass.admits, List.flatMap_cons, List.flatMap_nil, hspace,
    hequals, List.map_cons, List.map_nil, List.append_nil, List.any_cons, List.any_nil,
    ClassItem.admits, Bool.or_false, List.singleton_append]
  simp only [Bool.false_bne, Bool.or_eq_true, beq_iff_eq]
  exact ⟨fun h => h.imp Eq.symm Eq.symm, fun h => h.imp Eq.symm Eq.symm⟩

/-- Spaces read nothing where no space stands. -/
theorem ways_manySpace_of_ne {c : Cursor n} (hc : c.rest.head? ≠ some ' ') (caps : Captures) :
    (many (literal " ")).ways c caps = [(c, caps)] :=
  ways_many_of_nil (ways_literal_caseless_of_ne rfl (Unicode.caseless_punctuation (by decide)) hc caps)

/-- A key block size clause has no way where `KEY_BLOCK_SIZE` does not follow the spaces. -/
theorem ways_keyBlockClause_eq_nil {c : Cursor n} (hc : NoClause "KEY_BLOCK_SIZE" c.rest)
    (caps : Captures) : keyBlockClause.ways c caps = [] := by
  unfold keyBlockClause
  iterate 4 apply ways_append_eq_nil
  exact ways_spaces_literal_eq_nil hc caps

/-- A key block size clause is read first with its size when it is written, before a space, a
comma or the end, and skipped when it is not written and `KEY_BLOCK_SIZE` does not follow the
spaces. A size written after a space must not start with an equals sign, which the clause would
take for the separator. -/
theorem head?_ways_keyBlockClause (b : Option (Bool × String))
    (hb : ∀ e ∈ b, IsToken e.2 ∧ (e.1 = false → e.2.toList.head? ≠ some '=')) {t : List Char}
    (ht : TokenEnd t) {c : Cursor n} (hskip : b = none → NoClause "KEY_BLOCK_SIZE" c.rest)
    (hc : c.rest = (keyBlockText b).toList ++ t) (caps : Captures) :
    (keyBlockClause.opt.ways c caps).head? =
      some (c.skip (keyBlockText b).length,
        clauseCaptures "keyblock" 16 (b.map Prod.snd) c.pos ++ caps) := by
  cases b with
  | none =>
    rw [head?_ways_opt_of_nil (ways_keyBlockClause_eq_nil (hskip rfl) caps)]
    simp [keyBlockText, Render.optionalPart, clauseCaptures]
  | some e =>
    obtain ⟨equals, s⟩ := e
    obtain ⟨⟨hs, hsc⟩, heq⟩ := hb _ rfl
    obtain ⟨y, ys, hy⟩ := List.exists_cons_of_ne_nil (by simpa using hs : s.toList ≠ [])
    have hy' := hsc y (by simp [hy])
    have hysp : y ≠ ' ' := fun h => by simp [h, whiteSpace_space] at hy'
    have hc' : c.rest = ' ' :: ("KEY_BLOCK_SIZE".toList ++
        (if equals then '=' else ' ') :: (s.toList ++ t)) := by
      rw [hc]
      cases equals <;> simp [keyBlockText, Render.optionalPart]
    -- a space and `KEY_BLOCK_SIZE`, each one way
    have hsp := spaces_oneWay (by simp) hc' caps
    have hkw : (literal "KEY_BLOCK_SIZE").OneWay (c.skip 1) caps ((c.skip 1).skip 14, caps) :=
      OneWay.of_ways_eq (ways_literal_self (Unicode.foldPrefix_grammarWord (by decide))
        (r := (if equals then '=' else ' ') :: (s.toList ++ t)) (by simp [hc']) caps)
    have hrest : ((c.skip 1).skip 14).rest = (if equals then '=' else ' ') :: (s.toList ++ t) := by
      rw [Cursor.rest_skip, Cursor.rest_skip, hc', List.drop_one, List.tail_cons,
        show (14 : Nat) = "KEY_BLOCK_SIZE".toList.length by rfl, List.drop_left]
    have hsize : (((c.skip 1).skip 14).skip 1).rest = s.toList ++ t := by
      rw [Cursor.rest_skip, hrest]
      rfl
    have hnosp : (((c.skip 1).skip 14).skip 1).rest.head? ≠ some ' ' := by
      rw [hsize, hy]
      simpa using hysp
    -- the separator, read by the optional class when it is an equals sign and by the spaces
    -- before it otherwise
    have hsep : ((many (literal " ") ++ opt (oneOf [.char ' ', .char '='])).ways
        ((c.skip 1).skip 14) caps).head? = some (((c.skip 1).skip 14).skip 1, caps) := by
      cases equals with
      | true =>
        have hnone : ((c.skip 1).skip 14).rest.head? ≠ some ' ' := by
          rw [hrest]
          simp
        refine head?_ways_append_of_head? (by rw [ways_manySpace_of_ne hnone]; rfl) ?_
        rw [ways_opt, oneOf, ways_chars, hrest]
        simp [(admits_sizeSeparator '=').2 (.inr rfl)]
      | false =>
        have hone : (literal " ").ways ((c.skip 1).skip 14) caps =
            [(((c.skip 1).skip 14).skip 1, caps)] :=
          ways_literal_caseless rfl (Unicode.caseless_punctuation (by decide)) (by rw [hrest]; rfl) caps
        have hpos : ((c.skip 1).skip 14).pos < (((c.skip 1).skip 14).skip 1).pos := by
          rw [Cursor.pos_skip ((c.skip 1).skip 14) 1, hrest]
          simp
        refine head?_ways_append_of_head? (v := (((c.skip 1).skip 14).skip 1, caps)) ?_ ?_
        · rw [many, head?_ways_many_of_single hone hpos, ← many, ways_manySpace_of_ne hnosp]
          rfl
        · have hadm : (CharClass.anyOf [.char ' ', .char '=']).admits y = false := by
            rw [Bool.eq_false_iff, Ne, admits_sizeSeparator]
            rintro (rfl | rfl)
            · exact hysp rfl
            · exact heq rfl (by simp [hy])
          rw [ways_opt, oneOf, ways_chars, hsize, hy]
          simp [hadm]
    have htok := head?_ways_token ⟨hs, hsc⟩ ht hsize
    have hlen : 16 + s.length ≤ c.rest.length := by
      rw [hc', ← String.length_toList]
      simp
      omega
    have hlenText : (keyBlockText (some (equals, s))).length = 16 + s.length := by
      have h15 : " KEY_BLOCK_SIZE".length = 15 := rfl
      have h1 : " ".length = 1 := rfl
      have h1' : "=".length = 1 := rfl
      cases equals <;> simp [keyBlockText, Render.optionalPart, h15, h1, h1'] <;> omega
    -- the pieces read in turn
    have hAO : ((spaces ++ literal "KEY_BLOCK_SIZE" ++ many (literal " ") ++
        opt (oneOf [.char ' ', .char '='])).ways c caps).head? =
          some (((c.skip 1).skip 14).skip 1, caps) := by
      rw [ways_append_assoc (spaces ++ literal "KEY_BLOCK_SIZE"), (hsp.seq hkw).head?_append]
      exact hsep
    have hM2 : ((many (literal " ")).ways (((c.skip 1).skip 14).skip 1) caps).head? =
        some (((c.skip 1).skip 14).skip 1, caps) := by
      rw [ways_manySpace_of_ne hnosp]
      rfl
    have hG := head?_ways_group "keyblock" token (((c.skip 1).skip 14).skip 1) caps
    rw [htok, Option.map_some] at hG
    unfold keyBlockClause
    rw [head?_ways_opt_of_head? (head?_ways_append_of_head? (head?_ways_append_of_head? hAO hM2) hG),
      hlenText]
    simp only [Cursor.skip_skip, clauseCaptures, Option.map_some, Option.toList_some,
      List.singleton_append]
    rw [pos_skip_of_le (by omega), pos_skip_of_le (by omega)]
    simp only [Nat.reduceAdd, Nat.add_assoc]

/-! ## The comment -/

/-- One segment of a key comment: a doubled quote, or a quote, characters other than quotes and
a quote. -/
def commentSegment : Pattern :=
  .alt (literal "''") (literal "'" ++ manyLazy notQuote ++ literal "'")

/-- The clause of a key comment: spaces, `COMMENT`, spaces, and the quoted comment recorded
under `comment`. -/
def commentClause : Pattern :=
  spaces ++ literal "COMMENT" ++ spaces ++ .group "comment" (plus commentSegment)

/-- A comment as a SQL string: the quotes inside doubled, between quotes. -/
theorem sqlString_toList (x : String) :
    (Render.sqlString x).toList = '\'' :: (escapedName '\'' x ++ ['\'']) := by
  have hq : "'".toList = ['\''] := rfl
  have hqq : "''".toList = ['\'', '\''] := rfl
  simp only [Render.sqlString, String.toList_append, Text.replace, String.toList_ofList, hq, hqq]
  rw [Text.replaceChars_of_ne (by simp), Text.replaceNonempty_singleton]
  rfl

theorem caseless_quote : Unicode.Caseless '\'' := Unicode.caseless_punctuation (by decide)

theorem foldOrbit_quote : Unicode.foldOrbit '\'' = ['\''] := caseless_quote

/-- No segment starts where no quote stands. -/
theorem ways_commentSegment_eq_nil {c : Cursor n} (hc : c.rest.head? ≠ some '\'')
    (caps : Captures) : commentSegment.ways c caps = [] := by
  have hpair : Unicode.foldPrefix "''".toList c.rest = false := by
    cases h : c.rest with
    | nil => rfl
    | cons y r =>
      have hy : y ≠ '\'' := fun hy => hc (by simp [h, hy])
      simp [foldOrbit_quote, hy]
  rw [commentSegment, ways_alt, ways_literal, hpair, if_neg (by simp),
    ways_append_eq_nil _ (ways_append_eq_nil _ (ways_literal_caseless_of_ne rfl caseless_quote hc caps))]
  rfl

/-- A segment reads from a quote to the next quote. -/
theorem head?_ways_commentSegment {a r : List Char} (ha : '\'' ∉ a) {c : Cursor n}
    (hc : c.rest = '\'' :: (a ++ '\'' :: r)) (caps : Captures) :
    (commentSegment.ways c caps).head? = some (c.skip (a.length + 2), caps) := by
  cases a with
  | nil =>
    rw [commentSegment, ways_alt, ways_literal_self (Unicode.foldPrefix_grammarWord (by decide)) (r := r) (by simp [hc])]
    rfl
  | cons y a =>
    have hy : y ≠ '\'' := fun h => ha (by simp [h])
    have hpair : Unicode.foldPrefix "''".toList c.rest = false := by
      rw [hc]
      simp [Unicode.foldPrefix, foldOrbit_quote, hy]
    have hopen : (literal "'").ways c caps = [(c.skip 1, caps)] :=
      ways_literal_caseless rfl caseless_quote hc caps
    have hadm : ∀ z ∈ y :: a, (CharClass.noneOf [.char '\'']).admits z = true :=
      fun z hz => (admits_noneOf_caseless caseless_quote z).2 fun h => ha (h ▸ hz)
    have hrun := head?_lazy_chars_literal (s := "'") (x := '\'') rfl (Unicode.foldPrefix_grammarWord (by decide))
      caseless_quote
      (by simpa using (admits_noneOf_caseless caseless_quote '\'').not) (fun _ caps => caps)
      (y :: a) hadm (r := r) (c := c.skip 1) (by simp [hc]) caps
    rw [commentSegment, ways_alt, ways_literal, hpair, if_neg (by simp), List.nil_append,
      ways_append_assoc, ways_append, hopen, List.flatMap_singleton, ways_append]
    rw [manyLazy, notQuote, noneOf]
    rw [hrun, Cursor.skip_skip, Cursor.skip_skip]
    simp only [List.length_cons, show "'".length = 1 from rfl]
    rw [show 1 + (a.length + 1 + 1) = a.length + 1 + 2 by omega]

/-- Over a quoted comment, its quotes doubled, before a text that does not start with a quote,
the repeated segments are read first up to the closing quote: one segment from each quote that
starts one to the next quote. The run starts inside a segment, after the quote-free text `a`. -/
theorem head?_ways_commentSegments (l : List Char) {a r : List Char} (ha : '\'' ∉ a)
    (hr : r.head? ≠ some '\'') {c : Cursor n}
    (hc : c.rest = '\'' :: (a ++ (l.flatMap fun x => if x = '\'' then ['\'', '\''] else [x]) ++
      '\'' :: r)) (caps : Captures) :
    ((Pattern.star true commentSegment).ways c caps).head? =
        some (c.skip (a.length + (l.flatMap fun x => if x = '\'' then ['\'', '\''] else [x]).length + 2),
          caps) ∧
      ((plus commentSegment).ways c caps).head? =
        some (c.skip (a.length + (l.flatMap fun x => if x = '\'' then ['\'', '\''] else [x]).length + 2),
          caps) := by
  -- induction on the comment's characters; a quote in it closes the segment that `a` is in
  induction l generalizing a c with
  | nil =>
    have hseg := head?_ways_commentSegment ha (r := r) (by simpa using hc) caps
    have hpos : c.pos < (c.skip (a.length + 2)).pos := by simp [hc]
    have hstop : (Pattern.star true commentSegment).ways (c.skip (a.length + 2)) caps =
        [(c.skip (a.length + 2), caps)] :=
      ways_many_of_nil (ways_commentSegment_eq_nil (by simpa [hc] using hr) caps)
    simp only [List.flatMap_nil, List.length_nil, Nat.add_zero]
    rw [head?_ways_many_of_head? hseg hpos, head?_ways_plus_of_head? hseg, hstop]
    exact ⟨rfl, rfl⟩
  | cons x l ih =>
    by_cases hx : x = '\''
    · -- the quote ends the segment, and the next one starts at its double
      subst hx
      have hseg := head?_ways_commentSegment ha
        (r := '\'' :: ((l.flatMap fun x => if x = '\'' then ['\'', '\''] else [x]) ++ '\'' :: r))
        (by rw [hc]; simp) caps
      have hpos : c.pos < (c.skip (a.length + 2)).pos := by simp [hc]
      obtain ⟨ih₁, -⟩ := ih (a := []) (by simp) (c := c.skip (a.length + 2)) (by simp [hc]) 
      rw [head?_ways_many_of_head? hseg hpos, head?_ways_plus_of_head? hseg, ih₁,
        Cursor.skip_skip]
      simp only [List.flatMap_cons, if_true, List.length_append, List.length_cons,
        List.length_nil, List.length_nil]
      constructor <;> congr 3 <;> omega
    · -- any other character goes on with the segment
      obtain ⟨ih₁, ih₂⟩ := ih (a := a ++ [x]) (by simp [ha, Ne.symm hx]) (c := c)
        (by rw [hc]; simp [hx])
      simp only [List.length_append, List.length_singleton] at ih₁ ih₂
      simp only [List.flatMap_cons, hx, if_false, List.length_append, List.length_singleton]
      rw [ih₁, ih₂]
      constructor <;> congr 3 <;> omega

/-- The comment clause has no way where `COMMENT` does not follow the spaces. -/
theorem ways_commentClause_eq_nil {c : Cursor n} (hc : NoClause "COMMENT" c.rest)
    (caps : Captures) : commentClause.ways c caps = [] := by
  unfold commentClause
  iterate 2 apply ways_append_eq_nil
  exact ways_spaces_literal_eq_nil hc caps

/-- The comment clause is read first with the whole quoted comment when it is written, before a
text that does not start with a quote, and skipped when it is not written and `COMMENT` does
not follow the spaces. -/
theorem head?_ways_commentClause (m : Option String) {t : List Char} (ht : t.head? ≠ some '\'')
    {c : Cursor n} (hskip : m = none → NoClause "COMMENT" c.rest)
    (hc : c.rest = (Render.optionalPart " COMMENT " (m.map Render.sqlString)).toList ++ t)
    (caps : Captures) :
    (commentClause.opt.ways c caps).head? =
      some (c.skip (Render.optionalPart " COMMENT " (m.map Render.sqlString)).length,
        clauseCaptures "comment" 9 (m.map Render.sqlString) c.pos ++ caps) := by
  cases m with
  | none =>
    rw [head?_ways_opt_of_nil (ways_commentClause_eq_nil (hskip rfl) caps)]
    simp [Render.optionalPart, clauseCaptures]
  | some x =>
    have hc' : c.rest = ' ' :: ("COMMENT".toList ++ ' ' :: ('\'' :: (escapedName '\'' x ++
        '\'' :: t))) := by
      rw [hc]
      simp [Render.optionalPart, sqlString_toList]
    have hsp := spaces_oneWay (by simp) hc' caps
    have hkw : (literal "COMMENT").OneWay (c.skip 1) caps ((c.skip 1).skip 7, caps) :=
      OneWay.of_ways_eq (ways_literal_self (Unicode.foldPrefix_grammarWord (by decide))
        (r := ' ' :: ('\'' :: (escapedName '\'' x ++ '\'' :: t))) (by simp [hc']) caps)
    have hrest : ((c.skip 1).skip 7).rest = ' ' :: ('\'' :: (escapedName '\'' x ++ '\'' :: t)) := by
      rw [Cursor.rest_skip, Cursor.rest_skip, hc', List.drop_one, List.tail_cons,
        show (7 : Nat) = "COMMENT".toList.length by rfl, List.drop_left]
    have hsp₂ := spaces_oneWay (by simp) hrest caps
    have hbody := (head?_ways_commentSegments x.toList (a := []) (by simp) ht
      (c := ((c.skip 1).skip 7).skip 1) (by rw [Cursor.rest_skip, hrest]; rfl) caps).2
    have hlen : 11 + (escapedName '\'' x).length ≤ c.rest.length := by
      rw [hc']
      simp
      omega
    have hsql : (Render.sqlString x).length = (escapedName '\'' x).length + 2 := by
      rw [← String.length_toList, sqlString_toList]
      simp
    rw [head?_ways_opt_of_head? (by
      rw [commentClause, ((hsp.seq hkw).seq hsp₂).head?_append, head?_ways_group, hbody]
      rfl)]
    have hlenText : (Render.optionalPart " COMMENT " (some (Render.sqlString x))).length =
        9 + (Render.sqlString x).length := by
      simp only [Render.optionalPart, String.length_append]
      rfl
    simp only [Option.map_some, hlenText, Cursor.skip_skip, clauseCaptures, Option.toList_some,
      List.singleton_append, List.length_nil, Nat.zero_add]
    rw [hsql]
    simp only [escapedName] at hlen ⊢
    rw [pos_skip_of_le (by omega), pos_skip_of_le (by omega)]
    simp only [Nat.reduceAdd, Nat.add_assoc]

/-! ## The versioned comment and the end of the line -/

/-- The clause of a versioned comment: spaces, `/*`, the comment recorded under `version_sql`,
`*/` and spaces. -/
def versionClause : Pattern :=
  spaces ++ literal "/*" ++ .group "version_sql" (plus anyChar) ++ literal "*/" ++
    many (literal " ")

/-- A group of a greedy run of any characters but a line break, before a literal, reads first
up to the last place where the literal stands, when the literal does not start again in the
text after it. -/
theorem head?_group_run_literal (g : String) {s : String}
    (hself : Unicode.foldPrefix s.toList s.toList = true) {r : List Char}
    (hr : ∀ j, 0 < j → Unicode.foldPrefix s.toList ((s.toList ++ r).drop j) = false)
    {v : List Char} (hv : v ≠ []) (hnl : '\n' ∉ v ++ s.toList ++ r) {c : Cursor n}
    (hc : c.rest = v ++ s.toList ++ r) (caps : Captures) :
    ((Pattern.group g (plus anyChar) ++ literal s).ways c caps).head? =
      some ((c.skip v.length).skip s.length, (g, c.pos, c.pos + v.length) :: caps) := by
  obtain ⟨x, u, rfl⟩ := List.exists_cons_of_ne_nil hv
  have hcase : Unicode.Caseless '\n' := Unicode.caseless_punctuation (by decide)
  have hadm : ∀ y ∈ u ++ s.toList ++ r, (CharClass.noneOf [.char '\n']).admits y = true :=
    fun y hy => (admits_noneOf_caseless hcase y).2 fun h => hnl (by subst h; simp_all)
  have hfirst : anyChar.ways c caps = [(c.skip 1, caps)] := by
    have hx : x ≠ '\n' := fun h => hnl (by simp [h])
    rw [anyChar, noneOf, ways_chars, hc]
    simp [(admits_noneOf_caseless hcase x).2 hx]
  have hrun := head?_many_chars_literal_last hself (fun p caps => (g, c.pos, p) :: caps) hr u hadm
    (c := c.skip 1) (by simp [hc]) caps
  have hpos : (c.skip 1).pos = c.pos + 1 := by simp [hc]
  rw [ways_append, ways_group, List.flatMap_map, plus, ways_append, List.flatMap_assoc, hfirst,
    List.flatMap_singleton, anyChar, noneOf, hrun, hpos, Cursor.skip_skip, Cursor.skip_skip,
    Cursor.skip_skip]
  simp [Nat.add_assoc, Nat.add_comm 1]

/-- The versioned comment clause has no way where `/*` does not follow the spaces. -/
theorem ways_versionClause_eq_nil {c : Cursor n} (hc : NoClause "/*" c.rest)
    (caps : Captures) : versionClause.ways c caps = [] := by
  unfold versionClause
  iterate 3 apply ways_append_eq_nil
  exact ways_spaces_literal_eq_nil hc caps

/-- `*/` does not start again in the final comma after it. -/
theorem foldPrefix_close_finalComma (comma : Bool) (j : Nat) (hj : 0 < j) :
    Unicode.foldPrefix "*/".toList (("*/".toList ++ (Render.finalComma comma).toList).drop j) =
      false := by
  rcases j with _ | _ | _ | j
  · omega
  · have hslash : '/' ∉ Unicode.foldOrbit '*' :=
      Unicode.not_mem_foldOrbit_grammar (by decide) (by decide) (by decide)
    cases comma <;> simp [Render.finalComma, Unicode.foldPrefix, hslash]
  · -- the final comma is shorter than `*/`
    cases comma <;> simp [Render.finalComma, Unicode.foldPrefix]
  · cases comma <;> simp [Render.finalComma]

/-- The versioned comment clause is read first with the whole comment when it is written, before
the final comma, and skipped when it is not written. -/
theorem head?_ways_versionClause (v : Option String) (hv : ∀ x ∈ v, x ≠ "" ∧ '\n' ∉ x.toList)
    (comma : Bool) {c : Cursor n}
    (hc : c.rest = (Render.optionalPart " /*" (v.map (· ++ "*/"))).toList ++
      (Render.finalComma comma).toList) (caps : Captures) :
    (versionClause.opt.ways c caps).head? =
      some (c.skip (Render.optionalPart " /*" (v.map (· ++ "*/"))).length,
        clauseCaptures "version_sql" 3 v c.pos ++ caps) := by
  have hcomma : ∀ y ∈ (Render.finalComma comma).toList, y = ',' := by
    cases comma <;> simp [Render.finalComma]
  cases v with
  | none =>
    have hno : NoClause "/*" c.rest := by
      simpa [hc, Render.optionalPart] using noClause_finalComma "/*" comma
    rw [head?_ways_opt_of_nil (ways_versionClause_eq_nil hno caps)]
    simp [Render.optionalPart, clauseCaptures]
  | some x =>
    obtain ⟨hx, hxn⟩ := hv x rfl
    have hc' : c.rest = ' ' :: ("/*".toList ++ (x.toList ++ "*/".toList ++
        (Render.finalComma comma).toList)) := by
      rw [hc]
      simp [Render.optionalPart]
    have hsp := spaces_oneWay (by simp) hc' caps
    have hopen : (literal "/*").OneWay (c.skip 1) caps ((c.skip 1).skip 2, caps) :=
      OneWay.of_ways_eq (ways_literal_self (Unicode.foldPrefix_grammarWord (by decide))
        (r := x.toList ++ "*/".toList ++ (Render.finalComma comma).toList) (by simp [hc']) caps)
    have hrest : ((c.skip 1).skip 2).rest =
        x.toList ++ "*/".toList ++ (Render.finalComma comma).toList := by
      rw [Cursor.rest_skip, Cursor.rest_skip, hc', List.drop_one, List.tail_cons,
        show (2 : Nat) = "/*".toList.length by rfl, List.drop_left]
    have hnl : '\n' ∉ x.toList ++ "*/".toList ++ (Render.finalComma comma).toList := by
      intro h
      simp only [List.mem_append] at h
      rcases h with (h | h) | h
      · exact hxn h
      · simp at h
      · simpa using hcomma _ h
    have hgroup := head?_group_run_literal "version_sql" (Unicode.foldPrefix_grammarWord (by decide))
      (foldPrefix_close_finalComma comma) (by simpa using hx) hnl hrest caps
    have hend : (((((c.skip 1).skip 2).skip x.toList.length).skip "*/".length)).rest =
        (Render.finalComma comma).toList := by
      rw [Cursor.rest_skip, Cursor.rest_skip, hrest, List.append_assoc, List.drop_left,
        ← String.length_toList, List.drop_left]
    have hnosp : ((((c.skip 1).skip 2).skip x.toList.length).skip "*/".length).rest.head? ≠
        some ' ' := by
      rw [hend]
      cases comma <;> simp [Render.finalComma]
    have hlen : 3 + x.length ≤ c.rest.length := by
      rw [hc', ← String.length_toList]
      simp
      omega
    have hread : ((spaces ++ literal "/*" ++ .group "version_sql" (plus anyChar) ++
        literal "*/").ways c caps).head? = some ((((c.skip 1).skip 2).skip x.toList.length).skip
          "*/".length, ("version_sql", ((c.skip 1).skip 2).pos,
            ((c.skip 1).skip 2).pos + x.toList.length) :: caps) := by
      rw [ways_append_assoc (spaces ++ literal "/*"), (hsp.seq hopen).head?_append]
      exact hgroup
    rw [head?_ways_opt_of_head? (by
      rw [versionClause]
      exact head?_ways_append_of_head? hread (by rw [ways_manySpace_of_ne hnosp]; rfl))]
    have hlenText : (Render.optionalPart " /*" (some (x ++ "*/"))).length = 3 + x.length + 2 := by
      simp only [Render.optionalPart, String.length_append]
      rfl
    simp only [Option.map_some, hlenText, Cursor.skip_skip, clauseCaptures, Option.toList_some,
      List.singleton_append, String.length_toList]
    rw [pos_skip_of_le (by omega)]
    simp only [show "*/".length = 2 from rfl, Nat.reduceAdd, Nat.add_assoc]

/-- The end of a key line: an optional comma and the end of the text. -/
theorem head?_ways_lineEnd (comma : Bool) {c : Cursor n}
    (hc : c.rest = (Render.finalComma comma).toList) (caps : Captures) :
    (((literal ",").opt ++ .atEnd).ways c caps).head? =
      some (c.skip (Render.finalComma comma).length, caps) := by
  cases comma with
  | true =>
    have hlit : (literal ",").ways c caps = [(c.skip 1, caps)] :=
      ways_literal_caseless (x := ',') rfl (Unicode.caseless_punctuation (by decide)) (r := [])
        (by simpa [Render.finalComma] using hc) caps
    have hend : (c.skip 1).rest = [] := by simp [hc, Render.finalComma]
    rw [ways_append, ways_opt, hlit, List.singleton_append, List.flatMap_cons, ways_atEnd, hend]
    simp [Render.finalComma]
    rfl
  | false =>
    have hnil : c.rest = [] := by simpa [Render.finalComma] using hc
    have hlit : (literal ",").ways c caps = [] := by
      rw [ways_literal, hnil]
      rfl
    rw [ways_append, ways_opt, hlit]
    simp [hnil, Render.finalComma]

/-! ## The clauses after the column list -/

/-- What the key grammar reads after the closing parenthesis of the column list, grouped from
the right: the index type, the key block size, the parser, the comment, the versioned comment,
a comma and the end. -/
def keyTail : Pattern :=
  (tokenClause "USING" "using_post").opt ++ (keyBlockClause.opt ++
    ((tokenClause "WITH PARSER" "parser").opt ++ (commentClause.opt ++
      (versionClause.opt ++ ((literal ",").opt ++ .atEnd)))))

/-- A written clause that starts with a space and a character that is no case of the first
letter of `kw` is no clause of `kw`, and an absent one leaves the text after it. -/
theorem noClause_optionalPart_of_head {kw lead : String} {x y : Char} {b : List Char}
    (hkw : kw.toList.head? = some x) (hlead : lead.toList = ' ' :: y :: b)
    (hy : y ∉ Unicode.foldOrbit x) (hy' : y ≠ ' ') (a : Option String) {t : List Char}
    (ht : NoClause kw t) : NoClause kw ((Render.optionalPart lead a).toList ++ t) := by
  obtain ⟨xs, hxs⟩ : ∃ xs, kw.toList = x :: xs := by
    cases h : kw.toList with
    | nil => simp [h] at hkw
    | cons z xs => exact ⟨xs, by simpa [h] using hkw⟩
  refine noClause_optionalPart hlead (List.cons_ne_nil _ _) (by simpa using hy') (fun r => ?_) a ht
  simp [hxs, hy]

/-- What may follow a token, a written part led by a space may also be followed by. -/
theorem tokenEnd_optionalPart {lead : String} (hlead : lead.toList.head? = some ' ')
    (a : Option String) {t : List Char} (ht : TokenEnd t) :
    TokenEnd ((Render.optionalPart lead a).toList ++ t) := by
  cases a with
  | none => simpa [Render.optionalPart] using ht
  | some x =>
    right; left
    obtain ⟨ys, hys⟩ : ∃ ys, lead.toList = ' ' :: ys := by
      cases h : lead.toList with
      | nil => simp [h] at hlead
      | cons z ys => exact ⟨ys, by simpa [h] using hlead⟩
    simp [Render.optionalPart, hys]

theorem tokenEnd_finalComma (comma : Bool) : TokenEnd (Render.finalComma comma).toList := by
  cases comma <;> simp [TokenEnd, Render.finalComma]

end Grammar

namespace KeyLine

open Grammar

/-- A key line that reads back as written: a kind token without white space; a non-empty name;
index types, a key block size and a parser that are tokens, a size written after a space not
starting with an equals sign; a non-empty list of readable columns whose names hold neither a
closing parenthesis nor a line break; and a non-empty versioned comment without a line
break. -/
structure Readable (k : KeyLine) : Prop where
  kind_token : ∀ t ∈ k.kindToken, t ≠ "" ∧ ∀ x ∈ t.toList, Unicode.whiteSpace.contains x = false
  name_ne : ∀ name ∈ k.name, name ≠ ""
  usingPre_token : ∀ u ∈ k.usingPre, IsToken u
  columns_ne : k.columns ≠ []
  columns_readable : ∀ kc ∈ k.columns, kc.Readable ∧ ')' ∉ kc.name.toList ∧ '\n' ∉ kc.name.toList
  usingPost_token : ∀ u ∈ k.usingPost, IsToken u
  keyBlockSize_token : ∀ b ∈ k.keyBlockSize, IsToken b.2 ∧ (b.1 = false → b.2.toList.head? ≠ some '=')
  parser_token : ∀ p ∈ k.parser, IsToken p
  versionComment_line : ∀ v ∈ k.versionComment, v ≠ "" ∧ '\n' ∉ v.toList

/-- What a key line writes after its column list. -/
def tailText (k : KeyLine) : String :=
  Render.optionalPart " USING " k.usingPost ++ keyBlockText k.keyBlockSize ++
    Render.optionalPart " WITH PARSER " k.parser ++
    Render.optionalPart " COMMENT " (k.comment.map Render.sqlString) ++
    Render.optionalPart " /*" (k.versionComment.map (· ++ "*/")) ++ Render.finalComma k.finalComma

theorem tailText_toList (k : KeyLine) :
    k.tailText.toList = (Render.optionalPart " USING " k.usingPost).toList ++
      ((keyBlockText k.keyBlockSize).toList ++
        ((Render.optionalPart " WITH PARSER " k.parser).toList ++
          ((Render.optionalPart " COMMENT " (k.comment.map Render.sqlString)).toList ++
            ((Render.optionalPart " /*" (k.versionComment.map (· ++ "*/"))).toList ++
              (Render.finalComma k.finalComma).toList)))) := by
  simp [tailText]

end KeyLine

namespace Grammar

/-- The groups that the clauses after the column list of a key line record, the last one first,
for clauses that start at position `p`. -/
def keyTailCaptures (k : KeyLine) (p : Nat) : Captures :=
  clauseCaptures "version_sql" 3 k.versionComment
      (p + (Render.optionalPart " USING " k.usingPost).length + (keyBlockText k.keyBlockSize).length +
        (Render.optionalPart " WITH PARSER " k.parser).length +
        (Render.optionalPart " COMMENT " (k.comment.map Render.sqlString)).length) ++
    clauseCaptures "comment" 9 (k.comment.map Render.sqlString)
      (p + (Render.optionalPart " USING " k.usingPost).length + (keyBlockText k.keyBlockSize).length +
        (Render.optionalPart " WITH PARSER " k.parser).length) ++
    clauseCaptures "parser" 13 k.parser
      (p + (Render.optionalPart " USING " k.usingPost).length + (keyBlockText k.keyBlockSize).length) ++
    clauseCaptures "keyblock" 16 (k.keyBlockSize.map Prod.snd)
      (p + (Render.optionalPart " USING " k.usingPost).length) ++
    clauseCaptures "using_post" 7 k.usingPost p

/-- The clauses after the column list of a readable key line are read first as written: each
present clause with its value, each absent one skipped, up to the end of the line. -/
theorem head?_ways_keyTail {k : KeyLine} (hk : k.Readable) {c : Cursor n}
    (hc : c.rest = k.tailText.toList) (caps : Captures) :
    (keyTail.ways c caps).head? = some (c.skip k.tailText.length, keyTailCaptures k c.pos ++ caps) := by
  rw [KeyLine.tailText_toList] at hc
  set U := Render.optionalPart " USING " k.usingPost with hU
  set B := keyBlockText k.keyBlockSize with hB
  set W := Render.optionalPart " WITH PARSER " k.parser with hW
  set C := Render.optionalPart " COMMENT " (k.comment.map Render.sqlString) with hC
  set V := Render.optionalPart " /*" (k.versionComment.map (· ++ "*/")) with hV
  set E := Render.finalComma k.finalComma with hE
  -- after each clause comes another one led by a space, a comma or the end
  have hendV : TokenEnd (V.toList ++ E.toList) := tokenEnd_optionalPart rfl _ (tokenEnd_finalComma _)
  have hendC : TokenEnd (C.toList ++ (V.toList ++ E.toList)) := tokenEnd_optionalPart rfl _ hendV
  have hendW : TokenEnd (W.toList ++ (C.toList ++ (V.toList ++ E.toList))) :=
    tokenEnd_optionalPart rfl _ hendC
  have hendB : TokenEnd (B.toList ++ (W.toList ++ (C.toList ++ (V.toList ++ E.toList)))) :=
    tokenEnd_optionalPart rfl _ hendW
  -- and none of them starts with the keyword of an earlier one
  have hnoC : NoClause "COMMENT" (V.toList ++ E.toList) :=
    noClause_optionalPart_of_head (x := 'C') (y := '/') (b := ['*']) rfl rfl (Unicode.not_mem_foldOrbit_grammar (by decide) (by decide) (by decide))
      (by decide) _ (noClause_finalComma _ _)
  have hnoW : NoClause "WITH PARSER" (C.toList ++ (V.toList ++ E.toList)) :=
    noClause_optionalPart_of_head (x := 'W') (y := 'C') (b := "OMMENT ".toList) rfl rfl
      (Unicode.not_mem_foldOrbit_grammar (by decide) (by decide) (by decide)) (by decide) _
      (noClause_optionalPart_of_head (y := '/') (b := ['*']) rfl rfl (Unicode.not_mem_foldOrbit_grammar (by decide) (by decide) (by decide))
        (by decide) _ (noClause_finalComma _ _))
  have hnoB : NoClause "KEY_BLOCK_SIZE" (W.toList ++ (C.toList ++ (V.toList ++ E.toList))) :=
    noClause_optionalPart_of_head (x := 'K') (y := 'W') (b := "ITH PARSER ".toList) rfl rfl
      (Unicode.not_mem_foldOrbit_grammar (by decide) (by decide) (by decide)) (by decide) _
      (noClause_optionalPart_of_head (y := 'C') (b := "OMMENT ".toList) rfl rfl
        (Unicode.not_mem_foldOrbit_grammar (by decide) (by decide) (by decide)) (by decide) _
        (noClause_optionalPart_of_head (y := '/') (b := ['*']) rfl rfl (Unicode.not_mem_foldOrbit_grammar (by decide) (by decide) (by decide))
          (by decide) _ (noClause_finalComma _ _)))
  have hnoU : NoClause "USING" (B.toList ++ (W.toList ++ (C.toList ++ (V.toList ++ E.toList)))) :=
    noClause_optionalPart_of_head (x := 'U') (y := 'K') (b := "EY_BLOCK_SIZE".toList) rfl rfl
      (Unicode.not_mem_foldOrbit_grammar (by decide) (by decide) (by decide)) (by decide) _
      (noClause_optionalPart_of_head (y := 'W') (b := "ITH PARSER ".toList) rfl rfl
        (Unicode.not_mem_foldOrbit_grammar (by decide) (by decide) (by decide)) (by decide) _
        (noClause_optionalPart_of_head (y := 'C') (b := "OMMENT ".toList) rfl rfl
          (Unicode.not_mem_foldOrbit_grammar (by decide) (by decide) (by decide)) (by decide) _
          (noClause_optionalPart_of_head (y := '/') (b := ['*']) rfl rfl (Unicode.not_mem_foldOrbit_grammar (by decide) (by decide) (by decide))
            (by decide) _ (noClause_finalComma _ _))))
  -- the clauses, read in turn
  have hc₁ := Cursor.skip_text_rest hc
  have hc₂ := Cursor.skip_text_rest hc₁
  have hc₃ := Cursor.skip_text_rest hc₂
  have hc₄ := Cursor.skip_text_rest hc₃
  have hc₅ := Cursor.skip_text_rest hc₄
  have hUw := head?_ways_tokenClause (l := " USING ") (w := "USING") "using_post" rfl
    (Unicode.foldPrefix_grammarWord (by decide)) (by decide) (by decide) k.usingPost hk.usingPost_token hendB
    (fun h => by rw [hc, hU, h]; simpa [Render.optionalPart] using hnoU) hc caps
  have hBw := head?_ways_keyBlockClause k.keyBlockSize hk.keyBlockSize_token hendW
    (fun h => by rw [hc₁, hB, h]; simpa [keyBlockText, Render.optionalPart] using hnoB) hc₁
    (clauseCaptures "using_post" ("USING".length + 2) k.usingPost c.pos ++ caps)
  have hWw := head?_ways_tokenClause (l := " WITH PARSER ") (w := "WITH PARSER") "parser" rfl
    (Unicode.foldPrefix_grammarWord (by decide)) (by decide) (by decide) k.parser hk.parser_token hendC
    (fun h => by rw [hc₂, hW, h]; simpa [Render.optionalPart] using hnoW) hc₂
    (clauseCaptures "keyblock" 16 (k.keyBlockSize.map Prod.snd) (c.skip U.length).pos ++
      (clauseCaptures "using_post" ("USING".length + 2) k.usingPost c.pos ++ caps))
  have hCw := head?_ways_commentClause k.comment
    (by rcases hendV with h | h | h <;> simp [h])
    (fun h => by rw [hc₃, hC, h]; simpa [Render.optionalPart] using hnoC) hc₃
    (clauseCaptures "parser" ("WITH PARSER".length + 2) k.parser ((c.skip U.length).skip B.length).pos ++
      (clauseCaptures "keyblock" 16 (k.keyBlockSize.map Prod.snd) (c.skip U.length).pos ++
        (clauseCaptures "using_post" ("USING".length + 2) k.usingPost c.pos ++ caps)))
  have hVw := head?_ways_versionClause k.versionComment hk.versionComment_line k.finalComma hc₄
    (clauseCaptures "comment" 9 (k.comment.map Render.sqlString)
      (((c.skip U.length).skip B.length).skip W.length).pos ++
      (clauseCaptures "parser" ("WITH PARSER".length + 2) k.parser ((c.skip U.length).skip B.length).pos ++
        (clauseCaptures "keyblock" 16 (k.keyBlockSize.map Prod.snd) (c.skip U.length).pos ++
          (clauseCaptures "using_post" ("USING".length + 2) k.usingPost c.pos ++ caps))))
  have hEw := head?_ways_lineEnd k.finalComma hc₅
    (clauseCaptures "version_sql" 3 k.versionComment
      ((((c.skip U.length).skip B.length).skip W.length).skip C.length).pos ++
      (clauseCaptures "comment" 9 (k.comment.map Render.sqlString)
        (((c.skip U.length).skip B.length).skip W.length).pos ++
        (clauseCaptures "parser" ("WITH PARSER".length + 2) k.parser
          ((c.skip U.length).skip B.length).pos ++
          (clauseCaptures "keyblock" 16 (k.keyBlockSize.map Prod.snd) (c.skip U.length).pos ++
            (clauseCaptures "using_post" ("USING".length + 2) k.usingPost c.pos ++ caps)))))
  rw [keyTail, head?_ways_append_of_head? hUw (head?_ways_append_of_head? hBw
    (head?_ways_append_of_head? hWw (head?_ways_append_of_head? hCw
      (head?_ways_append_of_head? hVw hEw))))]
  -- where each clause starts
  rw [Cursor.skip_text_pos hc₃, Cursor.skip_text_pos hc₂, Cursor.skip_text_pos hc₁,
    Cursor.skip_text_pos hc]
  simp only [Cursor.skip_skip, keyTailCaptures, KeyLine.tailText, String.length_append,
    List.append_assoc, Nat.add_assoc, show "USING".length + 2 = 7 from rfl,
    show "WITH PARSER".length + 2 = 13 from rfl]
  rfl

/-! ## Where nothing after the column list can be read -/

/-- The texts at which nothing of what follows a key's column list can be read: no clause's
keyword follows the spaces at their start, and they are neither empty nor a lone comma. -/
def NoTail (t : List Char) : Prop :=
  NoClause "USING" t ∧ NoClause "KEY_BLOCK_SIZE" t ∧ NoClause "WITH PARSER" t ∧
    NoClause "COMMENT" t ∧ NoClause "/*" t ∧ t ≠ [] ∧ t ≠ [',']

/-- The end of a line has no way before more than a comma. -/
theorem ways_lineEnd_eq_nil {c : Cursor n} (hne : c.rest ≠ []) (hcomma : c.rest ≠ [','])
    (caps : Captures) : (((literal ",").opt ++ .atEnd).ways c caps) = [] := by
  have hend : ∀ d : Cursor n, d.rest ≠ [] → Pattern.atEnd.ways d caps = [] := fun d hd => by
    simp [hd]
  rw [ways_append, ways_opt, List.flatMap_append, List.flatMap_singleton, hend c hne,
    List.append_nil, ways_literal]
  split
  · -- a comma is read, and the text goes on after it
    rename_i hpre
    obtain ⟨r, hr⟩ : ∃ r, c.rest = ',' :: r := by
      cases h : c.rest with
      | nil => simp [h] at hpre
      | cons y r =>
        have hy : y ∈ Unicode.foldOrbit ',' := by
          simpa [h, Unicode.foldPrefix] using hpre
        rw [show Unicode.foldOrbit ',' = [','] from Unicode.caseless_punctuation (by decide), List.mem_singleton] at hy
        exact ⟨r, by rw [hy]⟩
    have hr' : (c.skip ",".length).rest ≠ [] := by
      rw [Cursor.rest_skip, hr, show ",".length = 1 from rfl, List.drop_one, List.tail_cons]
      rintro rfl
      exact hcomma hr
    rw [List.flatMap_cons, List.flatMap_nil, List.append_nil]
    exact hend _ hr'
  · rfl

/-- Nothing after the column list can be read where no clause, comma or end stands. -/
theorem keyTail_ways_eq_nil {c : Cursor n} (h : NoTail c.rest) (caps : Captures) :
    keyTail.ways c caps = [] := by
  obtain ⟨hU, hB, hW, hC, hV, hne, hcomma⟩ := h
  have hskip : ∀ p : Pattern, p.ways c caps = [] → ∀ q : Pattern,
      (p.opt ++ q).ways c caps = q.ways c caps := fun p hp q => by simp [hp]
  rw [keyTail, hskip _ (ways_tokenClause_eq_nil _ hU caps), hskip _ (ways_keyBlockClause_eq_nil hB caps),
    hskip _ (ways_tokenClause_eq_nil _ hW caps), hskip _ (ways_commentClause_eq_nil hC caps),
    hskip _ (ways_versionClause_eq_nil hV caps)]
  exact ways_lineEnd_eq_nil hne hcomma caps

/-- A clause whose keyword starts with `x` has no way before a space and a character that is
no case of `x`. -/
theorem noClause_of_head {kw : String} {x y : Char} (hkw : kw.toList.head? = some x)
    (hy : y ∉ Unicode.foldOrbit x) (hy' : y ≠ ' ') (r : List Char) : NoClause kw (' ' :: y :: r) := by
  obtain ⟨xs, hxs⟩ : ∃ xs, kw.toList = x :: xs := by
    cases h : kw.toList with
    | nil => simp [h] at hkw
    | cons z xs => exact ⟨xs, by simpa [h] using hkw⟩
  exact .inr ⟨y :: r, rfl, by simpa using hy', by simp [hxs, hy]⟩

/-- Nothing after the column list can be read at a text that starts with a character other than
a space or a comma. -/
theorem noTail_of_head {t : List Char} {x : Char} (hx : t.head? = some x) (hsp : x ≠ ' ')
    (hcomma : x ≠ ',') : NoTail t := by
  have hno : ∀ kw, NoClause kw t := fun kw => .inl (by rw [hx]; simpa using hsp)
  refine ⟨hno _, hno _, hno _, hno _, hno _, fun h => by simp [h] at hx, fun h => ?_⟩
  subst h
  simp at hx
  exact hcomma hx.symm

/-- Nothing after the column list can be read at a comma that more text follows. -/
theorem noTail_comma {r : List Char} (hr : r ≠ []) : NoTail (',' :: r) := by
  have hno : ∀ kw, NoClause kw (',' :: r) := fun kw => .inl (by simp)
  exact ⟨hno _, hno _, hno _, hno _, hno _, by simp, by simpa using hr⟩

/-- Nothing after the column list can be read at a space and a direction. -/
theorem noTail_direction {d : String} (hd : KeyColumn.DirectionWord d) (r : List Char) :
    NoTail (' ' :: d.toList ++ r) := by
  obtain ⟨x, t, hxt, hx, hk⟩ := hd.head
  rw [hxt]
  exact ⟨noClause_of_head (x := 'U') rfl (hk 'U' (by decide)) hx _,
    noClause_of_head (x := 'K') rfl (hk 'K' (by decide)) hx _,
    noClause_of_head (x := 'W') rfl (hk 'W' (by decide)) hx _,
    noClause_of_head (x := 'C') rfl (hk 'C' (by decide)) hx _,
    noClause_of_head (x := '/') rfl (hk '/' (by decide)) hx _, by simp, by simp⟩

end Grammar

end TableDdl

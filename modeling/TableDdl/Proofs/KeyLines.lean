import TableDdl.Proofs.KeyLineClauses

/-!
# Reading back a written key line

A key line is written as two spaces, an optional kind token, `KEY`, an optional quoted name, an
optional index type, the column list in parentheses and the clauses after it (`KeyLine.text`).
The key grammar reads the line's head part by part (`head?_ways_keyHead`), then the column list
as a lazy group that stops at the first closing parenthesis after which the rest of the line
reads as the clauses (`head?_ways_columnGroup`). A written column list holds no such place
before its end when its names hold no closing parenthesis (`closesBefore_listText`), so the
first way of the key grammar reads the whole line, each part where it was written
(`head?_ways_key`), and the reader gives back the key it was written from
(`readConstraint_keyLine`): the kind its token names, the name, both index types, the columns in
order with their directions in upper case, the key block size, the parser, with the one a
versioned comment names winning, the comment and the versioned comment.

`readConstraint_keyLine_misreads` shows lines that break the conditions and do not read back.
-/

namespace TableDdl

open Pattern Grammar

namespace KeyLine

/-- What a key line writes before the space and parenthesis that open its column list: two
spaces, the kind token and a space, `KEY`, a space and the quoted name, and `USING` and the
index type. -/
def headText (q : Quoting) (k : KeyLine) : String :=
  "  " ++ (k.kindToken.map (· ++ " ")).getD "" ++ "KEY" ++ Render.optionalPart " " (k.name.map q.quote) ++
    Render.optionalPart " USING " k.usingPre

theorem text_toList (q : Quoting) (k : KeyLine) :
    (k.text q).toList = (k.headText q).toList ++ ' ' :: '(' ::
      ((KeyColumn.listText q k.columns).toList ++ ')' :: k.tailText.toList) := by
  have h₁ : " (".toList = [' ', '('] := by simp
  have h₂ : ")".toList = [')'] := by simp
  unfold KeyLine.text headText tailText keyBlockText
  simp only [String.toList_append, h₁, h₂, List.append_assoc, List.cons_append, List.nil_append]

end KeyLine

namespace Grammar

variable {n : Nat}

/-- The key grammar up to the parenthesis that opens the column list. -/
def keyHead (q : Quoting) : Pattern :=
  keyLead ++ (spaces ++ identifier q).opt ++ (tokenClause "USING" "using_pre").opt ++ spaces ++
    literal "("

/-- The key grammar is its head, the column list in `columns`, the closing parenthesis and what
follows the list. -/
theorem key_ways (q : Quoting) (c : Cursor n) (caps : Captures) :
    (key q).ways c caps =
      (keyHead q ++ (.group "columns" (plusLazy anyChar) ++ (literal ")" ++ keyTail))).ways c caps := by
  simp only [key, keyHead, keyLead, keyTail, tokenClause, keyBlockClause, commentClause,
    commentSegment, versionClause, ways_append, List.flatMap_assoc]

/-! ## The head of a key line -/

/-- Where a token without white space, a space and a character that is no case of `K` stand, the
kind token of the key grammar is read up to that space, and `KEY` is not read after it. -/
theorem ways_kindToken_KEY_eq_nil {c : Cursor n} {a r : List Char} {x : Char}
    (htok : ∀ y ∈ a, Unicode.whiteSpace.contains y = false) (hx : x ∉ Unicode.foldOrbit 'K')
    (hc : c.rest = a ++ ' ' :: x :: r) (caps : Captures) :
    ((Pattern.group "type" (plus nonSpace) ++ literal " ") ++ literal "KEY").ways c caps = [] := by
  refine List.eq_nil_iff_forall_not_mem.2 fun w hw => ?_
  obtain ⟨v, hv, hw⟩ := mem_ways_append.1 hw
  obtain ⟨t, ht, hv⟩ := mem_ways_append.1 hv
  rw [ways_group] at ht
  obtain ⟨t', ht', rfl⟩ := List.mem_map.1 ht
  obtain ⟨⟨u, ⟨-, hu⟩, hct⟩, -⟩ := reads_nonSpaces.mem_ways
    (by simp [plus, nonSpace, noneOf, groupNames]) ht'
  obtain ⟨⟨sp, hsp, htv⟩, -⟩ := (Reads.literal " " (by simpa using Unicode.caseless_punctuation (x := ' ') (by decide))).mem_ways (by simp) hv
  change sp = [' '] at hsp
  subst hsp
  have hsplit : u ++ ' ' :: v.1.rest = a ++ ' ' :: x :: r := by
    rw [← hc, hct, htv]
    rfl
  have hu' : ' ' ∉ u := fun h => by simpa [whiteSpace_space] using hu ' ' h
  have htok' : ' ' ∉ a := fun h => by simpa [whiteSpace_space] using htok ' ' h
  obtain ⟨-, hvr⟩ := eq_of_append_cons hu' htok' hsplit
  simp [ways_KEY_eq_nil hx hvr] at hw

/-- The start of a key line, two spaces, the kind token and a space and `KEY`, is read first as
written, before a space and a character that is no case of `K`; the kind token is recorded under
`type`. -/
theorem head?_ways_keyLead {kind : Option String}
    (hkind : ∀ t ∈ kind, t ≠ "" ∧ ∀ y ∈ t.toList, Unicode.whiteSpace.contains y = false)
    {x : Char} (hx : x ∉ Unicode.foldOrbit 'K') {r s : List Char}
    (hs : s = "  ".toList ++ ((kind.map (· ++ " ")).getD "").toList ++ "KEY".toList ++ ' ' :: x :: r) :
    (keyLead.ways (Cursor.start s) []).head? =
      some ((Cursor.start s).skip (2 + ((kind.map (· ++ " ")).getD "").length + 3),
        clauseCaptures "type" 2 kind 0) := by
  have hstart : (Pattern.atStart ++ literal "  ").OneWay (Cursor.start s) [] ((Cursor.start s).skip 2, []) := by
    have hlit : (literal "  ").ways (Cursor.start s) [] = [((Cursor.start s).skip 2, [])] :=
      ways_literal_self (Unicode.foldPrefix_grammarWord (by decide)) (r := ((kind.map (· ++ " ")).getD "").toList ++
        "KEY".toList ++ ' ' :: x :: r) (by rw [Cursor.rest_start, hs]; simp) []
    exact OneWay.of_ways_eq (by simp [Cursor.pos_start, hlit])
  have hc₂ : ((Cursor.start s).skip 2).rest =
      ((kind.map (· ++ " ")).getD "").toList ++ "KEY".toList ++ ' ' :: x :: r := by
    rw [Cursor.rest_skip, Cursor.rest_start, hs]
    simp
  cases kind with
  | none =>
    -- no kind token: the optional token would be `KEY` itself, which no `KEY` follows
    have hKEY : ∀ y ∈ "KEY".toList, Unicode.whiteSpace.contains y = false := by
      intro y hy
      simp only [show "KEY".toList = ['K', 'E', 'Y'] from rfl, List.mem_cons, List.not_mem_nil,
        or_false] at hy
      rcases hy with rfl | rfl | rfl <;> (rw [Unicode.whiteSpace_grammar (by decide)]; decide)
    have hnil := ways_kindToken_KEY_eq_nil (c := (Cursor.start s).skip 2) (a := "KEY".toList)
      (r := r) hKEY hx (by rw [hc₂]; simp) []
    have hkey : (literal "KEY").ways ((Cursor.start s).skip 2) [] =
        [(((Cursor.start s).skip 2).skip 3, [])] :=
      ways_literal_self (Unicode.foldPrefix_grammarWord (by decide)) (r := ' ' :: x :: r) (by rw [hc₂]; simp) []
    rw [keyLead, ways_append_assoc, hstart.head?_append, ways_append, ways_opt,
      List.flatMap_append, ← ways_append, hnil, List.nil_append, List.flatMap_singleton, hkey]
    simp [clauseCaptures, Cursor.skip_skip]
  | some t =>
    obtain ⟨ht, htw⟩ := hkind t rfl
    have hc₂' : ((Cursor.start s).skip 2).rest = t.toList ++ ' ' :: ("KEY".toList ++ ' ' :: x :: r) := by
      simpa using hc₂
    have htok := head?_ways_plus_chars (k := CharClass.noneOf [.space]) (by simpa using ht)
      (fun y hy => by simpa [CharClass.noneOf, CharClass.anyOf, CharClass.admits, ClassItem.admits] using htw y hy)
      (by simp [CharClass.noneOf, CharClass.anyOf, CharClass.admits, ClassItem.admits, whiteSpace_space])
      hc₂' []
    have hc₃ := Cursor.skip_text_rest hc₂'
    have hc₄ : ((((Cursor.start s).skip 2).skip t.length).skip 1).rest = "KEY".toList ++ ' ' :: x :: r := by
      rw [Cursor.rest_skip, hc₃]
      rfl
    have hpos₂ : ((Cursor.start s).skip 2).pos = 2 := by
      rw [pos_skip_of_le (by rw [hs]; simp), Cursor.pos_start]
    have hpos₃ := Cursor.skip_text_pos hc₂'
    -- the token and its space, recorded under `type`
    have hG : ((Pattern.group "type" (plus nonSpace) ++ literal " ").ways ((Cursor.start s).skip 2) []).head? =
        some ((((Cursor.start s).skip 2).skip t.length).skip 1, [("type", 2, 2 + t.length)]) := by
      rw [String.length_toList] at htok
      refine head?_ways_append_of_head?
        (v := (((Cursor.start s).skip 2).skip t.length, [("type", 2, 2 + t.length)]))
        (by rw [head?_ways_group, nonSpace, noneOf, htok, Option.map_some, hpos₃, hpos₂]) ?_
      rw [ways_literal_self (s := " ") (Unicode.foldPrefix_grammarWord (by decide)) (r := "KEY".toList ++ ' ' :: x :: r)
        (by rw [hc₃]; rfl)]
      rfl
    have hkey := ways_literal_self (s := "KEY") (Unicode.foldPrefix_grammarWord (by decide)) (r := ' ' :: x :: r) hc₄
      [("type", 2, 2 + t.length)]
    rw [keyLead, ways_append_assoc, hstart.head?_append,
      head?_ways_append_of_head? (head?_ways_opt_of_head? hG) (by rw [hkey]; rfl)]
    simp [clauseCaptures, Cursor.skip_skip, show " ".length = 1 from rfl, show "KEY".length = 3 from rfl]
    rw [Nat.add_assoc 2]

section OneChar

variable {q : Quoting} {i : Char} (hq : q.OneChar i i)
include hq

/-- The name of a key line, a space and the quoted name, is read first with the name's escaped
body when it is written, and skipped when it is not, before a space and a character that is
neither a space nor a quote. -/
theorem head?_ways_keyName (name : Option String) (hn : ∀ x ∈ name, x ≠ "") {y : Char}
    (hy : y ≠ ' ' ∧ y ≠ i) {r : List Char} {c : Cursor n}
    (hc : c.rest = (Render.optionalPart " " (name.map q.quote)).toList ++ ' ' :: y :: r)
    (caps : Captures) :
    ((spaces ++ identifier q).opt.ways c caps).head? =
      some (c.skip (Render.optionalPart " " (name.map q.quote)).length,
        clauseCaptures "name" 2 (name.map fun x => String.ofList (escapedName i x)) c.pos ++ caps) := by
  cases name with
  | none =>
    -- after the space stands no quote
    have hc' : c.rest = ' ' :: y :: r := by simpa [Render.optionalPart] using hc
    have hsp := spaces_oneWay (by simpa using hy.1) hc' caps
    have hid : (identifier q).ways (c.skip 1) caps = [] := by
      unfold identifier
      refine ways_append_eq_nil _ (ways_append_eq_nil _ ?_)
      exact ways_literal_caseless_of_ne hq.initial_eq hq.initial_caseless
        (by rw [Cursor.rest_skip, hc']; simpa using hy.2) caps
    rw [head?_ways_opt_of_nil (hsp.append_eq_nil hid)]
    simp [Render.optionalPart, clauseCaptures]
  | some x =>
    have hx := hn x rfl
    have hc' : c.rest = ' ' :: ((q.quote x).toList ++ ' ' :: y :: r) := by
      rw [hc]
      simp [Render.optionalPart]
    have hsp := spaces_oneWay (by rw [quote_toList hq]; simpa using hq.final_ne_space) hc' caps
    have hid := head?_ways_identifier hq hx (r := ' ' :: y :: r)
      (by simpa using hq.final_ne_space.symm) (c := c.skip 1) (by rw [Cursor.rest_skip, hc']; rfl) caps
    have hlen : 1 + ((escapedName i x).length + 2) ≤ c.rest.length := by
      rw [hc', List.length_cons, List.length_append, quote_toList hq]
      simp
      omega
    rw [head?_ways_opt_of_head? (by rw [hsp.head?_append]; exact hid)]
    simp only [Cursor.skip_skip, Render.optionalPart, Option.map_some, String.length_append,
      clauseCaptures, Option.toList_some, List.singleton_append, String.length_ofList]
    have hq' : (q.quote x).length = (escapedName i x).length + 2 := by
      rw [← String.length_toList, quote_toList hq]
      simp
    rw [hq', pos_skip_of_le (by omega), show " ".length = 1 from rfl, Nat.add_assoc c.pos]

/-- The groups that the head of a key line records, the last one first: the index type before
the column list, the name's escaped body and the kind token. -/
def keyHeadCaptures (q : Quoting) (i : Char) (k : KeyLine) : Captures :=
  clauseCaptures "using_pre" 7 k.usingPre
      (2 + ((k.kindToken.map (· ++ " ")).getD "").length + 3 +
        (Render.optionalPart " " (k.name.map q.quote)).length) ++
    clauseCaptures "name" 2 (k.name.map fun x => String.ofList (escapedName i x))
      (2 + ((k.kindToken.map (· ++ " ")).getD "").length + 3) ++
    clauseCaptures "type" 2 k.kindToken 0

/-- The head of a readable key line is read first as written, up to the parenthesis that opens
its column list: the kind token, the name and the index type, each present part with its
group. -/
theorem head?_ways_keyHead (hi : i ∉ Unicode.foldOrbit 'K' ∧ i ≠ '(' ∧ i ≠ 'U') {k : KeyLine}
    (hk : k.Readable) {s r : List Char} (hs : s = (k.headText q).toList ++ ' ' :: '(' :: r) :
    ((keyHead q).ways (Cursor.start s) []).head? =
      some ((Cursor.start s).skip ((k.headText q).length + 2), keyHeadCaptures q i k) := by
  set K := (k.kindToken.map (· ++ " ")).getD "" with hKt
  set N := Render.optionalPart " " (k.name.map q.quote) with hN
  set U := Render.optionalPart " USING " k.usingPre with hU
  have hsp : i ≠ ' ' := hq.final_ne_space
  -- the character after the name: `U` or the parenthesis
  obtain ⟨y, r₁, hy, hyne⟩ : ∃ y r₁, U.toList ++ ' ' :: '(' :: r = ' ' :: y :: r₁ ∧
      y ≠ ' ' ∧ y ≠ i ∧ y ∉ Unicode.foldOrbit 'K' := by
    cases hu : k.usingPre with
    | none => exact ⟨'(', r, by simp [hU, hu, Render.optionalPart], by decide, hi.2.1.symm,
        Unicode.not_mem_foldOrbit_grammar (by decide) (by decide) (by decide)⟩
    | some u => exact ⟨'U', "SING ".toList ++ u.toList ++ ' ' :: '(' :: r,
        by simp [hU, hu, Render.optionalPart], by decide, hi.2.2.symm,
        Unicode.not_mem_foldOrbit_grammar (by decide) (by decide) (by decide)⟩
  -- the character after `KEY `: a quote, `U` or the parenthesis
  obtain ⟨x, r₂, hx, hxK⟩ : ∃ x r₂, N.toList ++ (U.toList ++ ' ' :: '(' :: r) = ' ' :: x :: r₂ ∧
      x ∉ Unicode.foldOrbit 'K' := by
    cases hn : k.name with
    | none => exact ⟨y, r₁, by simpa [hN, hn, Render.optionalPart] using hy, hyne.2.2⟩
    | some nm => exact ⟨i, escapedName i nm ++ i :: (U.toList ++ ' ' :: '(' :: r),
        by simp [hN, hn, Render.optionalPart, quote_toList hq], hi.1⟩
  have hhead : (k.headText q).toList = "  ".toList ++ K.toList ++ "KEY".toList ++ N.toList ++ U.toList := by
    simp [KeyLine.headText, hKt, hN, hU]
  have hL := head?_ways_keyLead hk.kind_token hxK (r := r₂) (s := s)
    (by rw [hs, hhead, ← hx]; simp [hKt])
  -- the name, the index type, the space and the parenthesis, from where `KEY` ends
  have hlead : ("  " ++ K ++ "KEY").length = 2 + K.length + 3 := by
    simp only [String.length_append, show "  ".length = 2 from rfl, show "KEY".length = 3 from rfl]
  have hc₁ : ((Cursor.start s).skip (2 + K.length + 3)).rest =
      N.toList ++ (U.toList ++ ' ' :: '(' :: r) := by
    rw [← hlead]
    exact Cursor.skip_text_rest (by rw [Cursor.rest_start, hs, hhead]; simp)
  have hc₂ := Cursor.skip_text_rest hc₁
  have hc₃ := Cursor.skip_text_rest hc₂
  have hN' := head?_ways_keyName hq k.name hk.name_ne ⟨hyne.1, hyne.2.1⟩ (r := r₁)
    (c := (Cursor.start s).skip (2 + K.length + 3)) (by rw [hc₁, hy]) (clauseCaptures "type" 2 k.kindToken 0)
  have hparenU : '(' ∉ Unicode.foldOrbit 'U' :=
    Unicode.not_mem_foldOrbit_grammar (by decide) (by decide) (by decide)
  have hU' := head?_ways_tokenClause (l := " USING ") (w := "USING") "using_pre" rfl
    (Unicode.foldPrefix_grammarWord (by decide)) (by decide) (by decide) k.usingPre
    hk.usingPre_token (t := ' ' :: '(' :: r) (Or.inr (Or.inl rfl))
    (fun h => by rw [hc₂, hU, h]; exact noClause_of_head rfl hparenU (by decide) r)
    hc₂ (clauseCaptures "name" 2 (k.name.map fun x => String.ofList (escapedName i x))
      ((Cursor.start s).skip (2 + K.length + 3)).pos ++ clauseCaptures "type" 2 k.kindToken 0)
  have hsp₃ := spaces_oneWay (t := '(' :: r) (by simp) hc₃
  have hparen := ways_literal_self (s := "(") (Unicode.foldPrefix_grammarWord (by decide)) (r := r)
    (c := (((Cursor.start s).skip (2 + K.length + 3)).skip N.length).skip U.length |>.skip 1)
    (by rw [Cursor.rest_skip, hc₃]; rfl)
  rw [keyHead, head?_ways_append_of_head? (head?_ways_append_of_head? (head?_ways_append_of_head?
    (head?_ways_append_of_head? hL hN') hU') (hsp₃ _).head?) (by rw [hparen]; rfl)]
  -- where each part starts
  have hlen : (k.headText q).length = 2 + K.length + 3 + N.length + U.length := by
    rw [← String.length_toList, hhead]
    simp only [List.length_append, String.length_toList, show "  ".length = 2 from rfl,
      show "KEY".length = 3 from rfl]
  have hs' : s.length = (k.headText q).length + 2 + r.length := by
    rw [hs, List.length_append, String.length_toList]
    simp
    omega
  have hpos : ∀ j ≤ (k.headText q).length, ((Cursor.start s).skip j).pos = j := fun j hj => by
    rw [pos_skip_of_le (by rw [Cursor.rest_start]; omega), Cursor.pos_start, Nat.zero_add]
  simp only [Cursor.skip_skip, keyHeadCaptures, hpos (2 + K.length + 3) (by omega),
    hpos (2 + K.length + 3 + N.length) (by omega), show "(".length = 1 from rfl,
    show "USING".length + 2 = 7 from rfl]
  rw [hlen, List.append_assoc]

end OneChar

/-! ## The column list -/

/-- The first `k` characters of a text hold no place where the column group of a key line can
stop: each closing parenthesis among them is followed by a text at which nothing that may follow
the column list can be read. -/
def ClosesBefore (s : List Char) (k : Nat) : Prop :=
  ∀ j < k, ∀ t, s.drop j = ')' :: t → NoTail t

theorem closesBefore_append {s : List Char} {a b : Nat} (h₁ : ClosesBefore s a)
    (h₂ : ClosesBefore (s.drop a) b) : ClosesBefore s (a + b) := by
  intro j hj t ht
  by_cases hja : j < a
  · exact h₁ j hja t ht
  · obtain ⟨j', rfl⟩ := Nat.exists_eq_add_of_le (Nat.le_of_not_lt hja)
    exact h₂ j' (by omega) t (by rwa [List.drop_drop])

/-- A text without a closing parenthesis holds no place to stop. -/
theorem closesBefore_of_not_mem {u : List Char} (hu : ')' ∉ u) (r : List Char) :
    ClosesBefore (u ++ r) u.length := by
  intro j hj t ht
  obtain ⟨z, zs, hz⟩ := List.exists_cons_of_ne_nil (by simpa using hj : u.drop j ≠ [])
  rw [List.drop_append_of_le_length (Nat.le_of_lt hj), hz, List.cons_append,
    List.cons.injEq] at ht
  exact absurd (List.mem_of_mem_drop (ht.1 ▸ hz ▸ List.mem_cons_self)) hu

/-- A closing parenthesis before a text at which nothing after the column list can be read is
no place to stop. -/
theorem closesBefore_close {t : List Char} (ht : NoTail t) : ClosesBefore (')' :: t) 1 := by
  intro j hj t' ht'
  obtain rfl : j = 0 := by omega
  rw [List.drop_zero, List.cons.injEq] at ht'
  exact ht'.2 ▸ ht

theorem not_mem_toString (k : Nat) : ')' ∉ (toString k).toList := by
  rw [Nat.toString_eq_ofList_toDigits, String.toList_ofList]
  intro h
  have hdigit := Nat.isDigit_of_mem_toDigits (by decide) (by decide) h
  revert hdigit
  decide

/-- A written entry of a column list, followed by a text at which nothing after the column list
can be read, holds no place to stop: the only closing parenthesis in it ends the length, and a
direction or that text follows it. -/
theorem closesBefore_entry {i : Char} (hq : q.OneChar i i) (hi : i ≠ ')') {kc : KeyColumn}
    (hkc : kc.Readable) (hname : ')' ∉ kc.name.toList) {r : List Char} (hr : NoTail r) :
    ClosesBefore ((kc.text q).toList ++ r) (kc.text q).length := by
  set L := (Render.optionalPart "(" (kc.length.map fun k => toString k ++ ")")).toList with hL
  set D := (Render.optionalPart " " kc.direction).toList with hD
  -- the direction holds no parenthesis, and nothing that follows the column list is read after it
  have hDno : ')' ∉ D := by
    rw [hD]
    cases hd : kc.direction with
    | none => simp [Render.optionalPart]
    | some d =>
      simpa [Render.optionalPart] using
        (KeyColumn.directionWord_of_toUpper (hkc.direction_mem d hd)).close_not_mem
  have hDr : NoTail (D ++ r) := by
    rw [hD]
    cases hd : kc.direction with
    | none => simpa [Render.optionalPart] using hr
    | some d =>
      simpa [Render.optionalPart] using
        noTail_direction (KeyColumn.directionWord_of_toUpper (hkc.direction_mem d hd)) r
  have hQ : ')' ∉ (q.quote kc.name).toList := by
    rw [quote_toList hq]
    intro h
    rcases List.mem_append.1 h with h | h
    · rcases List.mem_cons.1 h with h | h
      · exact hi h.symm
      · rcases mem_escapedName h with h | h
        · exact hi h.symm
        · exact hname h
    · exact hi (List.mem_singleton.1 h).symm
  have hLD : ClosesBefore (L ++ (D ++ r)) L.length := by
    rw [hL]
    cases hk : kc.length with
    | none => exact fun j hj => absurd hj (by simp [Render.optionalPart])
    | some k =>
      have hsplit : (Render.optionalPart "(" ((some k).map fun k => toString k ++ ")")).toList =
          ('(' :: (toString k).toList) ++ [')'] := by
        simp [Render.optionalPart]
      rw [hsplit, List.append_assoc, List.singleton_append, List.length_append, List.length_singleton]
      refine closesBefore_append (closesBefore_of_not_mem ?_ _) ?_
      · simpa using not_mem_toString k
      · rw [List.drop_left]
        exact closesBefore_close hDr
  have htext : (kc.text q).toList ++ r = (q.quote kc.name).toList ++ (L ++ (D ++ r)) := by
    rw [KeyColumn.text_toList]
    simp [hL, hD]
  have hlen : (kc.text q).length = (q.quote kc.name).toList.length + L.length + D.length := by
    rw [← String.length_toList, KeyColumn.text_toList]
    simp [hL, hD]
    omega
  rw [htext, hlen]
  refine closesBefore_append (closesBefore_append (closesBefore_of_not_mem hQ _) ?_) ?_
  · rwa [List.drop_left]
  · rw [← List.length_append, ← List.append_assoc, List.drop_left]
    exact closesBefore_of_not_mem hDno r


/-- A column list of readable entries whose names hold no closing parenthesis holds no place to
stop before the parenthesis that closes it. -/
theorem closesBefore_listText {i : Char} (hq : q.OneChar i i) (hi : i ≠ ')') {cs : List KeyColumn}
    (hne : cs ≠ []) (hcs : ∀ kc ∈ cs, kc.Readable ∧ ')' ∉ kc.name.toList) (t : List Char) :
    ClosesBefore ((KeyColumn.listText q cs).toList ++ ')' :: t) (KeyColumn.listText q cs).length := by
  -- induction on the entries: each entry is followed by a comma or by the closing parenthesis
  induction cs with
  | nil => exact absurd rfl hne
  | cons a cs ih =>
    have ha := hcs a List.mem_cons_self
    cases cs with
    | nil =>
      rw [KeyColumn.listText_singleton]
      exact closesBefore_entry hq hi ha.1 ha.2 (noTail_of_head rfl (by decide) (by decide))
    | cons b cs =>
      have hrest := ih (List.cons_ne_nil _ _) fun kc hkc => hcs kc (List.mem_cons_of_mem a hkc)
      have htext : (KeyColumn.listText q (a :: b :: cs)).toList ++ ')' :: t =
          (a.text q).toList ++ ([','] ++ ((KeyColumn.listText q (b :: cs)).toList ++ ')' :: t)) := by
        rw [KeyColumn.listText_cons_cons]
        simp
      have hlen : (KeyColumn.listText q (a :: b :: cs)).length =
          (a.text q).length + ([','].length + (KeyColumn.listText q (b :: cs)).length) := by
        rw [← String.length_toList, KeyColumn.listText_cons_cons, ← String.length_toList,
          ← String.length_toList]
        simp
        omega
      rw [htext, hlen]
      refine closesBefore_append (closesBefore_entry hq hi ha.1 ha.2 (noTail_comma (by simp))) ?_
      rw [← String.length_toList, List.drop_left]
      refine closesBefore_append (closesBefore_of_not_mem (by decide) _) ?_
      rwa [List.drop_left]

/-- A written entry starts with the initial quote. -/
theorem head?_entryText {i : Char} (hq : q.OneChar i i) (kc : KeyColumn) :
    (kc.text q).toList.head? = some i := by
  rw [KeyColumn.text_toList, quote_toList hq]
  rfl

/-- A written column list starts with the initial quote of its first entry. -/
theorem head?_listText {i : Char} (hq : q.OneChar i i) {cs : List KeyColumn} (hne : cs ≠ []) :
    (KeyColumn.listText q cs).toList.head? = some i := by
  obtain ⟨a, cs, rfl⟩ := List.exists_cons_of_ne_nil hne
  cases cs with
  | nil => rw [KeyColumn.listText_singleton, head?_entryText hq]
  | cons b cs =>
    have hne' : (a.text q).toList ≠ [] := fun h => by simpa [h] using head?_entryText hq a
    rw [KeyColumn.listText_cons_cons, List.head?_append_of_ne_nil _ hne', head?_entryText hq]

/-- A written entry holds no line break when its name holds none. -/
theorem newline_not_mem_entryText {i : Char} (hq : q.OneChar i i) (hi : i ≠ '\n') {kc : KeyColumn}
    (hkc : kc.Readable) (hname : '\n' ∉ kc.name.toList) : '\n' ∉ (kc.text q).toList := by
  rw [KeyColumn.text_toList, quote_toList hq]
  intro h
  rcases List.mem_append.1 h with h | hD
  · rcases List.mem_append.1 h with hQ | hL
    · -- the quoted name
      rcases List.mem_append.1 hQ with h | h
      · rcases List.mem_cons.1 h with h | h
        · exact hi h.symm
        · rcases mem_escapedName h with h | h
          · exact hi h.symm
          · exact hname h
      · exact hi (List.mem_singleton.1 h).symm
    · -- the length: parentheses and digits
      cases hk : kc.length with
      | none => simp [hk, Render.optionalPart] at hL
      | some k =>
        simp only [hk, Render.optionalPart, Option.map_some, String.toList_append, List.mem_append] at hL
        rcases hL with h | h | h
        · simp at h
        · rw [Nat.toString_eq_ofList_toDigits, String.toList_ofList] at h
          exact absurd (Nat.isDigit_of_mem_toDigits (by decide) (by decide) h) (by decide)
        · simp at h
  · -- the direction
    cases hd : kc.direction with
    | none => simp [hd, Render.optionalPart] at hD
    | some d =>
      rw [hd] at hD
      simp [Render.optionalPart] at hD
      exact (KeyColumn.directionWord_of_toUpper (hkc.direction_mem d hd)).newline_not_mem hD

/-- A written column list holds no line break when its names hold none. -/
theorem newline_not_mem_listText {i : Char} (hq : q.OneChar i i) (hi : i ≠ '\n')
    {cs : List KeyColumn} (hcs : ∀ kc ∈ cs, kc.Readable ∧ '\n' ∉ kc.name.toList) :
    '\n' ∉ (KeyColumn.listText q cs).toList := by
  induction cs with
  | nil => simp [KeyColumn.listText]
  | cons a cs ih =>
    have ha := newline_not_mem_entryText hq hi (hcs a List.mem_cons_self).1
      (hcs a List.mem_cons_self).2
    cases cs with
    | nil => rwa [KeyColumn.listText_singleton]
    | cons b cs =>
      have hrest := ih fun kc hkc => hcs kc (List.mem_cons_of_mem a hkc)
      rw [KeyColumn.listText_cons_cons]
      simp only [List.mem_append, List.mem_cons, not_or]
      exact ⟨ha, by decide, hrest⟩

/-- Where a closing parenthesis stands, it and the key's tail have no way unless what follows
the parenthesis can be read as the tail. -/
theorem ways_close_eq_nil {c : Cursor n} (h : ∀ t, c.rest = ')' :: t → NoTail t) (caps : Captures) :
    (literal ")" ++ keyTail).ways c caps = [] := by
  cases hr : c.rest with
  | nil =>
    refine ways_append_eq_nil _ ?_
    rw [ways_literal, hr]
    rfl
  | cons z t =>
    by_cases hz : z = ')'
    · subst hz
      rw [ways_append, ways_literal_self (Unicode.foldPrefix_grammarWord (by decide)) (r := t) (by rw [hr]; rfl),
        List.flatMap_singleton]
      exact keyTail_ways_eq_nil (by rw [Cursor.rest_skip, hr]; exact h t hr) _
    · exact ways_append_eq_nil _ (ways_literal_caseless_of_ne (x := ')') rfl (Unicode.caseless_punctuation (by decide))
        (by rw [hr]; simpa using hz) caps)

/-- The column group of a key line stops at the first closing parenthesis after which the key's
tail can be read: over a column list that holds no other place to stop, the first way of the
group, the parenthesis and the tail is the tail's first way after the whole list. -/
theorem head?_ways_columnGroup {l t : List Char} (hl : l ≠ []) (hnl : '\n' ∉ l)
    (hcl : ClosesBefore (l ++ ')' :: t) l.length) {c : Cursor n} (hc : c.rest = l ++ ')' :: t)
    (caps : Captures) {w : Cursor n × Captures}
    (hw : (keyTail.ways (c.skip (l.length + 1)) (("columns", c.pos, c.pos + l.length) :: caps)).head? =
      some w) :
    ((Pattern.group "columns" (plusLazy anyChar) ++ (literal ")" ++ keyTail)).ways c caps).head? =
      some w := by
  obtain ⟨x, u, rfl⟩ := List.exists_cons_of_ne_nil hl
  have hcase : Unicode.Caseless '\n' := Unicode.caseless_punctuation (by decide)
  have hadm : ∀ y ∈ u, (CharClass.noneOf [.char '\n']).admits y = true :=
    fun y hy => (admits_noneOf_caseless hcase y).2 fun h => hnl (by subst h; simp_all)
  have hfirst : anyChar.ways c caps = [(c.skip 1, caps)] := by
    have hx : x ≠ '\n' := fun h => hnl (by simp [h])
    rw [anyChar, noneOf, ways_chars, hc]
    simp [(admits_noneOf_caseless hcase x).2 hx]
  have hc₁ : (c.skip 1).rest = u ++ ')' :: t := by simp [hc]
  -- the group cannot stop before the closing parenthesis of the list
  have hK : ∀ j < u.length, (literal ")" ++ keyTail).ways ((c.skip 1).skip j)
      (("columns", c.pos, ((c.skip 1).skip j).pos) :: caps) = [] := by
    intro j hj
    refine ways_close_eq_nil (fun t' ht' => hcl (1 + j) (by simp; omega) t' ?_) _
    rw [← ht', Cursor.skip_skip, Cursor.rest_skip, hc]
  have hc' : ((c.skip 1).skip u.length).rest = ")".toList ++ t := by
    rw [Cursor.rest_skip, hc₁, List.drop_left]
    rfl
  have hlen : 1 + u.length ≤ c.rest.length := by
    rw [hc]
    simp
    omega
  rw [ways_append, ways_group, List.flatMap_map, plusLazy, ways_append, List.flatMap_assoc, hfirst,
    List.flatMap_singleton, anyChar, noneOf]
  rw [flatMap_ways_lazy_skip _ hadm hc₁ caps hK, flatMap_ways_lazy_chars, List.head?_append]
  dsimp only
  have hpos : ((c.skip 1).skip u.length).pos = c.pos + (x :: u).length := by
    rw [Cursor.skip_skip, pos_skip_of_le hlen, List.length_cons]
    omega
  rw [ways_append, ways_literal_self (Unicode.foldPrefix_grammarWord (by decide)) hc', List.flatMap_singleton, hpos]
  dsimp only
  rw [Cursor.skip_skip, Cursor.skip_skip,
    show 1 + (u.length + ")".length) = (x :: u).length + 1 by simp [show ")".length = 1 from rfl]; omega,
    hw]
  rfl

/-! ## The first way of the key grammar -/

/-- The groups that the key grammar records over a key line, the last one first: the clauses
after the column list, the column list and the head. -/
def keyCaptures (q : Quoting) (i : Char) (k : KeyLine) : Captures :=
  keyTailCaptures k ((k.headText q).length + 2 + (KeyColumn.listText q k.columns).length + 1) ++
    ("columns", (k.headText q).length + 2,
      (k.headText q).length + 2 + (KeyColumn.listText q k.columns).length) :: keyHeadCaptures q i k

section OneChar

variable {q : Quoting} {i : Char} (hq : q.OneChar i i)
include hq

/-- The first way of the key grammar over a readable key line reads the whole line, each part as
written: the column group stops at the parenthesis that closes the list. -/
theorem head?_ways_key (hi : i ∉ Unicode.foldOrbit 'K' ∧ i ≠ '(' ∧ i ≠ 'U' ∧ i ≠ ')' ∧ i ≠ '\n')
    {k : KeyLine} (hk : k.Readable) :
    ((key q).ways (Cursor.start (k.text q).toList) []).head? =
      some ((Cursor.start (k.text q).toList).skip (k.text q).length, keyCaptures q i k) := by
  obtain ⟨hK, hparen, hU, hclose, hnl⟩ := hi
  set s := (k.text q).toList with hs
  set l := (KeyColumn.listText q k.columns).toList with hl
  set h := (k.headText q).length with hh
  have hsplit : s = (k.headText q).toList ++ ' ' :: '(' :: (l ++ ')' :: k.tailText.toList) :=
    KeyLine.text_toList q k
  have hslen : s.length = h + 2 + l.length + 1 + k.tailText.length := by
    rw [hsplit]
    simp [hh, String.length_toList]
    omega
  -- the column list: not empty, without line breaks, and without a place to stop before its end
  have hlne : l ≠ [] := fun he => by
    have hhead := head?_listText hq hk.columns_ne
    rw [← hl, he] at hhead
    simp at hhead
  have hlnl : '\n' ∉ l := newline_not_mem_listText hq hnl fun kc hkc =>
    ⟨(hk.columns_readable kc hkc).1, (hk.columns_readable kc hkc).2.2⟩
  have hcl : ClosesBefore (l ++ ')' :: k.tailText.toList) l.length := by
    rw [hl, String.length_toList]
    exact closesBefore_listText hq hclose hk.columns_ne
      (fun kc hkc => ⟨(hk.columns_readable kc hkc).1, (hk.columns_readable kc hkc).2.1⟩) _
  -- where the column list and the tail start
  have hcH : ((Cursor.start s).skip (h + 2)).rest = l ++ ')' :: k.tailText.toList := by
    rw [Cursor.rest_skip, Cursor.rest_start, hsplit, hh, ← String.length_toList]
    simp
  have hposH : ((Cursor.start s).skip (h + 2)).pos = h + 2 := by
    rw [pos_skip_of_le (by rw [Cursor.rest_start]; omega), Cursor.pos_start, Nat.zero_add]
  have hcT : (((Cursor.start s).skip (h + 2)).skip (l.length + 1)).rest = k.tailText.toList := by
    rw [Cursor.rest_skip, hcH, show l.length + 1 = (l ++ [')']).length by simp,
      show l ++ ')' :: k.tailText.toList = (l ++ [')']) ++ k.tailText.toList by simp, List.drop_left]
  have hT := head?_ways_keyTail hk hcT
    (("columns", ((Cursor.start s).skip (h + 2)).pos, ((Cursor.start s).skip (h + 2)).pos + l.length) ::
      keyHeadCaptures q i k)
  rw [key_ways, head?_ways_append_of_head? (head?_ways_keyHead hq ⟨hK, hparen, hU⟩ hk hsplit)
    (head?_ways_columnGroup hlne hlnl hcl hcH _ hT)]
  have hposT : (((Cursor.start s).skip (h + 2)).skip (l.length + 1)).pos = h + 2 + l.length + 1 := by
    rw [Cursor.skip_skip, pos_skip_of_le (by rw [Cursor.rest_start]; omega), Cursor.pos_start]
    omega
  have htext : (k.text q).length = s.length := by rw [hs, String.length_toList]
  have hend : (((Cursor.start s).skip (h + 2)).skip (l.length + 1)).skip k.tailText.length =
      (Cursor.start s).skip (k.text q).length := by
    have hsum : h + 2 + (l.length + 1 + k.tailText.length) = (k.text q).length := by omega
    rw [Cursor.skip_skip, Cursor.skip_skip, hsum]
  have hcaps : keyTailCaptures k (((Cursor.start s).skip (h + 2)).skip (l.length + 1)).pos ++
      ("columns", ((Cursor.start s).skip (h + 2)).pos, ((Cursor.start s).skip (h + 2)).pos + l.length) ::
        keyHeadCaptures q i k = keyCaptures q i k := by
    rw [hposT, hposH, keyCaptures, hh, hl, String.length_toList]
  rw [hend, hcaps]

end OneChar

/-! ## The groups of a key line -/

@[simp] theorem find?_clauseCaptures (g g' : String) (k : Nat) (a : Option String) (p : Nat) :
    (clauseCaptures g k a p).find? (·.1 == g') =
      if g = g' then a.map fun x => (g, p + k, p + k + x.length) else none := by
  cases a <;> by_cases h : g = g' <;> simp [clauseCaptures, h]

/-- A group found over a text that stands at its start reads that text back. -/
theorem group?_eq_of_find? {m : Match} {s : List Char} {g : String} {p : Nat} {a : Option String}
    (hfind : m.captures.find? (·.1 == g) = a.map fun x => (g, p, p + x.length))
    (hs : ∀ x ∈ a, ∃ t, s.drop p = x.toList ++ t) : m.group? s g = a := by
  cases a with
  | none => simp [Match.group?, Match.span?, hfind]
  | some x =>
    obtain ⟨t, ht⟩ := hs x rfl
    have hslice := Match.slice_of_drop ht
    rw [String.length_toList, String.ofList_toList] at hslice
    simp [Match.group?, Match.span?, hfind, hslice]

/-- After a text that a written part starts with, its value stands. -/
theorem drop_optionalPart_some {s r : List Char} {p : Nat} {l x : String}
    (hs : s.drop p = (Render.optionalPart l (some x)).toList ++ r) :
    s.drop (p + l.length) = x.toList ++ r := by
  rw [← List.drop_drop, hs]
  simp only [Render.optionalPart, String.toList_append, List.append_assoc]
  rw [← String.length_toList, List.drop_left]

/-- The groups of the head of a key line read back its kind token, the escaped body of its name
and its index type. -/
theorem keyHead_groups {q : Quoting} {i : Char} (hq : q.OneChar i i) (k : KeyLine) {s r : List Char}
    (hs : s = (k.headText q).toList ++ r) {m : Match} {f : Captures}
    (hfront : ∀ g ∈ ["using_pre", "name", "type"], f.find? (·.1 == g) = none)
    (hm : m.captures = f ++ keyHeadCaptures q i k) :
    m.group? s "type" = k.kindToken ∧
      m.group? s "name" = k.name.map (fun x => String.ofList (escapedName i x)) ∧
      m.group? s "using_pre" = k.usingPre := by
  set K := (k.kindToken.map (· ++ " ")).getD "" with hK
  set N := Render.optionalPart " " (k.name.map q.quote) with hN
  set U := Render.optionalPart " USING " k.usingPre with hU
  have hs' : s = "  ".toList ++ (K.toList ++ ("KEY".toList ++ (N.toList ++ (U.toList ++ r)))) := by
    rw [hs]
    simp [KeyLine.headText, hK, hN, hU]
  have hN' : s.drop (2 + K.length + 3) = N.toList ++ (U.toList ++ r) := by
    rw [hs', ← List.append_assoc, ← List.append_assoc]
    refine List.drop_left' ?_
    simp only [List.length_append, String.length_toList, show "  ".length = 2 from rfl,
      show "KEY".length = 3 from rfl]
  have hU' : s.drop (2 + K.length + 3 + N.length) = U.toList ++ r := by
    rw [← List.drop_drop, hN', ← String.length_toList, List.drop_left]
  refine ⟨group?_eq_of_find? (p := 0 + 2) ?_ ?_, group?_eq_of_find? (p := 2 + K.length + 3 + 2) ?_ ?_,
    group?_eq_of_find? (p := 2 + K.length + 3 + N.length + 7) ?_ ?_⟩
  · rw [hm, List.find?_append, hfront _ (by simp)]
    simp [keyHeadCaptures]
  · rintro x hx
    refine ⟨' ' :: ("KEY".toList ++ (N.toList ++ (U.toList ++ r))), ?_⟩
    rw [hs', hK, hx]
    simp
  · rw [hm, List.find?_append, hfront _ (by simp)]
    simp [keyHeadCaptures, hK]
  · rintro x hx
    obtain ⟨nm, hnm, rfl⟩ := Option.mem_map.1 hx
    refine ⟨i :: (U.toList ++ r), ?_⟩
    rw [← List.drop_drop, hN', hN, hnm]
    simp [Render.optionalPart, quote_toList hq]
  · rw [hm, List.find?_append, hfront _ (by simp)]
    simp [keyHeadCaptures, hK, hN]
  · rintro x hx
    refine ⟨r, ?_⟩
    have := drop_optionalPart_some (p := 2 + K.length + 3 + N.length) (l := " USING ") (x := x)
      (by rw [hU', hU, hx])
    exact this

/-- The groups of the clauses after the column list read back the index type, the key block
size, the parser, the comment as written and the inside of the versioned comment. -/
theorem keyTail_groups (k : KeyLine) {s : List Char} {p : Nat} (hs : s.drop p = k.tailText.toList)
    {m : Match} {r : Captures}
    (hrest : ∀ g ∈ ["version_sql", "comment", "parser", "keyblock", "using_post"],
      r.find? (·.1 == g) = none)
    (hm : m.captures = keyTailCaptures k p ++ r) :
    m.group? s "using_post" = k.usingPost ∧
      m.group? s "keyblock" = k.keyBlockSize.map Prod.snd ∧
      m.group? s "parser" = k.parser ∧
      m.group? s "comment" = k.comment.map Render.sqlString ∧
      m.group? s "version_sql" = k.versionComment := by
  rw [KeyLine.tailText_toList] at hs
  set U := Render.optionalPart " USING " k.usingPost with hU
  set B := keyBlockText k.keyBlockSize with hB
  set W := Render.optionalPart " WITH PARSER " k.parser with hW
  set C := Render.optionalPart " COMMENT " (k.comment.map Render.sqlString) with hC
  set V := Render.optionalPart " /*" (k.versionComment.map (· ++ "*/")) with hV
  -- where each clause starts
  have hs₁ : s.drop (p + U.length) = B.toList ++ (W.toList ++ (C.toList ++ (V.toList ++
      (Render.finalComma k.finalComma).toList))) := by
    rw [← List.drop_drop, hs, ← String.length_toList, List.drop_left]
  have hs₂ : s.drop (p + U.length + B.length) = W.toList ++ (C.toList ++ (V.toList ++
      (Render.finalComma k.finalComma).toList)) := by
    rw [← List.drop_drop, hs₁, ← String.length_toList, List.drop_left]
  have hs₃ : s.drop (p + U.length + B.length + W.length) = C.toList ++ (V.toList ++
      (Render.finalComma k.finalComma).toList) := by
    rw [← List.drop_drop, hs₂, ← String.length_toList, List.drop_left]
  have hs₄ : s.drop (p + U.length + B.length + W.length + C.length) = V.toList ++
      (Render.finalComma k.finalComma).toList := by
    rw [← List.drop_drop, hs₃, ← String.length_toList, List.drop_left]
  -- each clause records its own group only
  have hfind : ∀ g ∈ ["version_sql", "comment", "parser", "keyblock", "using_post"],
      m.captures.find? (·.1 == g) = (keyTailCaptures k p).find? (·.1 == g) := by
    intro g hg
    rw [hm, List.find?_append, hrest g hg, Option.or_none]
  refine ⟨group?_eq_of_find? (p := p + 7) ?_ ?_, group?_eq_of_find? (p := p + U.length + 16) ?_ ?_,
    group?_eq_of_find? (p := p + U.length + B.length + 13) ?_ ?_,
    group?_eq_of_find? (p := p + U.length + B.length + W.length + 9) ?_ ?_,
    group?_eq_of_find? (p := p + U.length + B.length + W.length + C.length + 3) ?_ ?_⟩
  · rw [hfind _ (by simp)]
    simp [keyTailCaptures]
  · rintro x hx
    exact ⟨_, drop_optionalPart_some (l := " USING ") (by rw [hs, hU, hx])⟩
  · rw [hfind _ (by simp)]
    simp [keyTailCaptures, hU]
  · rintro x hx
    obtain ⟨⟨equals, size⟩, hb, rfl⟩ := Option.mem_map.1 hx
    have hsep := drop_optionalPart_some (p := p + U.length) (l := " KEY_BLOCK_SIZE")
      (x := (if equals then "=" else " ") ++ size) (by rw [hs₁, hB, keyBlockText, hb]; rfl)
    refine ⟨W.toList ++ (C.toList ++ (V.toList ++ (Render.finalComma k.finalComma).toList)), ?_⟩
    rw [show p + U.length + 16 = p + U.length + " KEY_BLOCK_SIZE".length + 1 from rfl, ← List.drop_drop,
      hsep]
    cases equals <;> simp
  · rw [hfind _ (by simp)]
    simp [keyTailCaptures, hU, hB]
  · rintro x hx
    exact ⟨_, drop_optionalPart_some (l := " WITH PARSER ") (by rw [hs₂, hW, hx])⟩
  · rw [hfind _ (by simp)]
    simp [keyTailCaptures, hU, hB, hW]
  · rintro x hx
    obtain ⟨c, hc, rfl⟩ := Option.mem_map.1 hx
    exact ⟨_, drop_optionalPart_some (l := " COMMENT ") (by rw [hs₃, hC, hc]; rfl)⟩
  · rw [hfind _ (by simp)]
    simp [keyTailCaptures, hU, hB, hW, hC]
  · rintro x hx
    have hv := drop_optionalPart_some (l := " /*") (x := x ++ "*/") (by rw [hs₄, hV, hx]; rfl)
    exact ⟨_, by rw [show p + U.length + B.length + W.length + C.length + 3 =
      p + U.length + B.length + W.length + C.length + " /*".length from rfl, hv, String.toList_append,
      List.append_assoc]⟩

end Grammar

namespace Pattern

/-- The successive matches from the start: the leftmost-first match, and those after it. -/
theorem allFrom_zero (p : Pattern) (s : List Char) :
    p.allFrom s 0 = match p.leftmost s with
      | none => []
      | some m => if 0 < m.resume ∧ m.resume ≤ s.length then m :: p.allFrom s m.resume else [m] := by
  rw [allFrom]
  rfl

end Pattern

/-- The key that a constraint is, if it is one. -/
def Constraint.key? : Constraint → Option Key
  | .key k => some k
  | _ => none

namespace Reader

/-- The parser that a versioned comment names after `WITH PARSER`, as the reader of key lines
finds it. -/
def versionedParserOf (sql : String) : Option String :=
  (Grammar.versionedParser.find? sql.toList).bind fun v => v.group? sql.toList "parser"

/-- The parser of a versioned comment is the one that the leftmost-first match of the versioned
comment grammar records. -/
theorem versionedParserOf_eq_leftmost (sql : String) :
    versionedParserOf sql =
      (Grammar.versionedParser.leftmost sql.toList).bind fun v => v.group? sql.toList "parser" := by
  have hp : Grammar.versionedParser.Progressive ∧ Grammar.versionedParser.groupNames.Nodup := by
    decide
  have h := Program.find?_agrees hp.1 hp.2 sql.toList
  unfold versionedParserOf
  generalize Grammar.versionedParser.find? sql.toList = a at h ⊢
  generalize Grammar.versionedParser.leftmost sql.toList = b at h ⊢
  cases h with
  | none => rfl
  | some hm => exact hm.group? _ _

/-- A comment written as a SQL string reads back as written. -/
theorem unquoteComment_sqlString (x : String) : unquoteComment (Render.sqlString x) = x := by
  have hlast : (escapedName '\'' x ++ ['\'']).getLast? = some '\'' := by simp
  simp only [unquoteComment, sqlString_toList, hlast, if_true, List.dropLast_concat]
  simp only [escapedName, Text.replace, String.toList_ofList,
    show "''".toList = ['\'', '\''] from rfl, show "'".toList = ['\''] from rfl]
  rw [Text.replaceChars_of_ne (by simp), ← Text.replaceNonempty_singleton '\'' ['\'', '\''] (by simp),
    @Text.replaceNonempty_replaceNonempty ['\''] ['\'', '\''] (by simp) ⟨['\''], rfl⟩ (by simp),
    String.ofList_toList]

end Reader

namespace KeyLine

/-- The parser that a key line names, as it is read back: the parser that a versioned comment
names wins over the `WITH PARSER` clause, and of a qualified name only the first name is kept. -/
def parserName (q : Quoting) (k : KeyLine) : Option String :=
  (((k.versionComment.bind Reader.versionedParserOf).orElse fun _ => k.parser).map
    q.splitQualified).bind List.head?

end KeyLine

namespace Reader

/-- For the backtick and ANSI conventions, a key line reads back as the key it was written from:
the kind its token names, the name, both index types, the columns in order, the key block size,
the comment and the versioned comment as written, and the parser it names. This holds when the
kind token is not empty and holds no white space, the name is not empty, the index types, the
size and the parser are tokens and a size written after a space does not start with an equals
sign, and the column names hold neither a closing parenthesis nor a line break, and the versioned
comment is not empty and holds no line break. -/
theorem readConstraint_keyLine {q : Quoting} (hq : q = .backtick ∨ q = .ansi) (k : KeyLine)
    (hk : k.Readable) :
    readConstraint (LineGrammars.of q) q (k.text q) =
      some (.key ⟨k.kindToken.map KeyKind.ofToken, k.name, k.usingPre,
        k.columns.map KeyColumn.upperDirection, k.usingPost, k.keyBlockSize.map Prod.snd,
        k.parserName q, k.comment, k.versionComment⟩) := by
  obtain ⟨i, hqi, hi⟩ : ∃ i, q.OneChar i i ∧
      (i ∉ Unicode.foldOrbit 'K' ∧ i ≠ '(' ∧ i ≠ 'U' ∧ i ≠ ')' ∧ i ≠ '\n') := by
    rcases hq with rfl | rfl
    · exact ⟨_, Quoting.oneChar_backtick, Unicode.not_mem_foldOrbit_grammar (by decide) (by decide) (by decide), by decide, by decide, by decide, by decide⟩
    · exact ⟨_, Quoting.oneChar_ansi, Unicode.not_mem_foldOrbit_grammar (by decide) (by decide) (by decide), by decide, by decide, by decide, by decide⟩
  set m : Match := ⟨0, ((Cursor.start (k.text q).toList).skip (k.text q).length).pos,
    keyCaptures q i k⟩ with hm
  have hkey : (key q).leftmost (k.text q).toList = some m := by
    rw [leftmost_of_anchored (anchored_key q), head?_ways_key hqi hi hk]
    rfl
  have hsplit := KeyLine.text_toList q k
  set l := KeyColumn.listText q k.columns with hl
  set h := (k.headText q).length with hh
  -- the groups of the head, of the column list and of the clauses after it
  obtain ⟨htype, hname, hpre⟩ := keyHead_groups hqi k hsplit (m := m)
    (f := keyTailCaptures k (h + 2 + l.length + 1) ++ [("columns", h + 2, h + 2 + l.length)])
    (by
      intro g hg
      simp only [List.mem_cons, List.not_mem_nil, or_false] at hg
      rcases hg with rfl | rfl | rfl <;> simp [keyTailCaptures])
    (by rw [hm, List.append_assoc, List.singleton_append]; rfl)
  have hdropC : (k.text q).toList.drop (h + 2) = l.toList ++ ')' :: k.tailText.toList := by
    rw [hsplit, show h + 2 = ((k.headText q).toList ++ [' ', '(']).length by
      simp [hh, String.length_toList]]
    simp
  have hdropT : (k.text q).toList.drop (h + 2 + l.length + 1) = k.tailText.toList := by
    rw [show h + 2 + l.length + 1 = h + 2 + (l.length + 1) by omega, ← List.drop_drop, hdropC,
      ← String.length_toList,
      show l.toList ++ ')' :: k.tailText.toList = (l.toList ++ [')']) ++ k.tailText.toList by simp,
      List.drop_left' (by simp)]
  obtain ⟨hpost, hblock, hparser, hcomment, hversion⟩ := keyTail_groups k hdropT (m := m)
    (r := ("columns", h + 2, h + 2 + l.length) :: keyHeadCaptures q i k)
    (by
      intro g hg
      simp only [List.mem_cons, List.not_mem_nil, or_false] at hg
      rcases hg with rfl | rfl | rfl | rfl | rfl <;> simp [keyHeadCaptures])
    (by rw [hm]; rfl)
  have hcols : m.group? (k.text q).toList "columns" = some l := by
    refine group?_eq_of_find? (p := h + 2) ?_ (fun x hx => ⟨')' :: k.tailText.toList, by rw [← Option.mem_some_iff.1 hx]; exact hdropC⟩)
    simp [hm, keyCaptures, keyTailCaptures, hh, hl]
  -- the column list is read back entry by entry
  have hentries : keyColumns q (keyColumn q) l = k.columns.map KeyColumn.upperDirection := by
    obtain ⟨i', hqi', hf⟩ := oneChar_of_preset hq
    rw [keyColumns_eq_allFrom hq]
    exact allFrom_keyColumn hqi' hf _ hk.columns_ne (fun kc hkc => (hk.columns_readable kc hkc).1)
      List.drop_zero
  rw [readConstraint_conventions hq, hkey]
  simp only [keyOfMatch, htype, hname, hpre, hcols, hpost, hblock, hparser, hcomment, hversion,
    Option.map_map, Function.comp_def, unescape_escapedName hqi, unquoteComment_sqlString,
    Option.map_id', Option.getD_some, LineGrammars.of, hentries]
  rfl

/-- A full-text key with an escaped quote in its name, a length, a comma in a column name and a
direction in small letters, a key block size after an equals sign, a parser, a comment with a
quote and a versioned comment that names another parser reads back: the direction in upper case
and the parser of the versioned comment winning. -/
theorem readConstraint_keyLine_fulltext :
    KeyLine.Readable ⟨some "FULLTEXT", some "ft`1", none, [⟨"body", some 10, none⟩, ⟨"a,b", none, some "desc"⟩],
        none, some (true, "8"), some "mecab", some "it's", some "!50100 WITH PARSER `ngram` ", true⟩ ∧
      readConstraint (LineGrammars.of .backtick) .backtick
        (KeyLine.text .backtick ⟨some "FULLTEXT", some "ft`1", none,
          [⟨"body", some 10, none⟩, ⟨"a,b", none, some "desc"⟩], none, some (true, "8"), some "mecab",
          some "it's", some "!50100 WITH PARSER `ngram` ", true⟩) =
        some (.key ⟨some .fulltext, some "ft`1", none, [⟨"body", some 10, none⟩, ⟨"a,b", none, some "DESC"⟩],
          none, some "8", some "ngram", some "it's", some "!50100 WITH PARSER `ngram` "⟩) := by
  have hup : "desc".toUpper = "DESC" := by
    apply String.toList_inj.1
    rw [String.toUpper, String.toList_map]
    decide
  have hk : KeyLine.Readable ⟨some "FULLTEXT", some "ft`1", none,
      [⟨"body", some 10, none⟩, ⟨"a,b", none, some "desc"⟩], none, some (true, "8"), some "mecab",
      some "it's", some "!50100 WITH PARSER `ngram` ", true⟩ := by
    constructor <;> simp [IsToken]
    · decide +kernel
    · exact ⟨⟨by decide, by simp [Text.wordMax], by simp⟩, ⟨by decide, by simp, by simp [hup]⟩⟩
    all_goals decide +kernel
  refine ⟨hk, ?_⟩
  rw [readConstraint_keyLine (.inl rfl) _ hk]
  simp only [KeyLine.parserName, Option.bind_some, versionedParserOf_eq_leftmost, leftmost_eq_direct,
    List.map_cons, List.map_nil, KeyColumn.upperDirection, Option.map_some, Option.map_none, hup]
  decide +kernel

/-- Key lines that do not read back. A closing parenthesis in a column name ends the column list
early when the rest of the line reads as the clauses after it, here as an index type; a column
with an empty name is not read; an empty index type, parser or versioned comment leaves the line
unread; and a key block size written after a space loses an equals sign it starts with, while an
empty one after an equals sign is read as the equals sign. -/
theorem readConstraint_keyLine_misreads :
    readConstraint (LineGrammars.of .backtick) .backtick (KeyLine.text .backtick
        ⟨none, some "k", none, [⟨"a) USING x", none, none⟩], none, none, none, none, none, false⟩) =
      some (.key ⟨none, some "k", none, [], some "x`)", none, none, none, none⟩) ∧
    readConstraint (LineGrammars.of .backtick) .backtick (KeyLine.text .backtick
        ⟨none, some "k", none, [⟨"", none, none⟩], none, none, none, none, none, false⟩) =
      some (.key ⟨none, some "k", none, [], none, none, none, none, none⟩) ∧
    readConstraint (LineGrammars.of .backtick) .backtick (KeyLine.text .backtick
        ⟨none, some "k", some "", [⟨"a", none, none⟩], none, none, none, none, none, false⟩) = none ∧
    readConstraint (LineGrammars.of .backtick) .backtick (KeyLine.text .backtick
        ⟨none, some "k", none, [⟨"a", none, none⟩], some "", none, none, none, none, false⟩) = none ∧
    readConstraint (LineGrammars.of .backtick) .backtick (KeyLine.text .backtick
        ⟨none, some "k", none, [⟨"a", none, none⟩], none, none, some "", none, none, false⟩) = none ∧
    readConstraint (LineGrammars.of .backtick) .backtick (KeyLine.text .backtick
        ⟨none, some "k", none, [⟨"a", none, none⟩], none, none, none, none, some "", false⟩) = none ∧
    ((readConstraint (LineGrammars.of .backtick) .backtick (KeyLine.text .backtick
        ⟨none, some "k", none, [⟨"a", none, none⟩], none, some (false, "=5"), none, none, none,
          false⟩)).bind Constraint.key?).map (·.keyBlockSize) = some (some "5") ∧
    ((readConstraint (LineGrammars.of .backtick) .backtick (KeyLine.text .backtick
        ⟨none, some "k", none, [⟨"a", none, none⟩], none, some (true, ""), none, none, none,
          false⟩)).bind Constraint.key?).map (·.keyBlockSize) = some (some "=") := by
  have hp : Grammar.partition.Progressive ∧ Grammar.partition.groupNames.Nodup := by decide +kernel
  -- every search run by its structural copy, the column lists read from the start
  refine ⟨?_, ?_, ?_, ?_, ?_, ?_, ?_, ?_⟩ <;>
    (rw [readConstraint_conventions (.inl rfl), occursIn_eq_leftmost hp.1 hp.2]
     simp only [keyOfMatch, LineGrammars.of, keyColumns_eq_allFrom (.inl rfl), allFrom_zero,
       leftmost_eq_direct]
     decide +kernel)

end Reader

end TableDdl

import TableDdl.Proofs.ConstraintHeads

/-!
# Check constraint lines

A check constraint is written `CONSTRAINT name CHECK (expr)`, maybe with a final comma
(`Check.lineText`). Reading such a line tries the key grammar first, then the foreign key
grammar, then the check grammar. The key grammar has no way on a line that starts with
`CONSTRAINT` and a quote, and the foreign key grammar, after the one way of reading the line's
head, wants `FOREIGN KEY` where `CHECK` stands. The check grammar reads the head and then the
expression greedily, up to the last closing parenthesis of the line
(`head?_many_chars_literal`); since nothing but a comma can follow the closing parenthesis of
the written line, that is the one that closes the expression, whatever the expression itself
holds. So for the backtick and ANSI conventions every check line is read back as the check
it was written from (`readConstraint_checkLine`).
-/

namespace TableDdl

open Pattern

namespace Pattern

variable {n : Nat}

/-- A greedy repetition of a class followed by `K` tries the longer runs first: where the class
admits the next character, the ways that go on past it come before the way that stops. -/
theorem flatMap_ways_many_chars {α : Type} (cls : CharClass) (c : Cursor n) (caps : Captures)
    (K : Cursor n × Captures → List α) :
    ((Pattern.star true (.chars cls)).ways c caps).flatMap K =
      match c.rest with
      | x :: _ =>
        if cls.admits x then ((Pattern.star true (.chars cls)).ways (c.skip 1) caps).flatMap K ++
          K (c, caps)
        else K (c, caps)
      | [] => K (c, caps) := by
  rw [ways_star, ways_chars]
  cases hc : c.rest with
  | nil => simp
  | cons x r =>
    have hlen : 0 < c.rest.length := by simp [hc]
    by_cases hx : cls.admits x = true <;> simp [hx, hlen]

/-- A literal of one character without other cases, after a greedy repetition of a class, has no
way where the text left holds no such character. -/
theorem flatMap_ways_many_literal_eq_nil {cls : CharClass} {s : String} {x : Char}
    (hs : s.toList = [x]) (hx : Unicode.Caseless x) (F : Nat → Captures → Captures) {c : Cursor n}
    (hc : x ∉ c.rest) (caps : Captures) :
    ((Pattern.star true (.chars cls)).ways c caps).flatMap
      (fun w => (literal s).ways w.1 (F w.1.pos w.2)) = [] := by
  refine List.flatMap_eq_nil_iff.2 fun w hw => ?_
  obtain ⟨u, hu⟩ := ways_suffix _ c caps w hw
  refine Grammar.ways_literal_caseless_of_ne hs hx ?_ _
  intro hhead
  obtain ⟨r, hr⟩ : ∃ r, w.1.rest = x :: r := by
    cases h : w.1.rest with
    | nil => simp [h] at hhead
    | cons y r => exact ⟨r, by simpa [h] using hhead⟩
  exact hc (by simp [hu, hr])

/-- After a greedy run of a class that admits every character left, a literal of one character
without other cases is read first at the last place where that character stands. -/
theorem head?_many_chars_literal {cls : CharClass} {s : String} {x : Char} (hs : s.toList = [x])
    (hx : Unicode.Caseless x) (F : Nat → Captures → Captures) {v : List Char} (hv : x ∉ v)
    (u : List Char) (hadm : ∀ y ∈ u ++ x :: v, cls.admits y = true) {c : Cursor n}
    (hc : c.rest = u ++ x :: v) (caps : Captures) :
    (((Pattern.star true (.chars cls)).ways c caps).flatMap
      (fun w => (literal s).ways w.1 (F w.1.pos w.2))).head? =
        some ((c.skip u.length).skip 1, F (c.pos + u.length) caps) := by
  -- induction on the characters before the last one: each is read before the run stops
  induction u generalizing c with
  | nil =>
    have hadmx : cls.admits x = true := hadm x (by simp)
    have hrest : x ∉ (c.skip 1).rest := by simpa [hc] using hv
    rw [flatMap_ways_many_chars, hc]
    simp only [List.nil_append, hadmx, if_true,
      flatMap_ways_many_literal_eq_nil hs hx F hrest, List.nil_append]
    rw [Grammar.ways_literal_caseless hs hx (by simpa using hc)]
    simp
  | cons y u ih =>
    have hady : cls.admits y = true := hadm y (by simp)
    have hc' : (c.skip 1).rest = u ++ x :: v := by simp [hc]
    rw [flatMap_ways_many_chars, hc]
    simp only [List.cons_append, hady, if_true, List.head?_append,
      ih (fun z hz => hadm z (by simp [hz])) hc']
    have hmin : min 1 c.rest.length = 1 := by simp [hc]
    simp [Cursor.skip_skip, hmin, Nat.add_comm, Nat.add_left_comm]

/-- A group of a greedy run of any characters but a line break, before a closing parenthesis,
reads first up to the last closing parenthesis of the text, whatever comes before it. -/
theorem head?_group_run_close (name : String) {x : Char} {u v : List Char} (hx : x ≠ '\n')
    (hu : '\n' ∉ u) (hv : ')' ∉ v) (hvn : '\n' ∉ v) {c : Cursor n}
    (hc : c.rest = x :: u ++ ')' :: v) (caps : Captures) :
    ((Pattern.group name (plus anyChar) ++ literal ")").ways c caps).head? =
      some (c.skip (u.length + 2), (name, c.pos, c.pos + (u.length + 1)) :: caps) := by
  have hcase : Unicode.Caseless '\n' := Unicode.caseless_punctuation (by decide)
  have hadm : ∀ y ∈ u ++ ')' :: v, (CharClass.noneOf [.char '\n']).admits y = true := by
    intro y hy
    refine (Grammar.admits_noneOf_caseless hcase y).2 fun hy' => ?_
    subst hy'
    simp [hu, hvn] at hy
  have hfirst : anyChar.ways c caps = [(c.skip 1, caps)] := by
    rw [anyChar, noneOf, ways_chars, hc]
    simp [(Grammar.admits_noneOf_caseless hcase x).2 hx]
  have hrun := head?_many_chars_literal (s := ")") (x := ')') rfl (Unicode.caseless_punctuation (by decide))
    (fun p caps => (name, c.pos, p) :: caps) hv u hadm (c := c.skip 1) (by simp [hc]) caps
  have hpos : (c.skip 1).pos = c.pos + 1 := by simp [hc]
  rw [ways_append, ways_group, List.flatMap_map, plus, ways_append, List.flatMap_assoc, hfirst,
    List.flatMap_singleton]
  -- the run itself starts after the first character
  rw [anyChar, noneOf]
  rw [hrun, hpos, Cursor.skip_skip, Cursor.skip_skip]
  simp [Nat.add_assoc, Nat.add_comm 1]

/-- An optional literal has a first way, and it keeps the groups. -/
theorem head?_opt_literal (s : String) (c : Cursor n) (caps : Captures) :
    ∃ c', ((literal s).opt.ways c caps).head? = some (c', caps) := by
  rw [ways_opt, ways_literal]
  split <;> simp

end Pattern

namespace Grammar

/-- A check line as characters: the head, `CHECK (`, the expression, the closing parenthesis and
the final comma if any. -/
theorem checkLine_toList (q : Quoting) (ck : Check) (comma : Bool) :
    (ck.lineText q comma).toList = "  CONSTRAINT ".toList ++ (q.quote ck.name).toList ++
      ' ' :: ("CHECK (".toList ++ ck.sqltext.toList ++ ')' :: (Render.finalComma comma).toList) := by
  simp [Check.lineText]

/-- The text of a check line before its expression. -/
def checkPrefix (q : Quoting) (ck : Check) : List Char :=
  "  CONSTRAINT ".toList ++ (q.quote ck.name).toList ++ ' ' :: "CHECK (".toList

theorem checkLine_toList_prefix (q : Quoting) (ck : Check) (comma : Bool) :
    (ck.lineText q comma).toList =
      checkPrefix q ck ++ ck.sqltext.toList ++ ')' :: (Render.finalComma comma).toList := by
  rw [checkLine_toList]
  unfold checkPrefix
  simp only [List.append_assoc, List.cons_append]

theorem finalComma_toList (comma : Bool) :
    ')' ∉ (Render.finalComma comma).toList ∧ '\n' ∉ (Render.finalComma comma).toList := by
  cases comma <;> decide

/-- The check grammar is the head, `CHECK`, spaces and the opening parenthesis, then the
expression, the closing parenthesis and an optional comma. -/
theorem check_eq (q : Quoting) :
    check q = constraintHead q ++ literal "CHECK" ++ spaces ++ literal "(" ++
      .group "sqltext" (plus anyChar) ++ literal ")" ++ opt (literal ",") := rfl

section OneChar

variable {q : Quoting} {i : Char} (hq : q.OneChar i i) (hi : i ≠ ' ') {ck : Check} (comma : Bool)
include hq hi

/-- The head of a check line is read one way, up to `CHECK`. -/
theorem constraintHead_checkLine (hn : ck.name ≠ "") :
    ∃ c : Cursor (ck.lineText q comma).toList.length,
      c.rest = "CHECK (".toList ++ ck.sqltext.toList ++ ')' :: (Render.finalComma comma).toList ∧
      (constraintHead q).OneWay (Cursor.start _) [] (c, headCaptures (escapedName i ck.name)) :=
  constraintHead_oneWay hq hi hn (by simp) (checkLine_toList q ck comma)

/-- The foreign key grammar has no way on a check line: after the head it wants `FOREIGN KEY`
where `CHECK` stands. -/
theorem foreignKey_ways_checkLine (hn : ck.name ≠ "") :
    (foreignKey q).ways (Cursor.start (ck.lineText q comma).toList) [] = [] := by
  obtain ⟨c, hcr, hone⟩ := constraintHead_checkLine hq hi comma hn
  have hF : 'C' ∉ Unicode.foldOrbit 'F' := Unicode.not_mem_foldOrbit_grammar (by decide) (by decide) (by decide)
  have hlit : (literal "FOREIGN KEY").ways c (headCaptures (escapedName i ck.name)) = [] := by
    rw [ways_literal, hcr]
    simp [hF]
  unfold foreignKey
  -- the thirteen pieces after `FOREIGN KEY` change nothing
  iterate 13 apply ways_append_eq_nil
  exact hone.append_eq_nil hlit

/-- Everything of a check line before its expression is read one way, up to the expression. -/
theorem checkOpen_oneWay (hn : ck.name ≠ "") :
    ∃ d : Cursor (ck.lineText q comma).toList.length,
      d.rest = ck.sqltext.toList ++ ')' :: (Render.finalComma comma).toList ∧
      d.pos = (checkPrefix q ck).length ∧
      (constraintHead q ++ literal "CHECK" ++ spaces ++ literal "(").OneWay (Cursor.start _) []
        (d, headCaptures (escapedName i ck.name)) := by
  obtain ⟨c, hcr, hone⟩ := constraintHead_checkLine hq hi comma hn
  have hcheck : (literal "CHECK").OneWay c (headCaptures (escapedName i ck.name))
      (c.skip 5, headCaptures (escapedName i ck.name)) := by
    refine OneWay.of_ways_eq ?_
    rw [ways_literal_self (s := "CHECK") (Unicode.foldPrefix_grammarWord (by decide))
      (r := ' ' :: '(' :: (ck.sqltext.toList ++ ')' :: (Render.finalComma comma).toList))
      (by rw [hcr]; simp)]
    rfl
  have hsp := spaces_oneWay (c := c.skip 5)
    (t := '(' :: (ck.sqltext.toList ++ ')' :: (Render.finalComma comma).toList)) (by simp)
    (by simp [hcr]) (headCaptures (escapedName i ck.name))
  have hopen : (literal "(").OneWay ((c.skip 5).skip 1) (headCaptures (escapedName i ck.name))
      (((c.skip 5).skip 1).skip 1, headCaptures (escapedName i ck.name)) :=
    OneWay.of_ways_eq (ways_literal_caseless (x := '(') rfl (Unicode.caseless_punctuation (by decide))
      (r := ck.sqltext.toList ++ ')' :: (Render.finalComma comma).toList) (by simp [hcr]) _)
  have hdr : (((c.skip 5).skip 1).skip 1).rest =
      ck.sqltext.toList ++ ')' :: (Render.finalComma comma).toList := by
    simp [hcr]
  refine ⟨_, hdr, ?_, ((hone.seq hcheck).seq hsp).seq hopen⟩
  have hpos := Cursor.pos_of_rest_eq (c := Cursor.start (ck.lineText q comma).toList)
    (u := checkPrefix q ck) (by rw [hdr, Cursor.rest_start, checkLine_toList_prefix,
      List.append_assoc])
  simpa using hpos

/-- The first way of the check grammar on a check line records the line's name and reads the
expression up to the last closing parenthesis, which is the one written after it. -/
theorem check_first (hn : ck.name ≠ "") (he : ck.sqltext ≠ "") (hnl : '\n' ∉ ck.sqltext.toList) :
    ∃ w, ((check q).ways (Cursor.start (ck.lineText q comma).toList) []).head? = some w ∧
      w.2 = ("sqltext", (checkPrefix q ck).length, (checkPrefix q ck).length + ck.sqltext.length) ::
        headCaptures (escapedName i ck.name) := by
  obtain ⟨d, hdr, hdp, hhead⟩ := checkOpen_oneWay hq hi comma hn
  obtain ⟨x, e, hxe⟩ := List.exists_cons_of_ne_nil (by simpa using he : ck.sqltext.toList ≠ [])
  have hlen : ck.sqltext.length = e.length + 1 := by
    rw [← String.length_toList, hxe, List.length_cons]
  have hbody := head?_group_run_close "sqltext" (x := x) (u := e)
    (v := (Render.finalComma comma).toList) (by rintro rfl; simp [hxe] at hnl)
    (fun h => hnl (by simp [hxe, h])) (finalComma_toList comma).1 (finalComma_toList comma).2
    (c := d) (by simp [hdr, hxe]) (headCaptures (escapedName i ck.name))
  obtain ⟨c', hc'⟩ := head?_opt_literal "," (d.skip (e.length + 2))
    (("sqltext", d.pos, d.pos + (e.length + 1)) :: headCaptures (escapedName i ck.name))
  refine ⟨(c', ("sqltext", d.pos, d.pos + (e.length + 1)) :: headCaptures (escapedName i ck.name)),
    ?_, ?_⟩
  · rw [check_eq, head?_ways_append (ways_opt_ne_nil _), ways_append_assoc, hhead.head?_append,
      hbody, Option.bind_some, hc']
  · rw [hdp, hlen]

omit hi in
/-- A check line as characters around the escaped body of its name, which starts at position 14. -/
theorem checkLine_toList_name (ck : Check) :
    (ck.lineText q comma).toList = ("  CONSTRAINT ".toList ++ [i]) ++ escapedName i ck.name ++
      (i :: ' ' :: ("CHECK (".toList ++ ck.sqltext.toList ++ ')' :: (Render.finalComma comma).toList)) := by
  rw [checkLine_toList, quote_toList hq]
  simp only [List.append_assoc, List.cons_append, List.nil_append]

omit hi in
/-- The groups that the check grammar records on a check line read back the name's escaped
body and the expression. -/
theorem checkLine_groups {m : Match}
    (hm : m.captures = ("sqltext", (checkPrefix q ck).length,
      (checkPrefix q ck).length + ck.sqltext.length) :: headCaptures (escapedName i ck.name)) :
    m.group? (ck.lineText q comma).toList "name" = some (String.ofList (escapedName i ck.name)) ∧
      m.group? (ck.lineText q comma).toList "sqltext" = some ck.sqltext := by
  have h14 : ("  CONSTRAINT ".toList ++ [i]).length = 14 := by simp
  constructor
  · have hslice := Match.slice_append ("  CONSTRAINT ".toList ++ [i]) (escapedName i ck.name)
      (i :: ' ' :: ("CHECK (".toList ++ ck.sqltext.toList ++ ')' :: (Render.finalComma comma).toList))
    rw [h14, ← checkLine_toList_name hq comma] at hslice
    simp [Match.group?, Match.span?, hm, headCaptures, hslice]
  · have hslice := Match.slice_append (checkPrefix q ck) ck.sqltext.toList
      (')' :: (Render.finalComma comma).toList)
    rw [← checkLine_toList_prefix, String.length_toList] at hslice
    simp [Match.group?, Match.span?, hm, hslice]

end OneChar

end Grammar

namespace Reader

open Grammar

/-- For the backtick and ANSI conventions, a check line with a name and an expression on one
line is read back as the check it was written from, with or without its final comma: neither
the key grammar nor the foreign key grammar reads it, and the check grammar's expression ends
at the closing parenthesis written after it, whatever parentheses, quotes, commas or keywords
the expression holds. -/
theorem readConstraint_checkLine {q : Quoting} (hq : q = .backtick ∨ q = .ansi) (ck : Check)
    (comma : Bool) (hn : ck.name ≠ "") (he : ck.sqltext ≠ "") (hnl : '\n' ∉ ck.sqltext.toList) :
    readConstraint (LineGrammars.of q) q (ck.lineText q comma) = some (.check ck) := by
  obtain ⟨i, hqi, hi, hK⟩ := quote_of_conventions hq
  have hkey : (key q).leftmost (ck.lineText q comma).toList = none := by
    rw [leftmost_of_anchored (anchored_key q), key_ways_eq_nil_of_constraint q hK
      (checkLine_toList_name hqi comma ck)]
    rfl
  have hfk : (foreignKey q).leftmost (ck.lineText q comma).toList = none := by
    rw [leftmost_of_anchored (anchored_foreignKey q), foreignKey_ways_checkLine hqi hi comma hn]
    rfl
  obtain ⟨w, hw, hw₂⟩ := check_first hqi hi comma hn he hnl
  have hck : (check q).leftmost (ck.lineText q comma).toList = some ⟨0, w.1.pos, w.2⟩ := by
    rw [leftmost_of_anchored (anchored_check q), hw]
    rfl
  obtain ⟨hname, hsql⟩ := checkLine_groups hqi comma (m := ⟨0, w.1.pos, w.2⟩) hw₂
  rw [readConstraint_conventions hq, hkey, hfk, hck]
  simp only [hname, hsql, Option.getD_some, unescape_escapedName hqi]

/-- An expression with parentheses of its own, quotes, a comma and the words `KEY` and `CHECK`,
on a line with a final comma, is read back whole. -/
theorem readConstraint_checkLine_nested :
    readConstraint (LineGrammars.of .backtick) .backtick
        (Check.lineText .backtick ⟨"chk", "(a > 0) AND b NOT IN ('KEY', 'CHECK (x)')"⟩ true) =
      some (.check ⟨"chk", "(a > 0) AND b NOT IN ('KEY', 'CHECK (x)')"⟩) :=
  readConstraint_checkLine (.inl rfl) _ true (by decide) (by decide) (by decide)

end Reader

end TableDdl

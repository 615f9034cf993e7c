import TableDdl.Proofs.KeyLines
import TableDdl.Proofs.Degradation
import TableDdl.Render.Column

/-!
# The clauses of a column line, read over written text

The full column grammar reads, after the type word, an argument list and the attributes of a
column, each an optional clause led by spaces. Over a line written clause by clause, its first
way reads each written clause whole and skips each absent one, as long as no text that follows
starts like the clause.

`column_eq` names the clauses of the grammar. `head?_ways_argList` reads an argument list of
one number, two numbers or quoted values; `head?_ways_flagClause`, `head?_ways_notNullClause`
and `head?_ways_valueClause` read the flags, `NOT NULL` and a keyword with its value, and the
`ways_…_eq_nil` lemmas skip the clauses that are not written. The values of a default,
`NULL`, a quoted string or a call word, are read by the `head?_ways_defaultValue_…` lemmas.
-/

namespace TableDdl

namespace Unicode

/-- A keyword made of two parts matches where its first part does and its second part matches
after it. -/
theorem foldPrefix_append_left (xs ys zs : List Char) :
    foldPrefix (xs ++ ys) zs = (foldPrefix xs zs && foldPrefix ys (zs.drop xs.length)) := by
  induction xs generalizing zs with
  | nil => simp
  | cons x xs ih =>
    cases zs with
    | nil => simp
    | cons z zs => simp [ih, Bool.and_assoc]

/-- Whether two keywords are apart: at some place within both, no character folds to both of the
characters there, so that no text starts with both. -/
def Apart : List Char → List Char → Bool
  | x :: xs, y :: ys => (foldOrbit x).all (fun z => !(foldOrbit y).contains z) || Apart xs ys
  | _, _ => false

/-- A text that one keyword starts is not started by a keyword apart from it. -/
theorem foldPrefix_eq_false_of_apart {xs ys zs : List Char} (h : Apart xs ys = true)
    (hxs : foldPrefix xs zs = true) : foldPrefix ys zs = false := by
  induction xs generalizing ys zs with
  | nil => cases ys <;> simp [Apart] at h
  | cons x xs ih =>
    cases ys with
    | nil => simp [Apart] at h
    | cons y ys =>
      cases zs with
      | nil => simp at hxs
      | cons z zs =>
        simp only [foldPrefix_cons_cons, Bool.and_eq_true, List.contains_iff_mem] at hxs
        simp only [Apart, Bool.or_eq_true, List.all_eq_true, Bool.not_eq_true'] at h
        rcases h with h | h
        · have hz : z ∉ foldOrbit y := by simpa using h z hxs.1
          simp [foldPrefix_cons_cons, hz]
        · simp [foldPrefix_cons_cons, ih h hxs.2]

/-- A keyword without a comma does not start a text followed by a comma where it does not start
the text alone. -/
theorem foldPrefix_append_comma {kw e : List Char}
    (hkw : (kw.all fun x => !(foldOrbit x).contains ',') = true)
    (h : foldPrefix kw e = false) : foldPrefix kw (e ++ [',']) = false := by
  induction kw generalizing e with
  | nil => simp at h
  | cons x kw ih =>
    simp only [List.all_cons, Bool.and_eq_true, Bool.not_eq_true'] at hkw
    cases e with
    | nil => simp [List.contains_iff_mem.not.1 (Bool.eq_false_iff.1 hkw.1)]
    | cons y e =>
      simp only [foldPrefix_cons_cons, Bool.and_eq_false_iff] at h
      simp only [List.cons_append, foldPrefix_cons_cons, Bool.and_eq_false_iff]
      exact h.imp id (ih hkw.2)

end Unicode

namespace Pattern

variable {n : Nat}

/-- Repetitions of two patterns with the same ways have the same ways. -/
theorem ways_star_congr {p p' : Pattern} (h : ∀ (c : Cursor n) caps, p.ways c caps = p'.ways c caps)
    (g : Bool) (c : Cursor n) (caps : Captures) :
    (Pattern.star g p).ways c caps = (Pattern.star g p').ways c caps := by
  -- induction on what is left of the subject: each repetition reads at least one character
  induction hk : n - c.pos using Nat.strong_induction_on generalizing c caps with
  | _ k ih =>
    have hagain : (fun w : Cursor n × Captures =>
        if c.pos < w.1.pos then (Pattern.star g p).ways w.1 w.2 else []) =
        fun w => if c.pos < w.1.pos then (Pattern.star g p').ways w.1 w.2 else [] := by
      funext w
      split
      · exact ih (n - w.1.pos) (by have := w.1.pos_add; omega) w.1 w.2 rfl
      · rfl
    rw [ways_star, ways_star, h, hagain]

/-- Alternatives of which one has no way have their ways in either order. -/
theorem ways_alt_comm {p q : Pattern} {c : Cursor n} {caps : Captures}
    (h : p.ways c caps = [] ∨ q.ways c caps = []) :
    (Pattern.alt p q).ways c caps = (Pattern.alt q p).ways c caps := by
  rcases h with h | h <;> simp [h]

/-- A group over alternatives, followed by a pattern, is tried alternative by alternative. -/
theorem ways_group_alt_append (g : String) (p q r : Pattern) (c : Cursor n) (caps : Captures) :
    (Pattern.group g (.alt p q) ++ r).ways c caps =
      (Pattern.group g p ++ r).ways c caps ++ (Pattern.group g q ++ r).ways c caps := by
  simp [List.flatMap_append]

/-- A pattern followed by a group has no way where it has none followed by the group's
pattern. -/
theorem ways_append_group_eq_nil {p q : Pattern} (g : String) {c : Cursor n} {caps : Captures}
    (h : (p ++ q).ways c caps = []) : (p ++ .group g q).ways c caps = [] := by
  simp only [ways_append, List.flatMap_eq_nil_iff, ways_group, List.map_eq_nil_iff] at h ⊢
  exact h

/-- A greedy run of a class, at least one long, over a run of its characters stops after each
of them, the last first. -/
theorem ways_plus_chars {k : CharClass} {w r : List Char} (hw : w ≠ [])
    (hwc : ∀ x ∈ w, k.admits x = true) (hr : ∀ x ∈ r.head?, k.admits x = false)
    {c : Cursor n} (hc : c.rest = w ++ r) (caps : Captures) :
    (plus (.chars k)).ways c caps =
      (List.range w.length).reverse.map fun i => (c.skip (i + 1), caps) := by
  obtain ⟨x, w', rfl⟩ := List.exists_cons_of_ne_nil hw
  have hrun : ((c.skip 1).rest.takeWhile k.admits).length = w'.length := by
    rw [Cursor.rest_skip, hc, List.cons_append, List.drop_one, List.tail_cons,
      List.takeWhile_append_of_pos fun y hy => hwc y (List.mem_cons_of_mem x hy)]
    cases r with
    | nil => simp
    | cons y r => simp [hr y rfl]
  rw [plus, ways_append, ways_chars, hc]
  simp only [List.cons_append, hwc x List.mem_cons_self, if_true, List.flatMap_singleton]
  rw [ways_many_chars, hrun]
  simp [Cursor.skip_skip, Nat.add_comm]

end Pattern

namespace TypeArgsText

/-- What an argument list writes between its parentheses, if it writes them. -/
def inner : TypeArgsText → Option String
  | .none => Option.none
  | .one n => some (toString n)
  | .two n m => some (toString n ++ "," ++ toString m)
  | .strings vs => some (",".intercalate (vs.map Render.sqlString))

theorem text_eq (a : TypeArgsText) : a.text = Render.optionalPart "(" (a.inner.map (· ++ ")")) := by
  cases a <;> simp [text, inner, Render.optionalPart, String.append_assoc]

end TypeArgsText

namespace Grammar

open Pattern

variable {n : Nat}

/-! ## Quoted strings -/

/-- The two pieces of a string body never both read: a doubled quote starts with a quote, which
is the one character the other piece refuses. -/
theorem stringPiece_exclusive (c : Cursor n) (caps : Captures) :
    (literal "''").ways c caps = [] ∨ notQuote.ways c caps = [] := by
  have hquote : Unicode.Caseless '\'' := Unicode.caseless_punctuation (by decide)
  obtain ⟨pos, rest, h⟩ := c
  cases rest with
  | nil => exact Or.inr (by simp [notQuote, noneOf])
  | cons x r =>
    by_cases hx : x = '\''
    · subst hx
      right
      simpa [notQuote, noneOf] using (admits_noneOf_caseless hquote '\'').not
    · left
      rw [ways_literal, if_neg]
      rw [Unicode.foldPrefix_iff caseless_quotes]
      rintro ⟨t, ht⟩
      have hpre : x = '\'' ∧ r = '\'' :: t := by
        simpa [show "''".toList = ['\'', '\''] from rfl] using ht.symm
      exact hx hpre.1

/-- A string body has the ways of a quoted option value: the same pieces, tried in the other
order. -/
theorem ways_stringBody (c : Cursor n) (caps : Captures) :
    stringBody.ways c caps = quotedOptionValue.ways c caps :=
  ways_star_congr (fun c caps => ways_alt_comm (stringPiece_exclusive c caps)) true c caps

/-- A quoted string is read first up to its closing quote, when no quote follows that. -/
theorem head?_ways_stringLiteral (v : String) {u : List Char} (hu : u.head? ≠ some '\'')
    {c : Cursor n} (hc : c.rest = (Render.sqlString v).toList ++ u) (caps : Captures) :
    (stringLiteral.ways c caps).head? = some (c.skip (Render.sqlString v).length, caps) := by
  have hquote : Unicode.Caseless '\'' := Unicode.caseless_punctuation (by decide)
  have hc' : c.rest = '\'' :: (escapedName '\'' v ++ '\'' :: u) := by
    rw [hc, sqlString_toList]
    simp
  have hbody : (stringBody.ways (c.skip 1) caps).head? =
      some ((c.skip 1).skip (escapedName '\'' v).length, caps) := by
    rw [ways_stringBody]
    exact head?_ways_quotedValue v.toList hu (by simp [hc', escapedName]) caps
  have hrest : ((c.skip 1).skip (escapedName '\'' v).length).rest = '\'' :: u := by
    simp [hc']
  have hlen : (Render.sqlString v).length = 1 + ((escapedName '\'' v).length + 1) := by
    rw [← String.length_toList, sqlString_toList]
    simp
    omega
  unfold stringLiteral
  refine head?_ways_append_of_head? (head?_ways_append_of_head? (v := (c.skip 1, caps))
    (by rw [ways_literal_caseless (s := "'") rfl hquote hc' caps]; rfl) hbody) ?_
  rw [ways_literal_caseless (s := "'") rfl hquote hrest, List.head?_cons, Cursor.skip_skip,
    Cursor.skip_skip, hlen]


/-- A quoted string followed by a comma or, where none follows, by neither a quote nor a comma,
is read first with its comma. -/
theorem head?_ways_stringItem (v : String) (b : Bool) {u : List Char}
    (hu : b = false → u.head? ≠ some '\'' ∧ u.head? ≠ some ',') {c : Cursor n}
    (hc : c.rest = (Render.sqlString v ++ Render.finalComma b).toList ++ u) (caps : Captures) :
    ((stringLiteral ++ opt (literal ",")).ways c caps).head? =
      some (c.skip (Render.sqlString v ++ Render.finalComma b).length, caps) := by
  have hcomma : Unicode.Caseless ',' := Unicode.caseless_punctuation (by decide)
  have hend : ((Render.finalComma b).toList ++ u).head? ≠ some '\'' := by
    cases b with
    | true => simp [Render.finalComma]
    | false => simpa [Render.finalComma] using (hu rfl).1
  have hc' : c.rest = (Render.sqlString v).toList ++ ((Render.finalComma b).toList ++ u) := by
    simp [hc]
  have hrest : (c.skip (Render.sqlString v).length).rest = (Render.finalComma b).toList ++ u :=
    Cursor.skip_text_rest hc'
  refine head?_ways_append_of_head? (head?_ways_stringLiteral v hend hc' caps) ?_
  cases b with
  | true =>
    have hlit := ways_literal_caseless (s := ",") (x := ',') rfl hcomma
      (c := c.skip (Render.sqlString v).length) (r := u) (by rw [hrest]; rfl) caps
    rw [head?_ways_opt_of_head? (by rw [hlit]; rfl), Cursor.skip_skip, String.length_append]
    rfl
  | false =>
    have hlit := ways_literal_caseless_of_ne (s := ",") (x := ',') rfl hcomma
      (c := c.skip (Render.sqlString v).length)
      (by rw [hrest]; simpa [Render.finalComma] using (hu rfl).2) caps
    rw [head?_ways_opt_of_nil hlit]
    simp [Render.finalComma]

theorem intercalate_sqlString_cons (v : String) (vs : List String) :
    ",".intercalate ((v :: vs).map Render.sqlString) =
      Render.sqlString v ++ Render.finalComma (!vs.isEmpty) ++
        ",".intercalate (vs.map Render.sqlString) := by
  cases vs <;> simp [Render.finalComma, String.append_assoc]

/-- Quoted strings joined by commas before a closing parenthesis are read first whole by
repeated strings, each with its comma. -/
theorem head?_ways_stringList (vs : List String) {t : List Char} {c : Cursor n}
    (hc : c.rest = (",".intercalate (vs.map Render.sqlString)).toList ++ ')' :: t)
    (caps : Captures) :
    ((many (stringLiteral ++ opt (literal ","))).ways c caps).head? =
      some (c.skip (",".intercalate (vs.map Render.sqlString)).length, caps) := by
  -- induction on the strings: each is read with its comma, and the repetition goes on after it
  induction vs generalizing c with
  | nil =>
    have hnone : (stringLiteral ++ opt (literal ",")).ways c caps = [] :=
      ways_append_eq_nil _ (ways_append_eq_nil _ (ways_append_eq_nil _
        (ways_literal_caseless_of_ne (s := "'") (x := '\'') rfl (Unicode.caseless_punctuation (by decide))
          (by simp [hc]) caps)))
    rw [many, ways_many_of_nil hnone]
    simp
  | cons v vs ih =>
    rw [intercalate_sqlString_cons] at hc ⊢
    have hu : (!vs.isEmpty) = false →
        ((",".intercalate (vs.map Render.sqlString)).toList ++ ')' :: t).head? ≠ some '\'' ∧
        ((",".intercalate (vs.map Render.sqlString)).toList ++ ')' :: t).head? ≠ some ',' := by
      intro h
      obtain rfl : vs = [] := by simpa using h
      simp
    have hc' : c.rest = (Render.sqlString v ++ Render.finalComma (!vs.isEmpty)).toList ++
        ((",".intercalate (vs.map Render.sqlString)).toList ++ ')' :: t) := by
      simp [hc]
    have hlen : 0 < (Render.sqlString v).length := by
      rw [← String.length_toList, sqlString_toList]
      simp
    have hitem := head?_ways_stringItem v _ hu hc' caps
    rw [many, head?_ways_many_of_head? hitem (by rw [Cursor.skip_text_pos hc']; simp; omega),
      ← many, ih (Cursor.skip_text_rest hc'), Cursor.skip_skip]
    simp only [String.length_append]


/-! ## Argument lists -/

/-- An argument list of a column type, its inside recorded under `arg`. -/
def argList : Pattern := literal "(" ++ .group "arg" typeArgs ++ literal ")"

theorem typeArgs_eq : typeArgs = .alt digits (.alt (digits ++ literal "," ++ digits)
    (plus (stringLiteral ++ opt (literal ",")))) := rfl

/-- The decimal text of a number is a run of digits. -/
theorem admits_digit_toString (k : Nat) :
    ∀ x ∈ (toString k).toList, (CharClass.anyOf [.digit]).admits x = true := by
  intro x hx
  have hx' : x.isDigit = true := Nat.isDigit_of_mem_toDigits (b := 10) (by decide) (by decide)
    (by simpa [Nat.toString_eq_ofList_toDigits] using hx)
  simpa [CharClass.anyOf, CharClass.admits, ClassItem.admits] using
    Unicode.digit_contains_of_isDigit hx'

theorem admits_digit_grammar {x : Char} (hx : x ∈ Unicode.grammarChars) :
    (CharClass.anyOf [.digit]).admits x = false := by
  simp [CharClass.anyOf, CharClass.admits, ClassItem.admits, Unicode.digit_grammar hx]

theorem toString_toList_ne_nil (k : Nat) : (toString k).toList ≠ [] := by
  simp [Nat.toDigits_ne_nil]

/-- A number written in decimal before a character of the grammars is read by `digits` up to
each of its digits, the whole number first. -/
theorem ways_digits_toString (k : Nat) {x : Char} (hx : x ∈ Unicode.grammarChars) {r : List Char}
    {c : Cursor n} (hc : c.rest = (toString k).toList ++ x :: r) (caps : Captures) :
    digits.ways c caps =
      (List.range (toString k).length).reverse.map fun i => (c.skip (i + 1), caps) := by
  rw [digits, digit, oneOf, ← String.length_toList]
  exact ways_plus_chars (toString_toList_ne_nil k) (admits_digit_toString k)
    (by simp [admits_digit_grammar hx]) hc caps

theorem head?_ways_digits_toString (k : Nat) {x : Char} (hx : x ∈ Unicode.grammarChars)
    {r : List Char} {c : Cursor n} (hc : c.rest = (toString k).toList ++ x :: r) (caps : Captures) :
    (digits.ways c caps).head? = some (c.skip (toString k).length, caps) := by
  rw [digits, digit, oneOf, ← String.length_toList]
  exact head?_ways_plus_chars (toString_toList_ne_nil k) (admits_digit_toString k)
    (by simp [admits_digit_grammar hx]) hc caps

/-- Where a comma follows a number, no way of reading digits there is followed by a closing
parenthesis. -/
theorem ways_group_digits_close_eq_nil (k : Nat) {r : List Char} {c : Cursor n}
    (hc : c.rest = (toString k).toList ++ ',' :: r) (caps : Captures) :
    (Pattern.group "arg" digits ++ literal ")").ways c caps = [] := by
  rw [ways_append, ways_group, ways_digits_toString k (by decide) hc]
  simp only [List.map_map, List.flatMap_eq_nil_iff, List.mem_map, List.mem_reverse, List.mem_range]
  rintro _ ⟨i, hi, rfl⟩
  refine ways_literal_caseless_of_ne (s := ")") (x := ')') rfl
    (Unicode.caseless_punctuation (by decide)) ?_ _
  -- what follows is the next digit, or the comma
  rw [Function.comp_apply, Cursor.rest_skip, hc,
    List.drop_append_of_le_length (by rw [String.length_toList]; omega)]
  cases hd : (toString k).toList.drop (i + 1) with
  | nil => simp
  | cons d ds =>
    have hdig := admits_digit_toString k d (List.mem_of_mem_drop (hd ▸ List.mem_cons_self))
    rintro h
    obtain rfl : d = ')' := by simpa using h
    simp [admits_digit_grammar (x := ')') (by decide)] at hdig

/-- Where a quote stands, `digits` has no way. -/
theorem ways_digits_quote {c : Cursor n} {r : List Char} (hc : c.rest = '\'' :: r)
    (caps : Captures) : digits.ways c caps = [] := by
  refine ways_append_eq_nil _ ?_
  rw [digit, oneOf, ways_chars, hc]
  simp [admits_digit_grammar (x := '\'') (by decide)]

/-- An argument list is read first by the opening parenthesis and then by its inside, when the
inside and the closing parenthesis are read first. -/
theorem head?_ways_argList_of_inside {x : String} {t : List Char} {c : Cursor n}
    (hc : c.rest = '(' :: (x.toList ++ ')' :: t)) (caps : Captures)
    (hin : ((Pattern.group "arg" typeArgs ++ literal ")").ways (c.skip 1) caps).head? =
      some ((c.skip 1).skip (x.length + 1),
        ("arg", (c.skip 1).pos, (c.skip 1).pos + x.length) :: caps)) :
    (argList.opt.ways c caps).head? =
      some (c.skip (Render.optionalPart "(" (some (x ++ ")"))).length,
        clauseCaptures "arg" 1 (some x) c.pos ++ caps) := by
  have hopen : (literal "(").OneWay c caps (c.skip 1, caps) :=
    OneWay.of_ways_eq (ways_literal_caseless (x := '(') rfl
      (Unicode.caseless_punctuation (by decide)) hc caps)
  have hpos : (c.skip 1).pos = c.pos + 1 := by simp [hc]
  have hlen : (Render.optionalPart "(" (some (x ++ ")"))).length = 1 + (x.length + 1) := by
    simp only [Render.optionalPart, String.length_append]
    rfl
  refine head?_ways_opt_of_head? ?_
  rw [argList, ways_append_assoc, hopen.head?_append, hin, Cursor.skip_skip, hpos, hlen]
  rfl

/-- The inside of an argument list before its closing parenthesis: the group records it. -/
theorem head?_ways_inside {x : String} {t : List Char} {c : Cursor n} {caps : Captures}
    {p : Pattern} (hp : (p.ways c caps).head? = some (c.skip x.length, caps))
    (hc : c.rest = x.toList ++ ')' :: t) :
    ((Pattern.group "arg" p ++ literal ")").ways c caps).head? =
      some (c.skip (x.length + 1), ("arg", c.pos, c.pos + x.length) :: caps) := by
  refine head?_ways_append_of_head? (by rw [head?_ways_group, hp]; rfl) ?_
  rw [ways_literal_caseless (x := ')') rfl (Unicode.caseless_punctuation (by decide))
    (Cursor.skip_text_rest hc), List.head?_cons, Cursor.skip_skip]
  simp only [Cursor.skip_text_pos hc]


/-- An argument list of one number, two numbers or quoted strings is read first whole, its inside
recorded under `arg`; where none is written and no parenthesis follows, it is skipped. -/
theorem head?_ways_argList (a : TypeArgsText) (ha : a ≠ .strings []) {t : List Char}
    (ht : a = .none → t.head? ≠ some '(') {c : Cursor n} (hc : c.rest = a.text.toList ++ t)
    (caps : Captures) :
    (argList.opt.ways c caps).head? =
      some (c.skip a.text.length, clauseCaptures "arg" 1 a.inner c.pos ++ caps) := by
  cases a with
  | none =>
    have hct : c.rest = t := by simpa [TypeArgsText.text] using hc
    rw [head?_ways_opt_of_nil (p := argList) (ways_append_eq_nil _ (ways_append_eq_nil _
      (ways_literal_caseless_of_ne (s := "(") (x := '(') rfl
        (Unicode.caseless_punctuation (by decide)) (hct ▸ ht rfl) caps)))]
    simp [TypeArgsText.text, TypeArgsText.inner, clauseCaptures]
  | one k =>
    have hc' : c.rest = '(' :: ((toString k).toList ++ ')' :: t) := by
      simpa [TypeArgsText.text] using hc
    have hc₁ : (c.skip 1).rest = (toString k).toList ++ ')' :: t := by simp [hc']
    -- the first alternative, one number, reads the whole number
    have hargs : (typeArgs.ways (c.skip 1) caps).head? = some ((c.skip 1).skip (toString k).length, caps) := by
      rw [typeArgs_eq, ways_alt, List.head?_append, head?_ways_digits_toString k (by decide) hc₁ caps]
      rfl
    rw [TypeArgsText.text_eq]
    exact head?_ways_argList_of_inside hc' caps (head?_ways_inside hargs hc₁)
  | two k m =>
    have hc' : c.rest = '(' :: ((toString k ++ "," ++ toString m).toList ++ ')' :: t) := by
      simpa [TypeArgsText.text, String.append_assoc] using hc
    have hc₁ : (c.skip 1).rest = (toString k).toList ++ ',' :: ((toString m).toList ++ ')' :: t) := by
      simp [hc']
    have hc₂ : (((c.skip 1).skip (toString k).length).skip 1).rest =
        (toString m).toList ++ ')' :: t := by
      rw [Cursor.rest_skip, Cursor.skip_text_rest hc₁]
      rfl
    -- the first alternative stops before the comma, where no parenthesis closes: the second reads
    have h₁ := head?_ways_digits_toString k (by decide) hc₁ caps
    have h₂ : ((literal ",").ways ((c.skip 1).skip (toString k).length) caps).head? =
        some (((c.skip 1).skip (toString k).length).skip 1, caps) := by
      rw [ways_literal_caseless (x := ',') rfl (Unicode.caseless_punctuation (by decide))
        (Cursor.skip_text_rest hc₁)]
      rfl
    have h₃ := head?_ways_digits_toString m (by decide) hc₂ caps
    have hpair : ((digits ++ literal "," ++ digits).ways (c.skip 1) caps).head? =
        some ((c.skip 1).skip (toString k ++ "," ++ toString m).length, caps) := by
      rw [head?_ways_append_of_head? (head?_ways_append_of_head? h₁ h₂) h₃, Cursor.skip_skip,
        Cursor.skip_skip, String.length_append, String.length_append, show ",".length = 1 from rfl,
        Nat.add_assoc]
    have hc₁' : (c.skip 1).rest = (toString k ++ "," ++ toString m).toList ++ ')' :: t := by
      rw [hc₁, String.toList_append, String.toList_append, List.append_assoc, List.append_assoc]
      rfl
    have hin := head?_ways_inside hpair hc₁'
    rw [TypeArgsText.text_eq]
    exact head?_ways_argList_of_inside hc' caps (by
      rw [typeArgs_eq, ways_group_alt_append, ways_group_digits_close_eq_nil k hc₁, List.nil_append,
        ways_group_alt_append, List.head?_append, hin]
      rfl)
  | strings vs =>
    cases vs with
    | nil => exact absurd rfl ha
    | cons v vs =>
      obtain ⟨x, hx⟩ : ∃ x, x = ",".intercalate ((v :: vs).map Render.sqlString) := ⟨_, rfl⟩
      have hc' : c.rest = '(' :: (x.toList ++ ')' :: t) := by
        rw [hc, hx]
        simp only [TypeArgsText.text, String.toList_append, List.append_assoc]
        rfl
      have hc₁ : (c.skip 1).rest = x.toList ++ ')' :: t := by simp [hc']
      have hc₁' : (c.skip 1).rest = (Render.sqlString v ++ Render.finalComma (!vs.isEmpty)).toList ++
          ((",".intercalate (vs.map Render.sqlString)).toList ++ ')' :: t) := by
        rw [hc₁, hx, intercalate_sqlString_cons, String.toList_append, List.append_assoc]
      obtain ⟨r, hr⟩ : ∃ r, (c.skip 1).rest = '\'' :: r :=
        ⟨_, by rw [hc₁', String.toList_append, sqlString_toList, List.cons_append, List.cons_append]⟩
      -- neither numeric alternative reads a quote: the strings are read, each with its comma
      have hnum : (Pattern.group "arg" digits ++ literal ")").ways (c.skip 1) caps = [] :=
        ways_append_eq_nil _ (by rw [ways_group, ways_digits_quote hr caps]; rfl)
      have hnum₂ : (Pattern.group "arg" (digits ++ literal "," ++ digits) ++ literal ")").ways
          (c.skip 1) caps = [] :=
        ways_append_eq_nil _ (by
          rw [ways_group, ways_append_eq_nil _ (ways_append_eq_nil _ (ways_digits_quote hr caps))]
          rfl)
      have hu : (!vs.isEmpty) = false →
          ((",".intercalate (vs.map Render.sqlString)).toList ++ ')' :: t).head? ≠ some '\'' ∧
          ((",".intercalate (vs.map Render.sqlString)).toList ++ ')' :: t).head? ≠ some ',' := by
        intro h
        obtain rfl : vs = [] := by simpa using h
        simp
      have hitem := head?_ways_stringItem v _ hu hc₁' caps
      have hstrings : ((plus (stringLiteral ++ opt (literal ","))).ways (c.skip 1) caps).head? =
          some ((c.skip 1).skip x.length, caps) := by
        rw [head?_ways_plus_of_head? hitem, ← many, head?_ways_stringList vs
          (Cursor.skip_text_rest hc₁'), Cursor.skip_skip, hx, intercalate_sqlString_cons]
        simp only [String.length_append]
      rw [TypeArgsText.text_eq, show (TypeArgsText.strings (v :: vs)).inner = some x by rw [hx]; rfl]
      exact head?_ways_argList_of_inside hc' caps (by
        rw [typeArgs_eq, ways_group_alt_append, hnum, List.nil_append, ways_group_alt_append, hnum₂,
          List.nil_append, head?_ways_inside hstrings hc₁])

/-! ## Clauses led by spaces -/

/-- A flag: spaces and a keyword, recorded under `g`. -/
def flagClause (g kw : String) : Pattern := spaces ++ .group g (literal kw)

/-- A keyword and its value: spaces, the keyword, spaces and the value, recorded under `g`. -/
def valueClause (kw g : String) (value : Pattern) : Pattern :=
  spaces ++ literal kw ++ spaces ++ .group g value

/-- `NULL` or `NOT NULL` after spaces, recorded under `notnull`. -/
def notNullClause : Pattern := spaces ++ .group "notnull" (opt (literal "NOT ") ++ literal "NULL")

/-- A column comment: spaces, `COMMENT`, spaces and a quoted string, its inside recorded under
`comment`. -/
def columnCommentClause : Pattern :=
  spaces ++ literal "COMMENT" ++ spaces ++ literal "'" ++ .group "comment" stringBody ++ literal "'"

/-- The free text at the end of a line, after spaces, recorded under `extra`. -/
def extraClause : Pattern := spaces ++ .group "extra" (many anyChar)

/-- The full column grammar, clause by clause. -/
theorem column_eq (q : Quoting) : column q =
    typeHead q ++ argList.opt ++ (flagClause "unsigned" "UNSIGNED").opt ++
      (flagClause "zerofill" "ZEROFILL").opt ++
      (valueClause "CHARACTER SET" "charset" (plus (oneOf [.word, .char '_']))).opt ++
      (valueClause "COLLATE" "collate" (plus (oneOf [.word, .char '_']))).opt ++
      notNullClause.opt ++ (valueClause "DEFAULT" "default" defaultValue).opt ++ generated.opt ++
      (flagClause "autoincr" "AUTO_INCREMENT").opt ++ columnCommentClause.opt ++
      (valueClause "COLUMN_FORMAT" "colfmt" word).opt ++
      (valueClause "STORAGE" "storage" word).opt ++ extraClause.opt ++ (literal ",").opt ++
      .atEnd := rfl

/-! ### Clauses that are not written -/

theorem ways_flagClause_eq_nil (g : String) {kw : String} {c : Cursor n} (hc : NoClause kw c.rest)
    (caps : Captures) : (flagClause g kw).ways c caps = [] :=
  ways_append_group_eq_nil g (ways_spaces_literal_eq_nil hc caps)

theorem ways_valueClause_eq_nil (g : String) (value : Pattern) {kw : String} {c : Cursor n}
    (hc : NoClause kw c.rest) (caps : Captures) : (valueClause kw g value).ways c caps = [] :=
  ways_append_eq_nil _ (ways_append_eq_nil _ (ways_spaces_literal_eq_nil hc caps))

theorem ways_columnCommentClause_eq_nil {c : Cursor n} (hc : NoClause "COMMENT" c.rest)
    (caps : Captures) : columnCommentClause.ways c caps = [] :=
  ways_append_eq_nil _ (ways_append_eq_nil _ (ways_append_eq_nil _ (ways_append_eq_nil _
    (ways_spaces_literal_eq_nil hc caps))))

/-- Neither `NULL` nor `NOT NULL` is read where neither follows the spaces. -/
theorem ways_notNullClause_eq_nil {c : Cursor n} (hc : NoClause "NOT NULL" c.rest)
    (hc' : NoClause "NULL" c.rest) (caps : Captures) : notNullClause.ways c caps = [] := by
  rcases hc with hc | ⟨t, hct, ht, hkw⟩
  · exact ways_append_eq_nil _ (ways_spaces_eq_nil hc caps)
  have hnull : Unicode.foldPrefix "NULL".toList t = false := by
    rcases hc' with hc' | ⟨t', hct', -, hkw'⟩
    · simp [hct] at hc'
    · rw [hct, List.cons.injEq] at hct'
      exact hct'.2 ▸ hkw'
  refine (spaces_oneWay ht hct caps).append_eq_nil ?_
  have hrest : (c.skip 1).rest = t := by simp [hct]
  -- `NOT ` may be read, but `NULL` is read neither after it nor in its place
  have hafter : ∀ w ∈ (literal "NOT ").ways (c.skip 1) caps, (literal "NULL").ways w.1 w.2 = [] := by
    intro w hw
    rw [ways_literal] at hw
    split at hw
    · next hnot =>
      obtain rfl : w = ((c.skip 1).skip "NOT ".length, caps) := by simpa using hw
      have hsplit := Unicode.foldPrefix_append_left "NOT ".toList "NULL".toList t
      rw [show "NOT ".toList ++ "NULL".toList = "NOT NULL".toList from rfl, hkw, ← hrest, hnot,
        Bool.true_and] at hsplit
      rw [ways_literal, Cursor.rest_skip, ← String.length_toList, ← hsplit]
      rfl
    · simp at hw
  rw [ways_group, List.map_eq_nil_iff, ways_append, ways_opt, List.flatMap_append,
    List.flatMap_eq_nil_iff.2 hafter, List.nil_append, List.flatMap_singleton, ways_literal, hrest,
    hnull]
  rfl

/-- A generating expression is not read where neither `AS` nor `GENERATED` follows the
spaces. -/
theorem ways_generated_eq_nil {c : Cursor n} (hAs : NoClause "AS" c.rest)
    (hGen : NoClause "GENERATED" c.rest) (caps : Captures) : generated.ways c caps = [] := by
  rcases hAs with hc | ⟨t, hct, ht, hkw⟩
  · exact ways_append_eq_nil _ (ways_append_eq_nil _ (ways_append_eq_nil _ (ways_append_eq_nil _
      (ways_append_eq_nil _ (ways_append_eq_nil _ (ways_append_eq_nil _
        (ways_spaces_eq_nil hc caps)))))))
  have hgen : Unicode.foldPrefix "GENERATED".toList t = false := by
    rcases hGen with hc' | ⟨t', hct', -, hkw'⟩
    · simp [hct] at hc'
    · rw [hct, List.cons.injEq] at hct'
      exact hct'.2 ▸ hkw'
  have hrest : (c.skip 1).rest = t := by simp [hct]
  -- after the one space, neither `GENERATED ALWAYS`, a second space nor `AS` is read
  have hGA : (literal "GENERATED ALWAYS").opt.OneWay (c.skip 1) caps (c.skip 1, caps) := by
    refine OneWay.of_ways_eq ?_
    have hsplit := Unicode.foldPrefix_append_left "GENERATED".toList " ALWAYS".toList t
    rw [show "GENERATED".toList ++ " ALWAYS".toList = "GENERATED ALWAYS".toList from rfl, hgen,
      Bool.false_and] at hsplit
    rw [ways_opt, ways_literal, hrest, hsplit]
    rfl
  have hsp : (literal " ").opt.OneWay (c.skip 1) caps (c.skip 1, caps) := by
    refine OneWay.of_ways_eq ?_
    rw [ways_opt, ways_literal_caseless_of_ne (x := ' ') rfl
      (Unicode.caseless_punctuation (by decide)) (by rwa [hrest]) caps]
    rfl
  have hAS : (literal "AS").ways (c.skip 1) caps = [] := by
    rw [ways_literal, hrest, hkw]
    rfl
  unfold generated
  exact ways_append_eq_nil _ (ways_append_eq_nil _ (ways_append_eq_nil _ (ways_append_eq_nil _
    ((((spaces_oneWay ht hct caps).seq hGA).seq hsp).append_eq_nil hAS))))

/-! ### Clauses that are written -/

/-- A flag is read first where it is written after one space, as any spelling of its keyword, and
skipped where it is not written and its keyword does not follow the spaces. -/
theorem head?_ways_flagClause (g : String) {kw w : String}
    (hw : Unicode.foldPrefix kw.toList w.toList = true) (hlen : w.length = kw.length)
    (hne : w ≠ "") (hsp : w.toList.head? ≠ some ' ') (b : Bool) {t : List Char}
    (ht : b = false → NoClause kw t) {c : Cursor n} (hc : c.rest = (flagText b w).toList ++ t)
    (caps : Captures) :
    ((flagClause g kw).opt.ways c caps).head? =
      some (c.skip (flagText b w).length,
        clauseCaptures g 1 (if b then some w else none) c.pos ++ caps) := by
  cases b with
  | false =>
    have hct : c.rest = t := by simpa [flagText] using hc
    rw [head?_ways_opt_of_nil (ways_flagClause_eq_nil g (hct ▸ ht rfl) caps)]
    simp [flagText, clauseCaptures]
  | true =>
    have hc' : c.rest = ' ' :: (w.toList ++ t) := by simpa [flagText] using hc
    have hwt : (w.toList ++ t).head? ≠ some ' ' := by
      rwa [List.head?_append_of_ne_nil _ (by simpa using hne)]
    have hkw : (literal kw).ways (c.skip 1) caps = [((c.skip 1).skip w.length, caps)] := by
      rw [ways_literal, Cursor.rest_skip, hc', List.drop_one, List.tail_cons,
        Unicode.foldPrefix_append_of_le t (by rw [String.length_toList, String.length_toList, hlen]),
        hw, hlen]
      rfl
    have hpos : (c.skip 1).pos = c.pos + 1 := by simp [hc']
    have hpos' : ((c.skip 1).skip w.length).pos = c.pos + 1 + w.length := by
      rw [Cursor.skip_text_pos (t := t) (by simp [hc']), hpos]
    have hway : (flagClause g kw).OneWay c caps
        ((c.skip 1).skip w.length, (g, c.pos + 1, c.pos + 1 + w.length) :: caps) :=
      (spaces_oneWay hwt hc' caps).seq (OneWay.of_ways_eq (by
        simp only [ways_group, hkw, List.map_cons, List.map_nil, hpos, hpos']))
    rw [head?_ways_opt_of_head? hway.head?, Cursor.skip_skip]
    simp [flagText, clauseCaptures, show " ".length = 1 from rfl]

/-- `NOT NULL` is read first where it is written after one space, and the clause is skipped
where it is not written and neither `NOT NULL` nor `NULL` follows the spaces. -/
theorem head?_ways_notNullClause (b : Bool) {t : List Char}
    (ht : b = false → NoClause "NOT NULL" t ∧ NoClause "NULL" t) {c : Cursor n}
    (hc : c.rest = (flagText b "NOT NULL").toList ++ t) (caps : Captures) :
    (notNullClause.opt.ways c caps).head? =
      some (c.skip (flagText b "NOT NULL").length,
        clauseCaptures "notnull" 1 (if b then some "NOT NULL" else none) c.pos ++ caps) := by
  cases b with
  | false =>
    have hct : c.rest = t := by simpa [flagText] using hc
    obtain ⟨h₁, h₂⟩ := ht rfl
    rw [head?_ways_opt_of_nil (ways_notNullClause_eq_nil (hct ▸ h₁) (hct ▸ h₂) caps)]
    simp [flagText, clauseCaptures]
  | true =>
    have hc' : c.rest = ' ' :: ("NOT NULL".toList ++ t) := by simpa [flagText] using hc
    have hpos : (c.skip 1).pos = c.pos + 1 := by simp [hc']
    have hnot : (literal "NOT ").ways (c.skip 1) caps = [((c.skip 1).skip 4, caps)] :=
      ways_literal_self (s := "NOT ") (by decide +kernel) (r := "NULL".toList ++ t)
        (by simp [hc']) caps
    have hnull : (literal "NULL").ways ((c.skip 1).skip 4) caps =
        [(((c.skip 1).skip 4).skip 4, caps)] :=
      ways_literal_self (s := "NULL") (by decide +kernel) (r := t)
        (by simp [hc', Cursor.skip_skip]) caps
    have hinner : ((opt (literal "NOT ") ++ literal "NULL").ways (c.skip 1) caps).head? =
        some (((c.skip 1).skip 4).skip 4, caps) :=
      head?_ways_append_of_head? (head?_ways_opt_of_head? (by rw [hnot]; rfl)) (by rw [hnull]; rfl)
    have hpos' : (((c.skip 1).skip 4).skip 4).pos = c.pos + 1 + 8 := by
      simp [hc', Cursor.skip_skip]
    rw [head?_ways_opt_of_head? (by
      rw [notNullClause, (spaces_oneWay (by simp) hc' caps).head?_append, head?_ways_group, hinner,
        Option.map_some, hpos, hpos'])]
    simp only [Cursor.skip_skip, flagText, if_true, clauseCaptures, Option.map_some,
      Option.toList_some, List.singleton_append]
    rfl

/-- A keyword clause is read first with its value where it is written, the keyword and the value
each after one space and the value read first whole; it is skipped where it is not written and
its keyword does not follow the spaces. -/
theorem head?_ways_valueClause {kw : String} (g : String) {value : Pattern}
    (hkw : Unicode.foldPrefix kw.toList kw.toList = true) (hkwne : kw.toList ≠ [])
    (hkwsp : kw.toList.head? ≠ some ' ') (x : Option String) {t : List Char}
    (hx : ∀ v ∈ x, v.toList.head? ≠ some ' ' ∧ v ≠ "" ∧ ∀ (c : Cursor n) caps,
      c.rest = v.toList ++ t → (value.ways c caps).head? = some (c.skip v.length, caps))
    (habsent : x = none → NoClause kw t) {c : Cursor n}
    (hc : c.rest = (Render.optionalPart (" " ++ kw ++ " ") x).toList ++ t) (caps : Captures) :
    ((valueClause kw g value).opt.ways c caps).head? =
      some (c.skip (Render.optionalPart (" " ++ kw ++ " ") x).length,
        clauseCaptures g (kw.length + 2) x c.pos ++ caps) := by
  cases x with
  | none =>
    have hct : c.rest = t := by simpa [Render.optionalPart] using hc
    rw [head?_ways_opt_of_nil (ways_valueClause_eq_nil g value (hct ▸ habsent rfl) caps)]
    simp [Render.optionalPart, clauseCaptures]
  | some v =>
    obtain ⟨hvsp, hvne, hval⟩ := hx v rfl
    have hc' : c.rest = ' ' :: (kw.toList ++ ' ' :: (v.toList ++ t)) := by
      simpa [Render.optionalPart] using hc
    have hsp := spaces_oneWay (by rwa [List.head?_append_of_ne_nil _ hkwne]) hc' caps
    have hkwWay : (literal kw).OneWay (c.skip 1) caps ((c.skip 1).skip kw.length, caps) :=
      OneWay.of_ways_eq (ways_literal_self hkw (r := ' ' :: (v.toList ++ t)) (by simp [hc']) caps)
    have hrest : ((c.skip 1).skip kw.length).rest = ' ' :: (v.toList ++ t) := by
      rw [Cursor.rest_skip, Cursor.rest_skip, hc', List.drop_one, List.tail_cons,
        ← String.length_toList, List.drop_left]
    have hsp₂ := spaces_oneWay (by rwa [List.head?_append_of_ne_nil _ (by simpa using hvne)])
      hrest caps
    have hrest₂ : (((c.skip 1).skip kw.length).skip 1).rest = v.toList ++ t := by
      rw [Cursor.rest_skip, hrest]
      rfl
    have hlen : 1 + kw.length + 1 + v.length ≤ c.rest.length := by
      rw [hc', ← String.length_toList, ← String.length_toList]
      simp
      omega
    have hleadLen : (Render.optionalPart (" " ++ kw ++ " ") (some v)).length =
        1 + kw.length + 1 + v.length := by
      simp only [Render.optionalPart, String.length_append, show " ".length = 1 from rfl]
    rw [head?_ways_opt_of_head? (by
      rw [valueClause, ((hsp.seq hkwWay).seq hsp₂).head?_append, head?_ways_group,
        hval _ caps hrest₂]
      rfl)]
    simp only [Cursor.skip_skip, hleadLen, clauseCaptures, Option.map_some, Option.toList_some,
      List.singleton_append]
    rw [pos_skip_of_le (by omega), pos_skip_of_le (by omega),
      show 1 + kw.length + 1 = kw.length + 2 by omega, Nat.add_assoc c.pos]

/-! ### Default values -/

theorem defaultValue_eq : defaultValue = .alt (literal "NULL")
    (.alt stringLiteral (callWord ++ opt (spaces ++ literal "ON UPDATE " ++ callWord))) := rfl

/-- `NULL` is read first as a default value. -/
theorem head?_ways_defaultValue_null {t : List Char} {c : Cursor n}
    (hc : c.rest = "NULL".toList ++ t) (caps : Captures) :
    (defaultValue.ways c caps).head? = some (c.skip "NULL".length, caps) := by
  rw [defaultValue_eq, ways_alt, ways_literal_self (by decide +kernel) hc]
  rfl

/-- A quoted string that no quote follows is read first as a default value. -/
theorem head?_ways_defaultValue_string (v : String) {t : List Char} (ht : t.head? ≠ some '\'')
    {c : Cursor n} (hc : c.rest = (Render.sqlString v).toList ++ t) (caps : Captures) :
    (defaultValue.ways c caps).head? = some (c.skip (Render.sqlString v).length, caps) := by
  have hnull : (literal "NULL").ways c caps = [] := by
    rw [ways_literal, hc, sqlString_toList, List.cons_append]
    rw [show "NULL".toList = 'N' :: "ULL".toList from rfl, Unicode.foldPrefix_cons_cons,
      show (Unicode.foldOrbit 'N').contains '\'' = false by decide +kernel, Bool.false_and]
    rfl
  rw [defaultValue_eq, ways_alt, hnull, List.nil_append, ways_alt,
    List.head?_append, head?_ways_stringLiteral v ht hc]
  rfl

/-- The characters of a call word: word characters, dots and parentheses. -/
def callChar (x : Char) : Bool := Unicode.word.contains x || x == '.' || x == '(' || x == ')'

theorem admits_callChar (x : Char) :
    (CharClass.anyOf [.word, .char '.', .char '(', .char ')']).admits x = callChar x := by
  have h₁ : Unicode.foldOrbit '.' = ['.'] := Unicode.caseless_punctuation (by decide)
  have h₂ : Unicode.foldOrbit '(' = ['('] := Unicode.caseless_punctuation (by decide)
  have h₃ : Unicode.foldOrbit ')' = [')'] := Unicode.caseless_punctuation (by decide)
  simp only [CharClass.anyOf, CharClass.admits, List.flatMap_cons, List.flatMap_nil, h₁, h₂, h₃,
    List.map_cons, List.map_nil, List.append_nil, List.singleton_append, List.any_cons,
    List.any_nil, ClassItem.admits, Bool.or_false, callChar, Bool.false_bne, Bool.or_assoc]
  rw [Bool.beq_comm (a := x), Bool.beq_comm (a := x), Bool.beq_comm (a := x)]

/-- A run of call-word characters that no such character follows is read first whole. -/
theorem head?_ways_callWord {u t : List Char} (hu : u ≠ []) (hcall : ∀ x ∈ u, callChar x = true)
    (ht : ∀ x ∈ t.head?, callChar x = false) {c : Cursor n} (hc : c.rest = u ++ t)
    (caps : Captures) : (callWord.ways c caps).head? = some (c.skip u.length, caps) := by
  rw [callWord, oneOf]
  exact head?_ways_plus_chars hu (fun x hx => (admits_callChar x).trans (hcall x hx))
    (fun x hx => (admits_callChar x).trans (ht x hx)) hc caps

theorem callChar_grammar {x : Char} (hx : x ∈ Unicode.grammarChars) (hp : x ∈ Unicode.punctuation)
    (hx' : x ≠ '.' ∧ x ≠ '(' ∧ x ≠ ')') : callChar x = false := by
  simp [callChar, Unicode.word_grammar hx, hp, hx'.1, hx'.2.1, hx'.2.2]

/-- The text that a default written as a call word may run on with: `ON UPDATE ` in any spelling
and another call word. -/
structure OnUpdateText (e : String) : Prop where
  keyword : Unicode.foldPrefix "ON UPDATE ".toList e.toList = true
  value_ne : e.toList.drop 10 ≠ []
  value_call : ∀ x ∈ e.toList.drop 10, callChar x = true

instance (e : String) : Decidable (OnUpdateText e) :=
  decidable_of_iff (Unicode.foldPrefix "ON UPDATE ".toList e.toList = true ∧ e.toList.drop 10 ≠ [] ∧
      (e.toList.drop 10).all callChar = true)
    ⟨fun ⟨h₁, h₂, h₃⟩ => ⟨h₁, h₂, List.all_eq_true.1 h₃⟩,
      fun h => ⟨h.1, h.2, List.all_eq_true.2 h.3⟩⟩

/-- A default written as a call word that does not start like `NULL`, optionally followed by one
space and an `ON UPDATE` text, is read first whole, where no call-word character follows it and,
without the `ON UPDATE` text, `ON UPDATE ` does not follow the spaces. -/
theorem head?_ways_defaultValue_call {d : String} (hd : d.toList ≠ [])
    (hcall : ∀ x ∈ d.toList, callChar x = true)
    (hN : ∀ x ∈ d.toList.head?, x ∉ Unicode.foldOrbit 'N') (e : Option String)
    (he : ∀ E ∈ e, OnUpdateText E) {t : List Char} (ht : ∀ x ∈ t.head?, callChar x = false)
    (hnone : e = none → NoClause "ON UPDATE " t) {c : Cursor n}
    (hc : c.rest = (d ++ Render.optionalPart " " e).toList ++ t) (caps : Captures) :
    (defaultValue.ways c caps).head? = some (c.skip (d ++ Render.optionalPart " " e).length, caps) := by
  obtain ⟨y, r, hyr⟩ := List.exists_cons_of_ne_nil hd
  have hy : callChar y = true := hcall y (by simp [hyr])
  have hcr : c.rest = y :: (r ++ ((Render.optionalPart " " e).toList ++ t)) := by
    simp [hc, hyr]
  -- the first character is neither a case of `N` nor a quote: only the call word reads
  have hnull : (literal "NULL").ways c caps = [] := by
    rw [ways_literal, hcr, show "NULL".toList = 'N' :: "ULL".toList from rfl,
      Unicode.foldPrefix_cons_cons]
    have hyN : (Unicode.foldOrbit 'N').contains y = false := by
      simpa using hN y (by simp [hyr])
    rw [hyN, Bool.false_and]
    rfl
  have hstring : stringLiteral.ways c caps = [] := by
    refine ways_append_eq_nil _ (ways_append_eq_nil _ (ways_literal_caseless_of_ne (s := "'")
      (x := '\'') rfl (Unicode.caseless_punctuation (by decide)) ?_ caps))
    rw [hcr]
    rintro ⟨⟩
    rw [callChar_grammar (by decide) (by decide) (by decide)] at hy
    exact absurd hy (by decide)
  have hc' : c.rest = d.toList ++ ((Render.optionalPart " " e).toList ++ t) := by simp [hc]
  have hafter : ∀ x ∈ ((Render.optionalPart " " e).toList ++ t).head?, callChar x = false := by
    cases e with
    | none => simpa [Render.optionalPart] using ht
    | some E =>
      intro x hx
      obtain rfl : ' ' = x := by simpa [Render.optionalPart] using hx
      exact callChar_grammar (by decide) (by decide) (by decide)
  have hword := head?_ways_callWord hd hcall hafter hc' caps
  rw [String.length_toList] at hword
  have hrest := Cursor.skip_text_rest hc'
  rw [defaultValue_eq, ways_alt, hnull, List.nil_append, ways_alt, hstring, List.nil_append]
  refine head?_ways_append_of_head? hword ?_
  cases e with
  | none =>
    rw [head?_ways_opt_of_nil (ways_append_eq_nil _ (ways_spaces_literal_eq_nil
      (by rw [hrest]; simpa [Render.optionalPart] using hnone rfl) caps))]
    simp [Render.optionalPart]
  | some E =>
    obtain ⟨hkw, hne, hval⟩ := he E rfl
    have hlen : 10 ≤ E.toList.length := Unicode.foldPrefix_length_le hkw
    have hEne : E.toList ≠ [] := List.ne_nil_of_length_pos (by omega)
    have hEsp : E.toList.head? ≠ some ' ' := by
      obtain ⟨z, zs, hz⟩ := List.exists_cons_of_ne_nil hEne
      rw [hz]
      intro h
      obtain rfl : z = ' ' := by simpa using h
      have hO : (Unicode.foldOrbit 'O').contains ' ' = false := by decide +kernel
      rw [hz, show "ON UPDATE ".toList = 'O' :: "N UPDATE ".toList from rfl,
        Unicode.foldPrefix_cons_cons, hO, Bool.false_and] at hkw
      exact absurd hkw (by decide)
    have hrest' : (c.skip d.length).rest = ' ' :: (E.toList ++ t) := by
      simpa [Render.optionalPart] using hrest
    have hrest₁ : ((c.skip d.length).skip 1).rest = E.toList ++ t := by
      rw [Cursor.rest_skip, hrest']
      rfl
    have hsp := spaces_oneWay (by rwa [List.head?_append_of_ne_nil _ hEne]) hrest' caps
    have hkwWay : (literal "ON UPDATE ").OneWay ((c.skip d.length).skip 1) caps
        (((c.skip d.length).skip 1).skip 10, caps) := by
      refine OneWay.of_ways_eq ?_
      rw [ways_literal, hrest₁, Unicode.foldPrefix_append_of_le t (by simpa using hlen), hkw]
      rfl
    have hcall' := head?_ways_callWord hne hval (t := t) ht
      (c := (((c.skip d.length).skip 1).skip 10)) (by
        rw [Cursor.rest_skip, hrest₁, List.drop_append_of_le_length hlen]) caps
    rw [head?_ways_opt_of_head? (by
      rw [(hsp.seq hkwWay).head?_append, hcall'])]
    have hlen' : 10 ≤ E.length := by rwa [String.length_toList] at hlen
    simp only [Cursor.skip_skip, Render.optionalPart, String.length_append, List.length_drop,
      String.length_toList, show " ".length = 1 from rfl]
    congr 3
    omega

/-! ### The end of the line -/

/-- The free text at the end of a line is read first whole, after one space. -/
theorem head?_ways_extraClause {x : List Char} (hx : x.head? ≠ some ' ') (hnl : '\n' ∉ x)
    {c : Cursor n} (hc : c.rest = ' ' :: x) (caps : Captures) :
    (extraClause.opt.ways c caps).head? =
      some (c.skip (x.length + 1), ("extra", c.pos + 1, c.pos + 1 + x.length) :: caps) := by
  have hrun : ((c.skip 1).rest.takeWhile (CharClass.noneOf [.char '\n']).admits).length =
      x.length := by
    have hall : ∀ y ∈ x, (CharClass.noneOf [.char '\n']).admits y = true := fun y hy =>
      (admits_noneOf_caseless (Unicode.caseless_punctuation (by decide)) y).2
        (fun h => hnl (h ▸ hy))
    have htw : (x ++ []).takeWhile (CharClass.noneOf [.char '\n']).admits =
        x ++ ([] : List Char).takeWhile (CharClass.noneOf [.char '\n']).admits :=
      List.takeWhile_append_of_pos hall
    simp only [List.takeWhile_nil, List.append_nil] at htw
    rw [Cursor.rest_skip, hc, List.drop_one, List.tail_cons, htw]
  have hpos : (c.skip 1).pos = c.pos + 1 := by simp [hc]
  have hpos' : ((c.skip 1).skip x.length).pos = c.pos + 1 + x.length := by
    rw [Cursor.pos_skip, hpos, Cursor.rest_skip, hc]
    simp
  rw [head?_ways_opt_of_head? (by
    rw [extraClause, (spaces_oneWay hx hc caps).head?_append, head?_ways_group, many, anyChar,
      noneOf, head?_ways_many_chars, hrun, Option.map_some, hpos, hpos'])]
  rw [Cursor.skip_skip, Nat.add_comm]

theorem head?_ways_extraClause_of_ne {c : Cursor n} (hc : c.rest.head? ≠ some ' ')
    (caps : Captures) : (extraClause.opt.ways c caps).head? = some (c, caps) :=
  head?_ways_opt_of_nil (ways_append_eq_nil _ (ways_spaces_eq_nil hc caps))

/-- A final comma is read first, and nothing where none is written. -/
theorem head?_ways_finalComma (b : Bool) {c : Cursor n} (hc : c.rest = (Render.finalComma b).toList)
    (caps : Captures) :
    ((literal ",").opt.ways c caps).head? = some (c.skip (Render.finalComma b).length, caps) := by
  cases b with
  | true =>
    rw [head?_ways_opt_of_head? (by
      rw [ways_literal_caseless (x := ',') rfl (Unicode.caseless_punctuation (by decide)) (r := [])
        (by simpa [Render.finalComma] using hc)]
      rfl)]
    rfl
  | false =>
    rw [head?_ways_opt_of_nil (ways_literal_caseless_of_ne (x := ',') rfl
      (Unicode.caseless_punctuation (by decide)) (by simp [hc, Render.finalComma]) caps)]
    simp [Render.finalComma]

theorem head?_ways_atEnd {c : Cursor n} (hc : c.rest = []) (caps : Captures) :
    (Pattern.atEnd.ways c caps).head? = some (c, caps) := by
  simp [hc]

end Grammar

end TableDdl

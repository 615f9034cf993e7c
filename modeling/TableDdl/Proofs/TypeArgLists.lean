import TableDdl.Proofs.ColumnClauses

/-!
# Reading a written argument list

The arguments of a column type are read from the inside of its parenthesised list by searching a
grammar again and again: runs of digits for numbers, quoted strings for the values of an
enumeration or a set. Over a list written as one number, two numbers or quoted strings joined by
commas, each search stops exactly at the end of an argument, so the arguments are read as
written (`TypeArgsText.typeArgs_inner`): a number wider than 64 bits gives nothing, and a value
keeps its quotes until the reader of enumerations and sets removes them
(`Reader.unquoteValue_sqlString`). With the precision of temporal types taken from the first
number, this is the type that a column line with such a list reads as
(`TypeArgsText.splitPrecision_typeArgs_inner`).
-/

namespace TableDdl

open Pattern

/-- A match over a nonempty text is searched for again where it ends. -/
theorem Match.resume_of_nonempty {pos len : Nat} (caps : Captures) (h : 0 < len) :
    (⟨pos, pos + len, caps⟩ : Match).resume = pos + len :=
  if_pos (by simp; omega)

namespace Pattern

/-- A pattern whose first way from a position reads `len` characters matches there over them. -/
theorem matchAt_of_head? {p : Pattern} {s : List Char} {pos len : Nat}
    (hlen : pos + len ≤ s.length)
    (h : (p.ways ((Cursor.start s).skip pos) []).head? =
      some (((Cursor.start s).skip pos).skip len, [])) :
    p.matchAt ((Cursor.start s).skip pos) = some ⟨pos, pos + len, []⟩ := by
  rw [matchAt_eq_head?, h, Option.map_some, Cursor.skip_skip, pos_skip_start (by omega),
    pos_skip_start hlen]

/-- Searching from a position where the pattern matches gives that match, then searches again
where it ends. -/
theorem allFrom_of_matchAt {p : Pattern} {s : List Char} {pos : Nat} {m : Match}
    (hpos : pos ≤ s.length) (hm : p.matchAt ((Cursor.start s).skip pos) = some m)
    (hres : pos < m.resume) (hle : m.resume ≤ s.length) :
    p.allFrom s pos = m :: p.allFrom s m.resume := by
  rw [allFrom, leftmostFrom_eq_some (Nat.le_refl pos) hpos (fun j h₁ h₂ => by omega) hm]
  exact if_pos ⟨hres, hle⟩

/-- Where the pattern does not match, searching goes on from the next position. -/
theorem allFrom_of_matchAt_none {p : Pattern} {s : List Char} {pos : Nat} (hpos : pos ≤ s.length)
    (hnone : p.matchAt ((Cursor.start s).skip pos) = none)
    (hnext : ∀ m, p.leftmostFrom s (pos + 1) = some m → pos + 1 < m.resume) :
    p.allFrom s pos = p.allFrom s (pos + 1) := by
  rw [allFrom, leftmostFrom_eq hpos, hnone]
  conv_rhs => rw [allFrom]
  cases h : p.leftmostFrom s (pos + 1) with
  | none => rfl
  | some m =>
    have hlt := hnext m h
    simp [Option.orElse, show pos < m.resume by omega, hlt]

/-- At the end of the subject a pattern that does not match there finds nothing more. -/
theorem allFrom_end {p : Pattern} {s : List Char} {pos : Nat} (hpos : pos = s.length)
    (h : p.matchAt ((Cursor.start s).skip pos) = none) : p.allFrom s pos = [] := by
  rw [allFrom, leftmostFrom_eq_none fun j hj hjs => by
    obtain rfl : j = pos := by omega
    exact h]

end Pattern

namespace Grammar

/-- A number written where a search for digits starts, and no digit after it, is matched whole. -/
theorem matchAt_digits (k : Nat) {s r : List Char} {pos : Nat}
    (hs : s.drop pos = (toString k).toList ++ r) (hr : ∀ x ∈ r.head?, x ∈ Unicode.grammarChars) :
    digits.matchAt ((Cursor.start s).skip pos) = some ⟨pos, pos + (toString k).length, []⟩ := by
  have hlen : pos + (toString k).length ≤ s.length := by
    have hpos := List.length_pos_of_ne_nil (toString_toList_ne_nil k)
    have := congrArg List.length hs
    simp only [List.length_drop, List.length_append, String.length_toList] at this hpos
    omega
  refine matchAt_of_head? hlen ?_
  rw [digits, digit, oneOf, ← String.length_toList]
  exact head?_ways_plus_chars (toString_toList_ne_nil k) (admits_digit_toString k)
    (fun x hx => admits_digit_grammar (hr x hx)) (by rw [rest_skip_start, hs]) []

/-- Digits do not match where no digit stands. -/
theorem matchAt_digits_eq_none {s : List Char} {pos : Nat}
    (hs : ∀ x ∈ (s.drop pos).head?, x ∈ Unicode.grammarChars) :
    digits.matchAt ((Cursor.start s).skip pos) = none := by
  have hways : digits.ways ((Cursor.start s).skip pos) [] = [] := by
    refine ways_append_eq_nil _ ?_
    rw [digit, oneOf, ways_chars, rest_skip_start]
    cases hd : s.drop pos with
    | nil => rfl
    | cons x r =>
      rw [hd] at hs
      simp [admits_digit_grammar (hs x rfl)]
  rw [matchAt_eq_head?, hways]
  rfl

theorem toString_length_pos (k : Nat) : 0 < (toString k).length := by
  rw [← String.length_toList]
  exact List.length_pos_of_ne_nil (toString_toList_ne_nil k)

/-- Searching digits again and again over a number finds the number. -/
theorem allFrom_digits_number (k : Nat) :
    (digits.allFrom (toString k).toList 0).map (·.text (toString k).toList) = [toString k] := by
  have hlen := toString_length_pos k
  have hd : (toString k).toList.drop 0 = (toString k).toList ++ [] := by
    rw [List.drop_zero, List.append_nil]
  have hm := matchAt_digits k hd (by simp)
  have hend : 0 + (toString k).length = (toString k).toList.length := by
    rw [Nat.zero_add, String.length_toList]
  have hslice := Match.slice_of_drop hd
  rw [String.length_toList, String.ofList_toList] at hslice
  rw [allFrom_of_matchAt (Nat.zero_le _) hm (by rw [Match.resume_of_nonempty _ hlen]; omega)
    (by rw [Match.resume_of_nonempty _ hlen, hend]), Match.resume_of_nonempty _ hlen,
    allFrom_end hend (matchAt_digits_eq_none (by rw [hend, List.drop_length]; simp))]
  simp only [List.map_cons, List.map_nil, Match.text, hslice]

/-- Searching digits again and again over two numbers and a comma finds the two numbers. -/
theorem allFrom_digits_pair (k m : Nat) :
    (digits.allFrom (toString k ++ "," ++ toString m).toList 0).map
      (·.text (toString k ++ "," ++ toString m).toList) = [toString k, toString m] := by
  set s := (toString k ++ "," ++ toString m).toList with hs
  have hk := toString_length_pos k
  have hm := toString_length_pos m
  have hslen : s.length = (toString k).length + 1 + (toString m).length := by
    rw [hs, String.length_toList, String.length_append, String.length_append,
      show ",".length = 1 from rfl]
  have hdk : s.drop 0 = (toString k).toList ++ ',' :: (toString m).toList := by
    rw [hs, List.drop_zero, String.toList_append, String.toList_append, List.append_assoc]
    rfl
  have hdc : s.drop (toString k).length = ',' :: (toString m).toList := by
    rw [← Nat.zero_add (toString k).length, ← List.drop_drop, hdk, ← String.length_toList,
      List.drop_left]
  have hdm : s.drop ((toString k).length + 1) = (toString m).toList ++ [] := by
    rw [← List.drop_drop, hdc, List.append_nil]
    rfl
  have hcomma : ',' ∈ Unicode.grammarChars := by decide
  have h₁ := matchAt_digits k hdk (by simp [hcomma])
  have h₂ := matchAt_digits m hdm (by simp)
  have hk' := Match.slice_of_drop hdk
  have hm' := Match.slice_of_drop hdm
  rw [String.length_toList, String.ofList_toList, Nat.zero_add] at hk'
  rw [String.length_toList, String.ofList_toList] at hm'
  -- the first number, then nothing at the comma, then the second number up to the end
  rw [allFrom_of_matchAt (Nat.zero_le _) h₁ (by rw [Match.resume_of_nonempty _ hk]; omega)
      (by rw [Match.resume_of_nonempty _ hk]; omega), Match.resume_of_nonempty _ hk, Nat.zero_add,
    allFrom_of_matchAt_none (by omega) (matchAt_digits_eq_none (by rw [hdc]; simp [hcomma]))
      (fun m' hm' => by
        rw [leftmostFrom_eq (by omega), h₂] at hm'
        cases hm'
        rw [Match.resume_of_nonempty _ hm]
        omega),
    allFrom_of_matchAt (by omega) h₂ (by rw [Match.resume_of_nonempty _ hm]; omega)
      (by rw [Match.resume_of_nonempty _ hm]; omega), Match.resume_of_nonempty _ hm,
    allFrom_end (by omega) (matchAt_digits_eq_none (by
      rw [List.drop_eq_nil_of_le (by omega)]
      simp))]
  simp only [List.map_cons, List.map_nil, Match.text, hk', hm']

/-- A quoted string written where a search for strings starts, no quote after it, is matched
whole. -/
theorem matchAt_stringLiteral (v : String) {s r : List Char} {pos : Nat}
    (hs : s.drop pos = (Render.sqlString v).toList ++ r) (hr : r.head? ≠ some '\'') :
    stringLiteral.matchAt ((Cursor.start s).skip pos) =
      some ⟨pos, pos + (Render.sqlString v).length, []⟩ := by
  have hlen : pos + (Render.sqlString v).length ≤ s.length := by
    have hpos : 0 < (Render.sqlString v).toList.length := by simp [sqlString_toList]
    have := congrArg List.length hs
    simp only [List.length_drop, List.length_append, String.length_toList] at this hpos
    omega
  exact matchAt_of_head? hlen
    (head?_ways_stringLiteral v hr (by rw [rest_skip_start, hs]) [])

/-- A quoted string does not match where no quote stands. -/
theorem matchAt_stringLiteral_eq_none {s : List Char} {pos : Nat}
    (hs : (s.drop pos).head? ≠ some '\'') :
    stringLiteral.matchAt ((Cursor.start s).skip pos) = none := by
  have hways : stringLiteral.ways ((Cursor.start s).skip pos) [] = [] :=
    ways_append_eq_nil _ (ways_append_eq_nil _ (ways_literal_caseless_of_ne (s := "'") (x := '\'')
      rfl caseless_quote (by rwa [rest_skip_start]) []))
  rw [matchAt_eq_head?, hways]
  rfl

theorem sqlString_length_pos (v : String) : 0 < (Render.sqlString v).length := by
  rw [← String.length_toList, sqlString_toList]
  exact Nat.succ_pos _

/-- Searching quoted strings again and again over quoted strings joined by commas finds each
string, quotes kept. -/
theorem allFrom_stringLiteral {s : List Char} :
    ∀ (vs : List String) {pos : Nat}, vs ≠ [] →
      s.drop pos = (",".intercalate (vs.map Render.sqlString)).toList →
      (stringLiteral.allFrom s pos).map (·.text s) = vs.map Render.sqlString
  | [], _, hne, _ => absurd rfl hne
  | [v], pos, _, hs => by
    have hlen := sqlString_length_pos v
    have hs' : s.drop pos = (Render.sqlString v).toList ++ [] := by simpa using hs
    have hend : pos + (Render.sqlString v).length = s.length := by
      have := congrArg List.length hs'
      simp only [List.length_drop, List.length_append, String.length_toList, List.length_nil,
        Nat.add_zero] at this
      omega
    have hslice := Match.slice_of_drop hs'
    rw [String.length_toList, String.ofList_toList] at hslice
    rw [allFrom_of_matchAt (by omega) (matchAt_stringLiteral v hs' (by simp))
      (by rw [Match.resume_of_nonempty _ hlen]; omega) (by rw [Match.resume_of_nonempty _ hlen]; omega),
      Match.resume_of_nonempty _ hlen, allFrom_end hend (matchAt_stringLiteral_eq_none (by
        rw [List.drop_eq_nil_of_le (by omega)]
        simp))]
    simp only [List.map_cons, List.map_nil, Match.text, hslice]
  | v :: w :: vs, pos, _, hs => by
    have hlen := sqlString_length_pos v
    have hwlen := sqlString_length_pos w
    set rest := (",".intercalate ((w :: vs).map Render.sqlString)).toList with hrest
    have hs' : s.drop pos = (Render.sqlString v).toList ++ ',' :: rest := by
      rw [hs, intercalate_sqlString_cons]
      simp [Render.finalComma, hrest]
    have hdc : s.drop (pos + (Render.sqlString v).length) = ',' :: rest := by
      rw [← List.drop_drop, hs', ← String.length_toList, List.drop_left]
    have hdw : s.drop (pos + (Render.sqlString v).length + 1) =
        (",".intercalate ((w :: vs).map Render.sqlString)).toList := by
      rw [← List.drop_drop, hdc]
      rfl
    have hdw' : s.drop (pos + (Render.sqlString v).length + 1) =
        (Render.sqlString w).toList ++
          (Render.finalComma (!vs.isEmpty) ++ ",".intercalate (vs.map Render.sqlString)).toList := by
      rw [hdw, intercalate_sqlString_cons, String.append_assoc, String.toList_append]
    have hcomma : (Render.finalComma (!vs.isEmpty) ++
        ",".intercalate (vs.map Render.sqlString)).toList.head? ≠ some '\'' := by
      cases vs <;> simp [Render.finalComma]
    have hwlenle := congrArg List.length hdw'
    simp only [List.length_drop, List.length_append, String.length_toList] at hwlenle
    have hslice := Match.slice_of_drop hs'
    rw [String.length_toList, String.ofList_toList] at hslice
    -- the first string, nothing at the comma after it, and the rest from the next string on
    rw [allFrom_of_matchAt (by omega) (matchAt_stringLiteral v hs' (by simp))
        (by rw [Match.resume_of_nonempty _ hlen]; omega) (by rw [Match.resume_of_nonempty _ hlen]; omega),
      Match.resume_of_nonempty _ hlen,
      allFrom_of_matchAt_none (by omega) (matchAt_stringLiteral_eq_none (by simp [hdc]))
        (fun m' hm' => by
          rw [leftmostFrom_eq (by omega), matchAt_stringLiteral w hdw' hcomma] at hm'
          cases hm'
          rw [Match.resume_of_nonempty _ hwlen]
          omega),
      List.map_cons, allFrom_stringLiteral (w :: vs) (List.cons_ne_nil w vs) hdw]
    simp only [Match.text, hslice, List.map_cons]

/-- Quoted strings joined by commas end with a quote. -/
theorem getLast?_intercalate_sqlString :
    ∀ (vs : List String), vs ≠ [] →
      (",".intercalate (vs.map Render.sqlString)).toList.getLast? = some '\''
  | [], hne => absurd rfl hne
  | [v], _ => by
    rw [List.map_singleton, String.intercalate_singleton, sqlString_toList, ← List.cons_append,
      List.getLast?_concat]
  | v :: w :: vs, _ => by
    rw [intercalate_sqlString_cons, String.toList_append, List.getLast?_append,
      getLast?_intercalate_sqlString (w :: vs) (List.cons_ne_nil w vs)]
    rfl

end Grammar

namespace TypeArgsText

/-- A number of a written argument list as it is read: itself, or nothing where it is wider
than 64 bits. -/
def numeral (k : Nat) : List TypeArg := if k ≤ Text.wordMax then [.num k] else []

/-- The arguments that a written list gives, the values unquoted or with their quotes. -/
def values (unquoted : Bool) : TypeArgsText → List TypeArg
  | .none => []
  | .one k => numeral k
  | .two k m => numeral k ++ numeral m
  | .strings vs => vs.map fun v => .text (if unquoted then v else Render.sqlString v)

end TypeArgsText

namespace Reader

open Grammar

/-- Matches that agree have the same texts. -/
theorem map_text_of_agrees {ms ms' : List Match} (h : List.Forall₂ Match.Agrees ms ms')
    (s : List Char) : ms.map (·.text s) = ms'.map (·.text s) := by
  induction h with
  | nil => rfl
  | cons hm _ ih =>
    rw [List.map_cons, List.map_cons, ih]
    simp only [Match.text, hm.1, hm.2.1]

/-- The arguments read from a text that does not start with a quote: its numbers. -/
theorem typeArgs_numbers {a : String} (hne : a.toList ≠ []) (hq : a.toList.head? ≠ some '\'') :
    typeArgs (some a) =
      ((digits.allFrom a.toList 0).map (·.text a.toList)).filterMap
        fun t => (Text.readWord t).map .num := by
  have hsearch : digits.Progressive ∧ digits.groupNames.Nodup := by decide
  have hcond : (2 ≤ a.toList.length && a.toList.head? = some '\'' &&
      a.toList.getLast? = some '\'') = false := by simp [hq]
  unfold typeArgs
  simp only [List.isEmpty_iff, hne, if_false, hcond, Bool.false_eq_true]
  rw [← map_text_of_agrees (Program.findAll_agrees hsearch.1 hsearch.2 a.toList), List.filterMap_map]
  rfl

/-- The arguments read from quoted strings joined by commas: the strings, quotes kept. -/
theorem typeArgs_strings {vs : List String} (hne : vs ≠ []) :
    typeArgs (some (",".intercalate (vs.map Render.sqlString))) =
      vs.map fun v => .text (Render.sqlString v) := by
  have hsearch : stringLiteral.Progressive ∧ stringLiteral.groupNames.Nodup := by decide
  obtain ⟨v, vs', rfl⟩ := List.exists_cons_of_ne_nil hne
  set a := ",".intercalate ((v :: vs').map Render.sqlString) with ha
  have hsplit : a.toList = '\'' :: (escapedName '\'' v ++ '\'' ::
      (Render.finalComma (!vs'.isEmpty) ++ ",".intercalate (vs'.map Render.sqlString)).toList) := by
    rw [ha, intercalate_sqlString_cons, String.append_assoc, String.toList_append, sqlString_toList]
    simp
  have hcond : (2 ≤ a.toList.length && a.toList.head? = some '\'' &&
      a.toList.getLast? = some '\'') = true := by
    have hlast := getLast?_intercalate_sqlString (v :: vs') hne
    rw [← ha] at hlast
    have hlen : 2 ≤ a.toList.length := by
      rw [hsplit]
      simp only [List.length_cons, List.length_append]
      omega
    have hhead : a.toList.head? = some '\'' := by rw [hsplit]; rfl
    simp [hlen, hhead, hlast]
  have hne' : a.toList ≠ [] := by simp [hsplit]
  unfold typeArgs
  simp only [List.isEmpty_iff, hne', if_false, hcond, if_true]
  rw [show (fun m : Match => TypeArg.text (m.text a.toList)) =
      TypeArg.text ∘ (·.text a.toList) from rfl, ← List.map_map,
    map_text_of_agrees (Program.findAll_agrees hsearch.1 hsearch.2 a.toList),
    allFrom_stringLiteral (v :: vs') hne (List.drop_zero),
    List.map_map]
  rfl

/-- A value written as a SQL string is unquoted back to itself. -/
theorem unquoteValue_sqlString (v : String) : unquoteValue (Render.sqlString v) = v := by
  have hlast : (escapedName '\'' v ++ ['\'']).getLast? = some '\'' := by simp
  conv_rhs => rw [← unquoteComment_sqlString v]
  simp only [unquoteValue, unquoteComment, sqlString_toList, hlast, true_or, if_true]

end Reader

namespace TypeArgsText

/-- The inside of a written argument list reads back as its arguments. -/
theorem typeArgs_inner (a : TypeArgsText) (ha : a ≠ .strings []) :
    Reader.typeArgs a.inner = a.values false := by
  have hdigit : ∀ k : Nat, (toString k).toList.head? ≠ some '\'' := fun k h =>
    absurd (Grammar.admits_digit_toString k _ (List.mem_of_head? h))
      (by rw [Grammar.admits_digit_grammar (by decide)]; decide)
  have hnumeral : ∀ k : Nat, [toString k].filterMap (fun t => (Text.readWord t).map .num) =
      numeral k := by
    intro k
    rw [List.filterMap_cons, List.filterMap_nil, Text.readWord_toString_eq]
    by_cases hk : k ≤ Text.wordMax <;> simp [hk, numeral]
  cases a with
  | none => rfl
  | one k =>
    rw [inner, Reader.typeArgs_numbers (Grammar.toString_toList_ne_nil k) (hdigit k),
      Grammar.allFrom_digits_number, hnumeral, values]
  | two k m =>
    have hne : (toString k ++ "," ++ toString m).toList ≠ [] := by
      simp
    have hq : (toString k ++ "," ++ toString m).toList.head? ≠ some '\'' := by
      rw [String.toList_append, String.toList_append, List.append_assoc,
        List.head?_append_of_ne_nil _ (Grammar.toString_toList_ne_nil k)]
      exact hdigit k
    rw [inner, Reader.typeArgs_numbers hne hq, Grammar.allFrom_digits_pair,
      show [toString k, toString m] = [toString k] ++ [toString m] from rfl, List.filterMap_append,
      hnumeral, hnumeral, values]
  | strings vs =>
    have hne : vs ≠ [] := fun h => ha (h ▸ rfl)
    rw [inner, Reader.typeArgs_strings hne, values]
    rfl

/-- The type read from a written argument list: the precision of a temporal type taken from its
first number, and the values of an enumeration or a set unquoted. -/
theorem splitPrecision_typeArgs_inner (kind : TypeKind) (a : TypeArgsText)
    (ha : a ≠ .strings []) :
    (Reader.splitPrecision kind (Reader.typeArgs a.inner)).1 =
        (Reader.splitPrecision kind (a.values kind.isEnumerated)).1 ∧
      (if kind.isEnumerated then
          (Reader.splitPrecision kind (Reader.typeArgs a.inner)).2.map Reader.unquoteArg
        else (Reader.splitPrecision kind (Reader.typeArgs a.inner)).2) =
        (Reader.splitPrecision kind (a.values kind.isEnumerated)).2 := by
  rw [typeArgs_inner a ha]
  cases hk : kind.isEnumerated with
  | false => simp
  | true =>
    -- enumerations and sets have no precision: their values are only unquoted
    have hfrac : kind.isFractionalTime = false := by
      cases kind <;> simp_all [TypeKind.isEnumerated, TypeKind.isFractionalTime]
    simp only [Reader.splitPrecision, hfrac, if_true, Bool.false_eq_true, if_false, true_and]
    cases a with
    | none => rfl
    | one k => by_cases h : k ≤ Text.wordMax <;> simp [values, numeral, h, Reader.unquoteArg]
    | two k m =>
      by_cases h : k ≤ Text.wordMax <;> by_cases h' : m ≤ Text.wordMax <;>
        simp [values, numeral, h, h', Reader.unquoteArg]
    | strings vs => simp [values, Reader.unquoteArg, Reader.unquoteValue_sqlString]

end TypeArgsText

end TableDdl

import TableDdl.Proofs.ForeignKeyLines
import TableDdl.Describe.Create

/-!
# Reading a statement written from DESCRIBE rows

`createStatement` writes a `CREATE TABLE` line with the quoted table name, one column line for
each row, every one but the last ending in a comma, and the closing line `) `. When no field
holds a line break, reading the statement cuts it into exactly these lines
(`definitionLines_createStatement`).

The first line names the table. Its grammar allows a kind word between `CREATE` and `TABLE`;
here the only word there is `TABLE` itself, which the optional kind can take only to find the
quoted name where it wants `TABLE`, so the line is read one way, and the name read is the quoted
one (`head?_ways_tableName`). The closing line holds no option (`scanOptions_close`). Every row's
line is a column line, so the statement reads as the table's name and then the row lines one
after another as columns (`parse_createStatement_eq`).
-/

namespace TableDdl

open Pattern Grammar

/-- A text without line breaks: neither a line feed nor a carriage return. -/
def NoLineBreak (s : String) : Prop := '\n' ∉ s.toList ∧ '\r' ∉ s.toList

instance : DecidablePred NoLineBreak := fun _ => inferInstanceAs (Decidable (_ ∧ _))

theorem NoLineBreak.append {a b : String} (ha : NoLineBreak a) (hb : NoLineBreak b) :
    NoLineBreak (a ++ b) :=
  ⟨by simp [ha.1, hb.1], by simp [ha.2, hb.2]⟩

/-- The first line of a statement written from DESCRIBE rows. -/
def createLine (q : Quoting) (table : String) : String :=
  "CREATE TABLE " ++ q.quote table ++ " ("

/-- The lines of column lines joined by commas and line feeds: each with its comma, the last
without. -/
def commaLines : List String → List String
  | [] => []
  | [l] => [l]
  | l :: l' :: ls => (l ++ ",") :: commaLines (l' :: ls)

namespace Reader

/-! ## The lines of the statement -/

/-- A text without line breaks is one line. -/
theorem definitionLines_of_noLineBreak {s : String} (h : NoLineBreak s) : definitionLines s = [s] := by
  have hlast : s.toList.getLast? ≠ some '\r' := fun hl => h.2 (List.mem_of_getLast? hl)
  simp only [definitionLines, Text.split, Text.splitChars_of_not_mem h.1, List.map_cons,
    List.map_nil]
  rw [Text.dropFinalReturn_of_getLast? hlast, String.ofList_toList]

/-- Lines without line breaks joined by commas and line feeds split back into themselves, each
with its comma but the last. -/
theorem definitionLines_intercalate :
    ∀ (ls : List String), ls ≠ [] → (∀ l ∈ ls, NoLineBreak l) →
      definitionLines (",\n".intercalate ls) = commaLines ls
  | [], h, _ => absurd rfl h
  | [l], _, hl => by
    rw [String.intercalate_singleton, commaLines, definitionLines_of_noLineBreak (hl l (by simp))]
  | l :: l' :: ls, _, hl => by
    have hsplit : ",\n".intercalate (l :: l' :: ls) =
        (l ++ ",") ++ "\n" ++ ",\n".intercalate (l' :: ls) := by
      rw [String.intercalate_cons_cons, show ",\n" = "," ++ "\n" from rfl]
      simp only [String.append_assoc]
    have hcomma : NoLineBreak (l ++ ",") := (hl l (by simp)).append ⟨by decide, by decide⟩
    rw [hsplit, definitionLines_append, definitionLines_of_noLineBreak hcomma,
      definitionLines_intercalate (l' :: ls) (by simp) fun x hx => hl x (List.mem_cons_of_mem l hx)]
    rfl

/-- The statement written from rows reads as its first line, the row lines each with its comma
but the last (an empty line when there is no row), and the closing line. -/
theorem definitionLines_createStatement (q : Quoting) (table : String) (rows : List DescribeRow)
    (ht : NoLineBreak (createLine q table)) (hrows : ∀ r ∈ rows, NoLineBreak (r.columnLine q)) :
    definitionLines (createStatement q table rows) =
      createLine q table :: ((if rows = [] then [""] else commaLines (rows.map (·.columnLine q))) ++
        [") "]) := by
  have hsplit : createStatement q table rows = createLine q table ++ "\n" ++
      ",\n".intercalate (rows.map (·.columnLine q)) ++ "\n" ++ ") " := by
    simp only [createStatement, createLine, String.append_assoc]
    rfl
  rw [hsplit, definitionLines_append, definitionLines_append, definitionLines_of_noLineBreak ht,
    definitionLines_of_noLineBreak (s := ") ") ⟨by decide, by decide⟩]
  cases rows with
  | nil => rfl
  | cons r rs =>
    rw [definitionLines_intercalate _ (by simp) (by simpa using hrows)]
    simp

/-! ## How each line is classified -/

/-- Words joined by spaces after a first space start with two spaces and the second word. -/
theorem prefix_intercalate_space (w : String) (l : List String) :
    ("  " ++ w).toList <+: (" ".intercalate (" " :: w :: l)).toList := by
  cases l with
  | nil => simp [String.intercalate_cons_cons]
  | cons x l =>
    rw [String.intercalate_cons_cons, String.intercalate_cons_cons]
    simp [String.append_assoc]

/-- A column line written from a row, with anything after it, is classified as a column line. -/
theorem classify_columnLine (r : Reader) (row : DescribeRow) (sfx : String) :
    r.classify (row.columnLine r.quoting ++ sfx) = .column := by
  -- the line starts with two spaces and the quoted name, whatever the other fields hold
  have hpre : ("  " ++ r.quoting.initial).toList <+: (row.columnLine r.quoting).toList := by
    rw [DescribeRow.columnLine, List.append_assoc, List.append_assoc, List.cons_append,
      List.cons_append]
    refine List.IsPrefix.trans ?_ (prefix_intercalate_space _ _)
    simp [Quoting.quote, String.append_assoc]
  rw [classify, if_pos]
  simpa [String.toList_append, List.isPrefixOf_iff_prefix] using hpre.trans (List.prefix_append _ _)

/-- The first line is classified as the line of the table's name. -/
theorem classify_createLine (r : Reader) (table : String) :
    r.classify (createLine r.quoting table) = .tableName := by
  have hne : r.quoting.initial.toList ≠ [] := fun h =>
    r.quoting.initial_ne (String.toList_eq_nil_iff.1 h)
  have hlist : (createLine r.quoting table).toList =
      "CREATE ".toList ++ "TABLE ".toList ++ (r.quoting.quote table).toList ++ " (".toList := by
    simp [createLine, String.append_assoc]
  have hne' : createLine r.quoting table ≠ ")" := fun h => by
    have := congrArg String.toList h
    rw [hlist] at this
    simp at this
  simp only [classify, hlist, List.isPrefixOf_iff_prefix, String.toList_append]
  simp [hne']

theorem classify_close (r : Reader) : r.classify ") " = .tableOptions := by
  simp [classify, List.isPrefixOf_iff_prefix, String.toList_append]

theorem classify_empty (r : Reader) : r.classify "" = .empty := by
  have hne : r.quoting.initial.toList ≠ [] := fun h =>
    r.quoting.initial_ne (String.toList_eq_nil_iff.1 h)
  simp [classify, String.toList_append]

/-! ## The closing line -/

/-- A step of the option scanner whose grammar has no leftmost-first match changes nothing. -/
theorem scanStep_of_leftmost_none {g : Pattern × (String → String)} {L : List Char}
    (hp : g.1.Progressive) (hn : g.1.groupNames.Nodup) (h : g.1.leftmost L = none)
    (opts : OptionMap) : scanStep (opts, L) g = (opts, L) := by
  have hrel := Program.find?_agrees hp hn L
  rw [h] at hrel
  cases hf : g.1.find? L with
  | none => exact scanStep_of_find?_none hf opts
  | some m => rw [hf] at hrel; cases hrel

/-- The closing line `) ` holds no option. -/
theorem scanOptions_close : scanOptions ") " = .empty := by
  have hsearch : optionGrammars.all (fun g => g.1.Progressive && decide g.1.groupNames.Nodup) =
      true := by
    decide +kernel
  have hnone : optionGrammars.all (fun g => (g.1.leftmost [')', ' ']).isNone) = true := by
    simp only [leftmost_eq_direct]
    decide +kernel
  -- no grammar finds anything, so the scan keeps the empty map
  have hfold : ∀ gs : List (Pattern × (String → String)), (∀ g ∈ gs, g ∈ optionGrammars) →
      gs.foldl scanStep (OptionMap.empty, [')', ' ']) = (OptionMap.empty, [')', ' ']) := by
    intro gs hgs
    induction gs with
    | nil => rfl
    | cons g gs ih =>
      have hg := hgs g List.mem_cons_self
      have hs := List.all_eq_true.1 hsearch g hg
      simp only [Bool.and_eq_true, decide_eq_true_eq] at hs
      rw [List.foldl_cons, scanStep_of_leftmost_none hs.1 hs.2
        (Option.isNone_iff_eq_none.1 (List.all_eq_true.1 hnone g hg)),
        ih fun g' hg' => hgs g' (List.mem_cons_of_mem g hg')]
  rw [scanOptions, if_neg (by decide), show ") ".toList = [')', ' '] from rfl,
    hfold optionGrammars fun _ h => h]
  rfl

/-- The closing line adds no option to the table. -/
theorem addOptions_close (r : Reader) (opts : OptionMap) : r.addOptions opts ") " = opts := by
  rw [addOptions, scanOptions_close]
  rfl

/-! ## The first line -/

/-- After `CREATE `, the optional kind word and its spaces can read only `TABLE` and one space,
where `TABLE` is not read again: the first line has no way through the kind word. -/
theorem ways_kindWord_eq_nil {i : Char} (hiT : i ∉ Unicode.foldOrbit 'T') (hi : i ≠ ' ') {n : Nat}
    {c : Cursor n} {r : List Char} (hc : c.rest = "TABLE ".toList ++ i :: r) (caps : Captures) :
    ((word ++ spaces).ways c caps).flatMap (fun w => (literal "TABLE").ways w.1 w.2) = [] := by
  refine List.flatMap_eq_nil_iff.2 fun w hw => ?_
  obtain ⟨v, hv, hw⟩ := mem_ways_append.1 hw
  obtain ⟨u, ⟨-, hu⟩, hcu⟩ := reads_word.sound c caps v hv
  obtain ⟨sp, ⟨hsne, hsp⟩, hvw⟩ := reads_spaces.sound v.1 v.2 w hw
  obtain ⟨x, sp', rfl⟩ := List.exists_cons_of_ne_nil hsne
  have hx : x = ' ' := hsp x List.mem_cons_self
  subst hx
  -- the word ends at the first space, the one after `TABLE`
  have hsplit : u ++ ' ' :: (sp' ++ w.1.rest) = "TABLE".toList ++ ' ' :: i :: r := by
    rw [show "TABLE".toList ++ ' ' :: i :: r = "TABLE ".toList ++ i :: r from rfl, ← hc, hcu, hvw]
    rfl
  have hu' : ' ' ∉ u := fun h => by simpa [Unicode.word_space] using hu ' ' h
  obtain ⟨-, hrest⟩ := eq_of_append_cons hu' (by decide) hsplit
  -- the spaces stop before the initial quote
  have hsp' : sp' = [] := by
    cases sp' with
    | nil => rfl
    | cons y sp'' =>
      have hy : y = ' ' := hsp y (by simp)
      simp only [List.cons_append, List.cons.injEq] at hrest
      exact absurd (hy ▸ hrest.1) (Ne.symm hi)
  subst hsp'
  rw [List.nil_append] at hrest
  rw [ways_literal, hrest]
  simp [hiT]

section OneChar

variable {q : Quoting} {i f : Char} (hq : q.OneChar i f)
include hq

/-- The first line of a statement written with a nonempty table name is read one way, up to its
end, with the name's escaped body recorded after `CREATE TABLE ` and the initial quote. -/
theorem head?_ways_tableName (hiT : i ∉ Unicode.foldOrbit 'T') (hi : i ≠ ' ') {table : String}
    (hn : table ≠ "") :
    ((tableName q).ways (Cursor.start (createLine q table).toList) []).head? =
      some ((Cursor.start (createLine q table).toList).skip (createLine q table).toList.length,
        [("name", 14, 14 + (escapedName f table).length)]) := by
  set s := (createLine q table).toList with hs
  have hq' : (q.quote table).toList = i :: escapedName f table ++ [f] := quote_toList hq table
  have hs' : s = "CREATE ".toList ++ ("TABLE ".toList ++ (q.quote table).toList ++ [' ', '(']) := by
    simp [hs, createLine, String.append_assoc]
  have hslen : s.length = 13 + (escapedName f table).length + 4 := by
    rw [hs', hq']
    simp
    omega
  -- `CREATE `, one way
  have h₁ : (Pattern.atStart ++ literal "CREATE ").ways (Cursor.start s) [] =
      [((Cursor.start s).skip 7, [])] := by
    rw [ways_append]
    simp only [ways, Cursor.pos_start, if_true, List.flatMap_cons, List.flatMap_nil,
      List.append_nil]
    rw [ways_literal_self (by decide +kernel) (by rw [Cursor.rest_start, hs']) []]
    rfl
  have hrest₁ : ((Cursor.start s).skip 7).rest = "TABLE ".toList ++ i :: (escapedName f table ++
      [f, ' ', '(']) := by
    rw [Cursor.rest_skip, Cursor.rest_start, hs', hq']
    simp
  -- the kind word leads nowhere, so `TABLE` is read right after `CREATE `
  have h₂ : (Pattern.atStart ++ literal "CREATE " ++ opt (word ++ spaces) ++ literal "TABLE").ways
      (Cursor.start s) [] = [(((Cursor.start s).skip 7).skip 5, [])] := by
    rw [ways_append, ways_append, h₁, List.flatMap_cons, List.flatMap_nil, List.append_nil,
      ways_opt, List.flatMap_append, ways_kindWord_eq_nil hiT hi hrest₁, List.nil_append]
    simp only [List.flatMap_cons, List.flatMap_nil, List.append_nil]
    rw [ways_literal_self (by decide +kernel) (r := ' ' :: i :: (escapedName f table ++ [f, ' ', '(']))
      (by rw [hrest₁]; rfl)]
    rfl
  have hrest₂ : (((Cursor.start s).skip 7).skip 5).rest = ' ' :: (q.quote table).toList ++ [' ', '('] := by
    rw [Cursor.rest_skip, hrest₁, hq']
    simp
  -- one space, the quoted name and its space, the parenthesis and the end
  have h₃ := spaces_oneWay (t := (q.quote table).toList ++ [' ', '(']) (by simp [hq', hi])
    (by rw [hrest₂]; simp) []
  have hpos : ((((Cursor.start s).skip 7).skip 5).skip 1).pos = 13 := by
    simp [Cursor.skip_skip, hslen]
    omega
  obtain ⟨c, hcr, h₄⟩ := identifierSpaces_oneWay hq (c := (((Cursor.start s).skip 7).skip 5).skip 1)
    [] hn (t := ['(']) (by simp) (by rw [Cursor.rest_skip, hrest₂]; simp)
  rw [hpos] at h₄
  have h₅ : (literal "(").OneWay c [("name", 14, 14 + (escapedName f table).length)]
      (c.skip 1, [("name", 14, 14 + (escapedName f table).length)]) :=
    OneWay.of_ways_eq (ways_literal_self (Unicode.foldPrefix_grammarWord (by decide)) (r := [])
      (by rw [hcr]; rfl) _)
  have h₆ : Pattern.atEnd.OneWay (c.skip 1) [("name", 14, 14 + (escapedName f table).length)]
      (c.skip 1, [("name", 14, 14 + (escapedName f table).length)]) :=
    OneWay.of_ways_eq (by simp [Cursor.rest_skip, hcr])
  have hend : c.skip 1 = (Cursor.start s).skip s.length := by
    refine Cursor.ext_rest ?_
    simp [Cursor.rest_skip, hcr]
  have hall := ((((OneWay.of_ways_eq h₂).seq h₃).seq h₄).assoc.seq h₅).seq h₆
  rw [hend] at hall
  exact hall.head?

end OneChar

/-- The grammar of the first line of the backtick and ANSI conventions can be searched by its
compiled program. -/
theorem tableName_searchable {q : Quoting} (hq : q = .backtick ∨ q = .ansi) :
    (tableName q).Progressive ∧ (tableName q).groupNames.Nodup := by
  rcases hq with rfl | rfl <;> decide

/-- For the backtick and ANSI conventions, the first line names the table. -/
theorem readLine_createLine (r : Reader) (hq : r.quoting = .backtick ∨ r.quoting = .ansi)
    {table : String} (hn : table ≠ "") (t : Table) (ws : List Warning) :
    r.readLine (LineGrammars.of r.quoting) (t, ws) (createLine r.quoting table) =
      ({ t with name := some table }, ws) := by
  obtain ⟨i, hqi, hiT, hi⟩ : ∃ i, r.quoting.OneChar i i ∧ i ∉ Unicode.foldOrbit 'T' ∧ i ≠ ' ' := by
    rcases hq with h | h <;> rw [h]
    · exact ⟨_, Quoting.oneChar_backtick,
        Unicode.not_mem_foldOrbit_grammar (by decide) (by decide) (by decide), by decide⟩
    · exact ⟨_, Quoting.oneChar_ansi,
        Unicode.not_mem_foldOrbit_grammar (by decide) (by decide) (by decide), by decide⟩
  set s := (createLine r.quoting table).toList with hs
  have hanchored : Anchored (tableName r.quoting) := by
    unfold tableName
    repeat apply Anchored.seq
    exact anchored_atStart
  have hleft : (tableName r.quoting).leftmost s =
      some ⟨0, ((Cursor.start s).skip s.length).pos,
        [("name", 14, 14 + (escapedName i table).length)]⟩ := by
    rw [leftmost_of_anchored hanchored, hs, head?_ways_tableName hqi hiT hi hn]
    rfl
  -- the name's body stands right after `CREATE TABLE ` and the initial quote
  have hname : (⟨0, ((Cursor.start s).skip s.length).pos,
      [("name", 14, 14 + (escapedName i table).length)]⟩ : Match).group? s "name" =
      some (String.ofList (escapedName i table)) := by
    have hdrop : s.drop 14 = escapedName i table ++ [i, ' ', '('] := by
      rw [hs, createLine, String.toList_append, String.toList_append, quote_toList hqi]
      simp
    have hslice := Match.slice_of_drop (a := 14) (u := escapedName i table) hdrop
    simp [Match.group?, Match.span?, hslice]
  have hsearch := tableName_searchable hq
  have hrel := Program.find?_agrees hsearch.1 hsearch.2 s
  rw [hleft] at hrel
  rw [readLine, classify_createLine]
  dsimp only
  cases hf : (LineGrammars.of r.quoting).tableName.find? s with
  | none =>
    change (tableName r.quoting).find? s = none at hf
    rw [hf] at hrel
    cases hrel
  | some m =>
    change (tableName r.quoting).find? s = some m at hf
    rw [hf] at hrel
    cases hrel with
    | some hm =>
      have hg : m.group? (createLine r.quoting table).toList "name" =
          some (String.ofList (escapedName i table)) := (hm.group? s "name").trans hname
      simp only [hg, Option.getD_some, unescape_escapedName hqi]

/-- A name without line breaks, quoted with one-character quotes that are no line breaks, has no
line break. -/
theorem noLineBreak_quote {q : Quoting} {i f : Char} (hq : q.OneChar i f) (hi : i ≠ '\n' ∧ i ≠ '\r')
    (hf : f ≠ '\n' ∧ f ≠ '\r') {name : String} (h : NoLineBreak name) :
    NoLineBreak (q.quote name) := by
  have hmem : ∀ x, x ≠ i → x ≠ f → x ∉ name.toList → x ∉ (q.quote name).toList := by
    intro x hxi hxf hxn hx
    rw [quote_toList hq] at hx
    simp only [List.cons_append, List.mem_cons, List.mem_append, List.not_mem_nil, or_false] at hx
    rcases hx with hx | hx | hx
    · exact hxi hx
    · exact (mem_escapedName hx).elim hxf hxn
    · exact hxf hx
  exact ⟨hmem _ (Ne.symm hi.1) (Ne.symm hf.1) h.1, hmem _ (Ne.symm hi.2) (Ne.symm hf.2) h.2⟩

/-! ## The whole statement -/

/-- Reading column lines one after another appends their columns and their warnings. -/
theorem foldl_readLine_columns (r : Reader) (g : LineGrammars) :
    ∀ (ls : List String), (∀ l ∈ ls, r.classify l = .column) → ∀ (t : Table) (ws : List Warning),
      ls.foldl (r.readLine g) (t, ws) =
        ({ t with columns := t.columns ++
            (ls.map (readColumn g r.quoting r.registry)).flatMap (·.1.toList) },
          ws ++ (ls.map (readColumn g r.quoting r.registry)).flatMap (·.2))
  | [], _, t, ws => by simp
  | l :: ls, hls, t, ws => by
    rw [List.foldl_cons, readLine, hls l List.mem_cons_self]
    dsimp only
    rw [foldl_readLine_columns r g ls (fun l' hl' => hls l' (List.mem_cons_of_mem l hl'))]
    simp [List.append_assoc]

/-- The lines of rows joined by commas are column lines. -/
theorem classify_commaLines (r : Reader) :
    ∀ (rows : List DescribeRow), ∀ l ∈ commaLines (rows.map (·.columnLine r.quoting)),
      r.classify l = .column
  | [], l, hl => by simp [commaLines] at hl
  | [row], l, hl => by
    simp only [List.map_cons, List.map_nil, commaLines, List.mem_singleton] at hl
    subst hl
    simpa using classify_columnLine r row ""
  | row :: row' :: rows, l, hl => by
    simp only [List.map_cons, commaLines, List.mem_cons] at hl
    rcases hl with rfl | hl
    · exact classify_columnLine r row ","
    · exact classify_commaLines r (row' :: rows) l (by simpa using hl)

/-- For the backtick and ANSI conventions, a statement written from rows without line breaks in
their lines reads as the table's name and, in order, the columns and warnings of reading the row
lines, each with its comma but the last. -/
theorem parse_createStatement_eq (r : Reader) (hq : r.quoting = .backtick ∨ r.quoting = .ansi)
    {table : String} (hn : table ≠ "") (ht : NoLineBreak table) (rows : List DescribeRow)
    (hrows : ∀ row ∈ rows, NoLineBreak (row.columnLine r.quoting)) (cs : String) :
    r.parse (createStatement r.quoting table rows) cs [] =
      ({ Table.empty cs with
          name := some table
          columns := ((commaLines (rows.map (·.columnLine r.quoting))).map
            (readColumn (LineGrammars.of r.quoting) r.quoting r.registry)).flatMap (·.1.toList) },
        ((commaLines (rows.map (·.columnLine r.quoting))).map
          (readColumn (LineGrammars.of r.quoting) r.quoting r.registry)).flatMap (·.2)) := by
  obtain ⟨i, hqi, hi⟩ : ∃ i, r.quoting.OneChar i i ∧ i ≠ '\n' ∧ i ≠ '\r' := by
    rcases hq with h | h <;> rw [h]
    · exact ⟨_, Quoting.oneChar_backtick, by decide, by decide⟩
    · exact ⟨_, Quoting.oneChar_ansi, by decide, by decide⟩
  have hline : NoLineBreak (createLine r.quoting table) :=
    (NoLineBreak.append (a := "CREATE TABLE ") ⟨by decide, by decide⟩
      (noLineBreak_quote hqi hi hi ht)).append ⟨by decide, by decide⟩
  rw [parse, definitionLines_createStatement _ _ _ hline hrows, List.foldl_cons,
    readLine_createLine r hq hn, List.foldl_append]
  split
  · subst_vars
    simp [readLine, classify_empty, classify_close, addOptions_close, commaLines, Table.empty]
  · rw [foldl_readLine_columns r _ _ (classify_commaLines r rows)]
    simp [readLine, classify_close, addOptions_close, Table.empty]

end Reader

end TableDdl

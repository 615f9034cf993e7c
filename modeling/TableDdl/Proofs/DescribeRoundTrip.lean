import TableDdl.Proofs.DescribeColumns

/-!
# Statements written from DESCRIBE rows, read back

Under the backtick and ANSI conventions, the statement written from the rows of readable columns
is read back into those columns (`DescribeColumn.parse_createStatement`). Each column line is
matched first by the full column grammar over the whole line (`DescribeColumn.leftmost_line`):
the head up to the type word, then the clauses of the tail one by one. The groups of that match
give back the parts of the row (`DescribeColumn.tail_groups`), from which the column is built
(`DescribeColumn.readColumn_line`). The statement's column lines are the rows' lines, each but
the last with its comma, and are read one after another.

The column read back is the one the row describes as the reader sees it (`DescribeColumn.column`):
a default `NULL` is no default, an extra text that is the `AUTO_INCREMENT` flag is the flag, and
an extra text that runs on with a bare default is read as part of that default.

The rows covered are those of `DescribeColumn`s, whose numeric type arguments are numbers written
in canonical form; a DESCRIBE type with a non-canonical numeral, such as `int(011)`, is outside
the theorem.
-/

namespace TableDdl

open Render Grammar Pattern Unicode

namespace DescribeColumn

/-- The written tail starts with the argument list, a space, a comma or nothing: never a word
character. -/
theorem tail_head (c : DescribeColumn) (b : Bool) :
    ∀ x ∈ (c.tailText ++ finalComma b).toList.head?, Unicode.word.contains x = false := by
  have hhead :
      ∀ x ∈ (c.tailText ++ finalComma b).toList.head?, x = '(' ∨ x = ' ' ∨ x = ',' := by
    intro x hx
    simp only [tailText, String.toList_append, List.append_assoc] at hx
    cases ha : c.args with
    | none =>
      rw [ha] at hx
      simp only [TypeArgsText.text, String.toList_empty, List.nil_append] at hx
      rcases tokenEnd_afterArgs (c := c) b with h | h | h <;> rw [h] at hx <;> simp at hx <;>
        subst hx <;> simp
    | one k => rw [ha] at hx; simp [TypeArgsText.text] at hx; subst hx; simp
    | two k m => rw [ha] at hx; simp [TypeArgsText.text] at hx; subst hx; simp
    | strings vs => rw [ha] at hx; simp [TypeArgsText.text] at hx; subst hx; simp
  intro x hx
  have hpunct : x ∈ punctuation := by
    rcases hhead x hx with rfl | rfl | rfl <;> simp [punctuation]
  rw [word_grammar (List.mem_append_right _ hpunct)]
  simpa using hpunct

/-- After a text that the subject goes on with from `p`, the subject goes on with the rest. -/
theorem drop_add_length {s t : List Char} {p : Nat} {x : String} (h : s.drop p = x.toList ++ t) :
    s.drop (p + x.length) = t := by
  rw [← List.drop_drop, h, ← String.length_toList, List.drop_left]

/-- A flag is written as its word after one space. -/
theorem flagText_eq (b : Bool) (w : String) :
    flagText b w = optionalPart " " (if b then some w else none) := by
  cases b <;> rfl

/-- The groups of the clauses after the type word read back the argument list, the flags,
`NOT NULL`, the default, the `AUTO_INCREMENT` flag and the free extra text with the comma after
it. -/
theorem tail_groups (c : DescribeColumn) (b : Bool) {s : List Char} {p : Nat}
    (hs : s.drop p = (c.tailText ++ finalComma b).toList) {m : Match} {r : Captures}
    (hrest : ∀ g ∈ ["extra", "autoincr", "default", "notnull", "zerofill", "unsigned", "arg"],
      r.find? (·.1 == g) = none)
    (hm : m.captures = c.tailCaptures b p ++ r) :
    m.group? s "arg" = c.args.inner ∧
      m.group? s "unsigned" = (if c.unsigned then some "unsigned" else none) ∧
      m.group? s "zerofill" = (if c.zerofill then some "zerofill" else none) ∧
      m.group? s "notnull" = (if !c.nullable then some "NOT NULL" else none) ∧
      m.group? s "default" = c.defaultRead ∧
      m.group? s "autoincr" = c.autoText ∧
      m.group? s "extra" = c.extraRead.map (· ++ finalComma b) := by
  have hs₀ : s.drop p = c.args.text.toList ++ ((flagText c.unsigned "unsigned").toList ++
      ((flagText c.zerofill "zerofill").toList ++ ((flagText (!c.nullable) "NOT NULL").toList ++
        ((optionalPart " DEFAULT " c.defaultRead).toList ++ ((optionalPart " " c.autoText).toList ++
          ((optionalPart " " c.extraRead).toList ++ (finalComma b).toList)))))) := by
    rw [hs]
    simp only [tailText, String.toList_append, List.append_assoc]
  -- where each clause starts
  have hs₁ := drop_add_length hs₀
  have hs₂ := drop_add_length hs₁
  have hs₃ := drop_add_length hs₂
  have hs₄ := drop_add_length hs₃
  have hs₅ := drop_add_length hs₄
  have hs₆ := drop_add_length hs₅
  -- each clause records its own group only
  have hfind : ∀ g ∈ ["extra", "autoincr", "default", "notnull", "zerofill", "unsigned", "arg"],
      m.captures.find? (·.1 == g) = (c.tailCaptures b p).find? (·.1 == g) := by
    intro g hg
    rw [hm, List.find?_append, hrest g hg, Option.or_none]
  have hD : " DEFAULT ".length = "DEFAULT".length + 2 := by simp [← String.length_toList]
  -- each group starts after the parts before its clause and its clause's lead
  refine ⟨group?_eq_of_find? (p := p + 1) ?_ ?_,
    group?_eq_of_find? (p := p + c.args.text.length + 1) ?_ ?_,
    group?_eq_of_find? (p := p + c.args.text.length + (flagText c.unsigned "unsigned").length + 1)
      ?_ ?_,
    group?_eq_of_find? (p := p + c.args.text.length + (flagText c.unsigned "unsigned").length +
      (flagText c.zerofill "zerofill").length + 1) ?_ ?_,
    group?_eq_of_find? (p := p + c.args.text.length + (flagText c.unsigned "unsigned").length +
      (flagText c.zerofill "zerofill").length + (flagText (!c.nullable) "NOT NULL").length +
      " DEFAULT ".length) ?_ ?_,
    group?_eq_of_find? (p := p + c.args.text.length + (flagText c.unsigned "unsigned").length +
      (flagText c.zerofill "zerofill").length + (flagText (!c.nullable) "NOT NULL").length +
      (optionalPart " DEFAULT " c.defaultRead).length + 1) ?_ ?_,
    group?_eq_of_find? (p := p + c.args.text.length + (flagText c.unsigned "unsigned").length +
      (flagText c.zerofill "zerofill").length + (flagText (!c.nullable) "NOT NULL").length +
      (optionalPart " DEFAULT " c.defaultRead).length + (optionalPart " " c.autoText).length + 1)
      ?_ ?_⟩
  · rw [hfind _ (by simp)]
    simp [tailCaptures]
  · rintro x hx
    rw [TypeArgsText.text_eq, Option.mem_def.1 hx] at hs₀
    have h := drop_optionalPart_some (l := "(") (x := x ++ ")") (by rw [hs₀]; rfl)
    rw [show "(".length = 1 by simp [← String.length_toList], String.toList_append, List.append_assoc] at h
    exact ⟨_, h⟩
  · rw [hfind _ (by simp)]
    simp [tailCaptures]
  · rintro x hx
    cases hu : c.unsigned <;> rw [hu] at hx <;> cases hx
    rw [hu, flagText_eq] at hs₁
    exact ⟨_, drop_optionalPart_some (l := " ") (x := "unsigned") (by rw [hs₁]; rfl)⟩
  · rw [hfind _ (by simp)]
    simp [tailCaptures]
  · rintro x hx
    cases hz : c.zerofill <;> rw [hz] at hx <;> cases hx
    rw [hz, flagText_eq true "zerofill"] at hs₂
    exact ⟨_, drop_optionalPart_some (l := " ") (x := "zerofill") (by rw [hs₂]; rfl)⟩
  · rw [hfind _ (by simp)]
    simp [tailCaptures]
  · rintro x hx
    cases hn : !c.nullable <;> rw [hn] at hx <;> cases hx
    rw [hn, flagText_eq true "NOT NULL"] at hs₃
    exact ⟨_, drop_optionalPart_some (l := " ") (x := "NOT NULL") (by rw [hs₃]; rfl)⟩
  · rw [hfind _ (by simp)]
    simp [tailCaptures, hD]
  · rintro x hx
    rw [Option.mem_def.1 hx] at hs₄
    exact ⟨_, drop_optionalPart_some hs₄⟩
  · rw [hfind _ (by simp)]
    simp [tailCaptures]
  · rintro x hx
    rw [Option.mem_def.1 hx] at hs₅
    exact ⟨_, drop_optionalPart_some hs₅⟩
  · rw [hfind _ (by simp)]
    simp [tailCaptures]
  · rintro x hx
    obtain ⟨e, he, rfl⟩ := Option.mem_map.1 hx
    rw [Option.mem_def.1 he] at hs₆
    refine ⟨[], ?_⟩
    rw [String.toList_append, List.append_nil]
    exact drop_optionalPart_some hs₆

/-- The groups that the clauses after the type word record are theirs only. -/
theorem tailCaptures_names (c : DescribeColumn) (b : Bool) (p : Nat) :
    ∀ x ∈ c.tailCaptures b p,
      x.1 ∈ ["extra", "autoincr", "default", "notnull", "zerofill", "unsigned", "arg"] := by
  intro x hx
  simp only [tailCaptures, clauseCaptures, List.mem_append, Option.mem_toList,
    Option.map_eq_some_iff] at hx
  rcases hx with
    ((((((⟨_, -, rfl⟩ | ⟨_, -, rfl⟩) | ⟨_, -, rfl⟩) | ⟨_, -, rfl⟩) | ⟨_, -, rfl⟩) |
    ⟨_, -, rfl⟩) | ⟨_, -, rfl⟩) <;> simp

/-- A group that no capture names is absent. -/
theorem group?_eq_none {m : Match} {s : List Char} {g : String}
    (h : ∀ x ∈ m.captures, x.1 ≠ g) :
    m.group? s g = none := by
  simp only [Match.group?, Match.span?, Option.map_eq_none_iff, List.find?_eq_none, beq_iff_eq]
  exact h

/-- The free text read back without the final comma of its line. -/
theorem dropFinalCommas_finalComma (e : String) (b : Bool) :
    Reader.dropFinalCommas (e ++ finalComma b) = Reader.dropFinalCommas e := by
  cases b <;> simp [Reader.dropFinalCommas, finalComma]

/-- A text whose first character is no `n` in any case is not `NULL`. -/
theorem sameIgnoringAsciiCase_null {v : String} {x : Char} {r : List Char} (hv : v.toList = x :: r)
    (hx : x.toLower ≠ 'n') : Text.sameIgnoringAsciiCase v "NULL" = false := by
  have hN : "NULL".toList = 'N' :: "ULL".toList := by simp
  have hn : 'N'.toLower = 'n' := by decide
  simp [Text.sameIgnoringAsciiCase, hv, hN, hn, hx]

/-- The default read back is absent exactly where the row's default is `NULL`: a bare default
starts with `C` and a SQL string with a quote, neither of which is `N` in any case. -/
theorem defaultRead_filter (c : DescribeColumn) :
    c.defaultRead.filter (fun d => !Text.sameIgnoringAsciiCase d "NULL") =
      if c.defaultValue = some "NULL" then none else c.defaultRead := by
  cases hv : c.defaultRead with
  | none => simp
  | some v =>
    obtain ⟨d, w, hd, hdw, hvw⟩ := c.defaultRead_eq hv
    rw [hd]
    rcases writtenDefault_cases hdw with ⟨hb, hwd⟩ | ⟨hb, hdn, hwd⟩ | ⟨hb, hdn, hwd⟩
    · -- a bare default, and what runs on with it, starts with `C`
      obtain ⟨x, r, hx, hxC⟩ : ∃ x r, v.toList = x :: r ∧ (x = 'C' ∨ x = 'c') := by
        rw [hvw, hwd]
        rcases head?_of_bareDefault hb with h | h <;>
          obtain ⟨r, hr⟩ := List.head?_eq_some_iff.1 h <;>
          split <;> simp [hr]
      have hdn : d ≠ "NULL" := by
        rintro rfl
        rcases head?_of_bareDefault hb with h | h <;> simp at h
      rw [if_neg (by simpa using hdn), Option.filter_some,
        sameIgnoringAsciiCase_null hx (by rcases hxC with rfl | rfl <;> decide)]
      rfl
    · -- `NULL`, which no extra text joins
      have hj : c.joinsDefault = false := by simp [joinsDefault, hd, hb]
      have hsame : Text.sameIgnoringAsciiCase "NULL" "NULL" = true := by decide
      simp only [hvw, hwd, hdn, hj, Bool.false_eq_true, if_false, Option.filter_some, hsame,
        Bool.not_true]
      rfl
    · -- a SQL string, which starts with a quote
      have hj : c.joinsDefault = false := by simp [joinsDefault, hd, hb]
      rw [if_neg (by simpa using hdn), hvw, hj, if_neg Bool.false_ne_true, hwd, Option.filter_some,
        sameIgnoringAsciiCase_null (sqlString_toList d) (by decide)]
      rfl

section LineBreaks

/-! ## No line breaks

A written column line has no line break where no part of the row has one: the quotes, the fixed
words and the spaces are none, a SQL string adds only quotes, and a type word is of word
characters. -/

theorem NoLineBreak.of_forall {s : String} (h : ∀ x ∈ s.toList, x ≠ '\n' ∧ x ≠ '\r') :
    NoLineBreak s :=
  ⟨fun hn => (h _ hn).1 rfl, fun hr => (h _ hr).2 rfl⟩

theorem noLineBreak_sqlString {d : String} (h : NoLineBreak d) : NoLineBreak (sqlString d) := by
  refine NoLineBreak.of_forall fun x hx => ?_
  rw [sqlString_toList] at hx
  simp only [List.mem_cons, List.mem_append, List.not_mem_nil, or_false] at hx
  rcases hx with rfl | hx | rfl
  · decide
  · rcases mem_escapedName hx with rfl | hx
    · decide
    · exact ⟨fun h' => h.1 (h' ▸ hx), fun h' => h.2 (h' ▸ hx)⟩
  · decide

theorem noLineBreak_flagText (b : Bool) {w : String} (hw : NoLineBreak w) :
    NoLineBreak (flagText b w) := by
  cases b with
  | false => exact ⟨by simp [flagText], by simp [flagText]⟩
  | true => exact NoLineBreak.append ⟨by decide, by decide⟩ hw

theorem noLineBreak_optionalPart {lead : String} (hl : NoLineBreak lead) {a : Option String}
    (ha : ∀ v ∈ a, NoLineBreak v) : NoLineBreak (optionalPart lead a) := by
  cases a with
  | none => exact ⟨by simp [optionalPart], by simp [optionalPart]⟩
  | some v => exact hl.append (ha v rfl)

/-- A word of word characters has no line break. -/
theorem noLineBreak_of_word {w : String} (h : ∀ x ∈ w.toList, Unicode.word.contains x = true) :
    NoLineBreak w := by
  have hn : Unicode.word.contains '\n' = false := by
    rw [word_grammar (by decide)]
    decide
  have hr : Unicode.word.contains '\r' = false := by decide +kernel
  exact ⟨fun hx => absurd (h _ hx) (by rw [hn]; decide),
    fun hx => absurd (h _ hx) (by rw [hr]; decide)⟩

theorem noLineBreak_writtenDefault {colType d w : String} (h : NoLineBreak d)
    (hw : writtenDefault colType d = some w) : NoLineBreak w := by
  rcases writtenDefault_cases hw with ⟨-, rfl⟩ | ⟨-, -, rfl⟩ | ⟨-, -, rfl⟩
  · exact h
  · exact h
  · exact noLineBreak_sqlString h

/-- The written line of a readable column has no line break, under quotes that are none. -/
theorem noLineBreak_columnLine {q : Quoting} {i f : Char} (hq : q.OneChar i f)
    (hi : i ≠ '\n' ∧ i ≠ '\r') (hf : f ≠ '\n' ∧ f ≠ '\r') {c : DescribeColumn}
    (hc : c.Readable) :
    NoLineBreak (c.row.columnLine q) := by
  have hsp : NoLineBreak " " := ⟨by decide, by decide⟩
  have htype : NoLineBreak c.typeText :=
    (((noLineBreak_of_word hc.word_chars).append hc.args_line).append
      (noLineBreak_flagText _ ⟨by decide, by decide⟩)).append
      (noLineBreak_flagText _ ⟨by decide, by decide⟩)
  have hdefault : ∀ v ∈ c.defaultValue.bind (writtenDefault c.typeText), NoLineBreak v := by
    intro v hv
    obtain ⟨d, hd, hdv⟩ := Option.bind_eq_some_iff.1 hv
    exact noLineBreak_writtenDefault (hc.default_line d hd) hdv
  have hextra : ∀ e ∈ c.extra.filter (· ≠ ""), NoLineBreak e := fun e he =>
    hc.extra_line e (Option.eq_some_of_filter_eq_some he)
  have hname : NoLineBreak ("  " ++ q.quote c.name) :=
    NoLineBreak.append ⟨by decide, by decide⟩ (Reader.noLineBreak_quote hq hi hf hc.name_line)
  rw [DescribeRow.columnLine_eq]
  exact ((((hname.append hsp).append htype).append
    (noLineBreak_flagText _ ⟨by decide, by decide⟩)).append
      (noLineBreak_optionalPart ⟨by decide, by decide⟩ hdefault)).append
    (noLineBreak_optionalPart hsp hextra)

end LineBreaks

section Line

variable {q : Quoting} {i f : Char} (hq : q.OneChar i f) {c : DescribeColumn} (hc : c.Readable)

/-- The head of a column's written line, with its comma when `b`: the escaped name in quotes, one
space, the type word and the tail. -/
def lineHead (b : Bool) : ColumnHead q (c.row.columnLine q ++ finalComma b).toList where
  body := escapedName f c.name
  spaces := 1
  word := c.typeWord.toList
  rest := (c.tailText ++ finalComma b).toList
  body_mem := escapedName_mem hq c.name
  body_ne := escapedName_ne_nil f hc.name_ne
  spaces_pos := Nat.one_pos
  word_ne := by simpa using hc.word_ne
  word_chars := hc.word_chars
  rest_head := tail_head c b
  eq := by
    rw [columnLine_eq, hq.initial_eq, hq.final_eq]
    simp [quote_toList hq]

/-- The full column grammar matches a written column line first over the whole line: the head
records the name and the type word, and the tail its clauses' groups. -/
theorem leftmost_line (b : Bool) :
    (Grammar.column q).leftmost (c.row.columnLine q ++ finalComma b).toList =
      some ⟨0, (c.row.columnLine q ++ finalComma b).length,
        c.tailCaptures b ((lineHead hq hc b).typeStart + c.typeWord.length) ++
          (lineHead hq hc b).captures c.typeWord.length⟩ := by
  obtain ⟨w, hw, hrest, hcaps⟩ := typeHead_first hq (lineHead hq hc b)
  have htail := head?_ways_columnTail hc b hrest w.2
  -- the tail starts after the type word and runs to the end of the line
  have hpos : w.1.pos = (lineHead hq hc b).typeStart + c.typeWord.length := by
    have hs := (lineHead hq hc b).eq
    rw [← hrest] at hs
    rw [Cursor.pos_of_eq w.1 hs]
    simp only [lineHead, ColumnHead.typeStart, ColumnHead.nameStart, List.length_append,
      List.length_cons, List.length_nil, List.length_replicate, String.length_toList]
  have hstop : (w.1.skip (c.tailText ++ finalComma b).length).pos =
      (c.row.columnLine q ++ finalComma b).length := by
    rw [Cursor.pos_eq, Cursor.rest_skip, hrest,
      List.drop_eq_nil_of_le (by simp [lineHead, String.length_toList]),
      List.length_nil, Nat.sub_zero, String.length_toList]
  rw [leftmost_of_anchored (anchored_column q), column_ways, head?_ways_append_of_head? hw htail,
    Option.map_some, hstop, hpos, hcaps]
  rfl

/-- The groups of a written column line's match read back the row: the name and type word of
the head, the parts of the tail, and no other clause. -/
theorem columnOfMatch_line (reg : TypeRegistry) (b : Bool) :
    Reader.columnOfMatch q reg (c.row.columnLine q ++ finalComma b).toList
      ⟨0, (c.row.columnLine q ++ finalComma b).length,
        c.tailCaptures b ((lineHead hq hc b).typeStart + c.typeWord.length) ++
          (lineHead hq hc b).captures c.typeWord.length⟩ true =
      (c.column reg, c.warnings reg) := by
  set h := lineHead hq hc b
  set m : Match := ⟨0, (c.row.columnLine q ++ finalComma b).length,
    c.tailCaptures b (h.typeStart + c.typeWord.length) ++ h.captures c.typeWord.length⟩ with hm
  have hnames : ∀ x ∈ m.captures,
      x.1 ∈ ["extra", "autoincr", "default", "notnull", "zerofill", "unsigned", "arg", "coltype",
        "name"] := by
    intro x hx
    rcases List.mem_append.1 hx with hx | hx
    · exact List.mem_append_left ["coltype", "name"] (tailCaptures_names c b _ x hx)
    · simp only [h, ColumnHead.captures, List.mem_cons, List.not_mem_nil, or_false] at hx
      rcases hx with rfl | rfl <;> simp
  have habsent : ∀ g, g ∉ ["extra", "autoincr", "default", "notnull", "zerofill", "unsigned",
      "arg", "coltype", "name"] → m.group? (c.row.columnLine q ++ finalComma b).toList g = none :=
    fun g hg => group?_eq_none fun x hx hxg => hg (hxg ▸ hnames x hx)
  -- the head's name and type word
  obtain ⟨hname, hword⟩ := group?_of_keepsSpans h (m := m) ⟨c.tailCaptures b _, rfl, by
    intro x hx
    have := tailCaptures_names c b _ x hx
    simp only [List.mem_cons, List.not_mem_nil, or_false] at this ⊢
    rcases this with hx | hx | hx | hx | hx | hx | hx <;> simp [hx]⟩
  -- the tail's parts
  have hs : (c.row.columnLine q ++ finalComma b).toList.drop (h.typeStart + c.typeWord.length) =
      (c.tailText ++ finalComma b).toList := by
    have heq : (c.row.columnLine q ++ finalComma b).toList = ([' ', ' '] ++ q.initial.toList ++
        escapedName f c.name ++ q.final.toList ++ [' '] ++ c.typeWord.toList) ++
          (c.tailText ++ finalComma b).toList := h.eq
    have hpos : h.typeStart + c.typeWord.length = ([' ', ' '] ++ q.initial.toList ++
        escapedName f c.name ++ q.final.toList ++ [' '] ++ c.typeWord.toList).length := by
      simp only [h, lineHead, ColumnHead.typeStart, ColumnHead.nameStart, List.length_append,
        List.length_cons, List.length_nil, String.length_toList]
    rw [hpos, heq, List.drop_left]
  have hhead : ∀ g ∈ ["extra", "autoincr", "default", "notnull", "zerofill", "unsigned", "arg"],
      (h.captures c.typeWord.length).find? (·.1 == g) = none := by
    intro g hg
    simp only [List.mem_cons, List.not_mem_nil, or_false] at hg
    rcases hg with rfl | rfl | rfl | rfl | rfl | rfl | rfl <;> simp [ColumnHead.captures]
  obtain ⟨harg, hU, hZ, hN, hD, hA, hX⟩ := tail_groups c b hs (m := m) hhead rfl
  have hbody : q.unescape (String.ofList h.body) = c.name := unescape_escapedName hq c.name
  have hw : String.ofList h.word = c.typeWord := String.ofList_toList
  -- a flag is read as set exactly where it is written, and so is `NOT NULL`
  have hflag : ∀ (b : Bool) (w : String), (if b = true then some w else none).isSome = b := by
    intro b w
    cases b <;> rfl
  have hnotNull : (!Option.any (fun n => Text.sameIgnoringAsciiCase n "NOT NULL")
      (if (!c.nullable) = true then some "NOT NULL" else none)) = c.nullable := by
    have hsame : Text.sameIgnoringAsciiCase "NOT NULL" "NOT NULL" = true := by decide
    cases c.nullable <;> simp [hsame]
  have hextra : (Reader.dropFinalCommas ∘ fun x => x ++ finalComma b) = Reader.dropFinalCommas :=
    funext fun e => dropFinalCommas_finalComma e b
  obtain ⟨hfsp, hargs⟩ :=
    TypeArgsText.splitPrecision_typeArgs_inner (c.kind reg) c.args hc.args_ne
  simp only [Reader.columnOfMatch, hname, hword, harg, hU, hZ, hN, hD, hA, hX, Option.getD_some,
    hbody, hw, habsent "charset" (by simp), habsent "collate" (by simp),
    habsent "comment" (by simp), habsent "generated" (by simp), habsent "colfmt" (by simp),
    habsent "storage" (by simp), defaultRead_filter, Option.map_map, Option.map_none, hflag,
    hnotNull, hextra, Bool.not_true]
  -- the type's family, and the warning where the registry does not know it
  cases hr : reg.resolve c.typeWord with
  | none =>
    have hk : c.kind reg = .null := by simp [kind, hr]
    rw [hk] at hfsp hargs
    simp only [hfsp, hargs, column, typeArgs, warnings, hk, hr, Option.isSome_none]
    rfl
  | some k =>
    have hk : c.kind reg = k := by simp [kind, hr]
    rw [hk] at hfsp hargs
    simp only [hfsp, hargs, column, typeArgs, warnings, hk, hr, Option.isSome_some]
    rfl

end Line

section Conventions

variable {q : Quoting} (hq : q = .backtick ∨ q = .ansi) (reg : TypeRegistry)
include hq

/-- A readable column's written line, with its comma or without, is read as the column that it
describes, with the warning of a type word that the registry does not know. -/
theorem readColumn_line {c : DescribeColumn} (hc : c.Readable) (b : Bool) :
    Reader.readColumn (LineGrammars.of q) q reg (c.row.columnLine q ++ finalComma b) =
      (some (c.column reg), c.warnings reg) := by
  obtain ⟨i, f, hone⟩ := Reader.oneChar_of_conventions hq
  rw [Reader.readColumn_conventions hq reg, leftmost_line hone hc b]
  exact congrArg (fun p : Column × List Warning => (some p.1, p.2))
    (columnOfMatch_line hone hc reg b)

/-- The column lines of a statement, each but the last with its comma, are read as the columns
that their rows describe, one after another. -/
theorem readColumn_commaLines :
    ∀ cols : List DescribeColumn, (∀ c ∈ cols, c.Readable) →
      (commaLines (cols.map (·.row.columnLine q))).map
          (Reader.readColumn (LineGrammars.of q) q reg) =
        cols.map fun c => (some (c.column reg), c.warnings reg)
  | [], _ => rfl
  | [c], hcols => by
    have h := readColumn_line hq reg (hcols c List.mem_cons_self) false
    rw [finalComma, if_neg Bool.false_ne_true, String.append_empty] at h
    simp [commaLines, h]
  | c :: c' :: cols, hcols => by
    have h := readColumn_line hq reg (hcols c List.mem_cons_self) true
    rw [finalComma, if_pos rfl] at h
    have ih := readColumn_commaLines (c' :: cols) fun x hx => hcols x (List.mem_cons_of_mem c hx)
    rw [List.map_cons] at ih
    rw [List.map_cons, List.map_cons, commaLines, List.map_cons, h, ih]
    rfl

end Conventions

/-- The statement written from the rows of readable columns under the backtick or ANSI convention
is read back as the table of those columns: named by the table, with each column as the reader
sees its row, and with a warning for each type word that the registry does not know. -/
theorem parse_createStatement (r : Reader) (hq : r.quoting = .backtick ∨ r.quoting = .ansi)
    {table : String} (hn : table ≠ "") (ht : NoLineBreak table) (cols : List DescribeColumn)
    (hcols : ∀ c ∈ cols, c.Readable) (cs : String) :
    r.parse (createStatement r.quoting table (cols.map (·.row))) cs [] =
      ({ Table.empty cs with name := some table, columns := cols.map (·.column r.registry) },
        cols.flatMap (·.warnings r.registry)) := by
  obtain ⟨i, hone, hi⟩ : ∃ i, r.quoting.OneChar i i ∧ i ≠ '\n' ∧ i ≠ '\r' := by
    rcases hq with h | h <;> rw [h]
    · exact ⟨_, Quoting.oneChar_backtick, by decide, by decide⟩
    · exact ⟨_, Quoting.oneChar_ansi, by decide, by decide⟩
  have hrows : ∀ row ∈ cols.map (·.row), NoLineBreak (row.columnLine r.quoting) := by
    intro row hrow
    obtain ⟨c, hc, rfl⟩ := List.mem_map.1 hrow
    exact noLineBreak_columnLine hone hi hi (hcols c hc)
  rw [Reader.parse_createStatement_eq r hq hn ht _ hrows cs]
  simp only [List.map_map, Function.comp_def]
  rw [readColumn_commaLines hq r.registry cols hcols, List.flatMap_map, List.flatMap_map]
  simp only [Option.toList_some, ← List.map_eq_flatMap]

/-- Three rows in the manner of a DESCRIBE of a view: an auto-increment key with a `NULL`
default, a timestamp that is updated on change, and an enumeration with a default. -/
theorem parse_createStatement_three_rows :
    (∀ c ∈ ([⟨"id", "int", .one 11, true, false, false, some "NULL", some "auto_increment"⟩,
        ⟨"created", "timestamp", .none, false, false, false, some "CURRENT_TIMESTAMP",
          some "on update CURRENT_TIMESTAMP"⟩,
        ⟨"kind", "enum", .strings ["a", "b"], false, false, false, some "a", none⟩] :
          List DescribeColumn), c.Readable) ∧
      (⟨"mysql", .backtick, TypeRegistry.mysql⟩ : Reader).parse (createStatement .backtick "v"
          (([⟨"id", "int", .one 11, true, false, false, some "NULL", some "auto_increment"⟩,
            ⟨"created", "timestamp", .none, false, false, false, some "CURRENT_TIMESTAMP",
              some "on update CURRENT_TIMESTAMP"⟩,
            ⟨"kind", "enum", .strings ["a", "b"], false, false, false, some "a", none⟩] :
              List DescribeColumn).map (·.row))) "utf8mb4" [] =
        ({ Table.empty "utf8mb4" with
            name := some "v"
            columns := ([⟨"id", "int", .one 11, true, false, false, some "NULL",
                some "auto_increment"⟩,
              ⟨"created", "timestamp", .none, false, false, false, some "CURRENT_TIMESTAMP",
                some "on update CURRENT_TIMESTAMP"⟩,
              ⟨"kind", "enum", .strings ["a", "b"], false, false, false, some "a", none⟩] :
                List DescribeColumn).map (·.column TypeRegistry.mysql) },
          ([⟨"id", "int", .one 11, true, false, false, some "NULL", some "auto_increment"⟩,
            ⟨"created", "timestamp", .none, false, false, false, some "CURRENT_TIMESTAMP",
              some "on update CURRENT_TIMESTAMP"⟩,
            ⟨"kind", "enum", .strings ["a", "b"], false, false, false, some "a", none⟩] :
              List DescribeColumn).flatMap (·.warnings TypeRegistry.mysql)) :=
  have hcols : ∀ c ∈ ([⟨"id", "int", .one 11, true, false, false, some "NULL",
      some "auto_increment"⟩,
    ⟨"created", "timestamp", .none, false, false, false, some "CURRENT_TIMESTAMP",
      some "on update CURRENT_TIMESTAMP"⟩,
    ⟨"kind", "enum", .strings ["a", "b"], false, false, false, some "a", none⟩] :
      List DescribeColumn), c.Readable := by decide +kernel
  ⟨hcols, parse_createStatement ⟨"mysql", .backtick, TypeRegistry.mysql⟩ (.inl rfl)
    (by decide +kernel) (by decide +kernel) _ hcols "utf8mb4"⟩

/-- A nullable row whose extra text is ` NOT NULL`, after a space, is read back as a column that
is not nullable: the two spaces before the extra text are read as the spaces before `NOT NULL`. -/
theorem parse_createStatement_reads_spaced_notNull :
    ((⟨"mysql", .backtick, TypeRegistry.mysql⟩ : Reader).parse
      (createStatement .backtick "t" [⟨"c", "int", true, none, some " NOT NULL"⟩]) "utf8mb4"
        []).1.columns.map (·.nullable) = [false] := by
  rw [Reader.parse_createStatement_eq _ (.inl rfl) (by decide +kernel) (by decide +kernel) _
    (by decide +kernel)]
  simp only [List.map_cons, List.map_nil, commaLines]
  rw [Reader.readColumn_eq_leftmost _ _ _ (by decide +kernel) (by decide +kernel)
    (by decide +kernel) (by decide +kernel)]
  simp only [LineGrammars.of, leftmost_eq_direct]
  decide +kernel

end DescribeColumn

end TableDdl

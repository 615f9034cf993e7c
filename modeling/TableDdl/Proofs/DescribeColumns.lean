import TableDdl.Proofs.TypeArgLists
import TableDdl.Proofs.CreateStatements

/-!
# Columns written from DESCRIBE rows

A DESCRIBE row is written as a column line (`DescribeRow.columnLine`): two spaces, the quoted
name, the type as DESCRIBE shows it, `NOT NULL` unless the column is nullable, the default after
`DEFAULT` and the extra text, each after one space. Here the row's type is taken apart into its
type word, its argument list and the `unsigned` and `zerofill` flags (`DescribeColumn`), and the
written line is cut into the parts that the clauses of the column grammar read
(`DescribeColumn.columnLine_eq`).

The extra text is read by the grammar in one of three ways. After a default written bare, an
extra text that starts with `ON UPDATE` runs on with the default (`joinsDefault`); an extra text
that is `AUTO_INCREMENT` in any case is the flag of that name (`autoText`); any other is read as
free text (`extraRead`). `Readable` gathers what a column needs for its line to be read back:
no line breaks, a type word of word characters, a bare default of call-word characters, and an
extra text that starts with no keyword of a clause read before the free text.
-/

namespace TableDdl

open Render

/-- The keywords of the clauses that the column grammar tries before the free text at the end of
a line, other than `AUTO_INCREMENT` and `ON UPDATE`, which a DESCRIBE extra text may hold. -/
def clauseKeywords : List String :=
  ["NULL", "NOT NULL", "DEFAULT", "CHARACTER SET", "COLLATE", "UNSIGNED", "ZEROFILL", "AS",
    "GENERATED", "COMMENT", "COLUMN_FORMAT", "STORAGE"]

/-- Whether an extra text is the `AUTO_INCREMENT` flag, in any case. -/
def isAutoIncrement (e : String) : Bool :=
  e.length == 14 && Unicode.foldPrefix "AUTO_INCREMENT".toList e.toList

/-- Whether a default is written bare after `DEFAULT`: a default of a timestamp or datetime type
that starts with `C` and does not mention `auto_increment`. -/
def bareDefault (colType d : String) : Bool :=
  !Text.contains (Text.lower d) "auto_increment" && isTimestampType colType &&
    (d.startsWith "C" || d.startsWith "c")

/-- The text written after `DEFAULT`, if the default is written: bare or as a SQL string. -/
def writtenDefault (colType d : String) : Option String :=
  if d = "" ∨ Text.contains (Text.lower d) "auto_increment" = true then none
  else if bareDefault colType d = true ∨ d = "NULL" then some d
  else some (sqlString d)

theorem defaultClause_eq (colType d : String) :
    defaultClause colType d = ((writtenDefault colType d).map fun v => ["DEFAULT", v]).getD [] := by
  unfold defaultClause writtenDefault bareDefault
  by_cases hd : d = ""
  · simp [hd]
  by_cases ha : Text.contains (Text.lower d) "auto_increment" = true
  · simp [hd, ha]
  by_cases hb : (isTimestampType colType && (d.startsWith "C" || d.startsWith "c")) = true
  · simp [hd, ha, hb]
  by_cases hn : d = "NULL"
  · subst hn
    simp [ha]
  · simp only [hd, ha, hb, hn, if_false, Bool.not_false, Bool.true_and, false_or, or_false]
    simp [sqlString]

/-- A default written bare is written as it is. -/
theorem writtenDefault_of_bare {colType d : String} (h : bareDefault colType d = true) :
    writtenDefault colType d = some d := by
  have hd : d ≠ "" := by
    rintro rfl
    simp [bareDefault] at h
  have ha : Text.contains (Text.lower d) "auto_increment" = false := by
    simp only [bareDefault, Bool.and_eq_true, Bool.not_eq_true'] at h
    exact h.1.1
  simp [writtenDefault, hd, ha, h]

/-- A written default is written bare, as `NULL`, or as a SQL string. -/
theorem writtenDefault_cases {colType d w : String} (h : writtenDefault colType d = some w) :
    (bareDefault colType d = true ∧ w = d) ∨ (bareDefault colType d = false ∧ d = "NULL" ∧ w = d) ∨
      (bareDefault colType d = false ∧ d ≠ "NULL" ∧ w = sqlString d) := by
  unfold writtenDefault at h
  split at h
  · cases h
  · by_cases hb : bareDefault colType d = true
    · rw [if_pos (.inl hb)] at h
      exact .inl ⟨hb, (Option.some.inj h).symm⟩
    · rw [Bool.not_eq_true] at hb
      split at h
      · rename_i hn
        exact .inr (.inl ⟨hb, hn.resolve_left (by simp [hb]), (Option.some.inj h).symm⟩)
      · rename_i hn
        exact .inr (.inr ⟨hb, fun h' => hn (.inr h'), (Option.some.inj h).symm⟩)

/-- Words joined by single spaces: the first, then each other after a space. -/
theorem intercalate_space (a : String) :
    ∀ l : List String, " ".intercalate (a :: l) = a ++ String.join (l.map (" " ++ ·))
  | [] => by simp
  | b :: l => by
    rw [String.intercalate_cons_cons, intercalate_space b l, List.map_cons, String.join_cons]
    simp only [String.append_assoc]

/-- The column line of a row, each part after a space: `NOT NULL` unless the column is nullable,
the written default after `DEFAULT`, and the extra text when it is written. -/
theorem DescribeRow.columnLine_eq (q : Quoting) (r : DescribeRow) :
    r.columnLine q = "  " ++ q.quote r.name ++ " " ++ r.colType ++
      flagText (!r.nullable) "NOT NULL" ++
      optionalPart " DEFAULT " (r.defaultValue.bind (writtenDefault r.colType)) ++
      optionalPart " " (r.extra.filter (· ≠ "")) := by
  obtain ⟨name, colType, nullable, dv, ex⟩ := r
  have hD : ∀ d, String.join ((defaultClause colType d).map (" " ++ ·)) =
      optionalPart " DEFAULT " (writtenDefault colType d) := by
    intro d
    rw [defaultClause_eq]
    cases writtenDefault colType d with
    | none => rfl
    | some v =>
      simp only [Option.map_some, Option.getD_some, List.map_cons, List.map_nil, String.join_cons,
        String.join_nil, String.append_empty, optionalPart]
      rw [← String.append_assoc]
      rfl
  have hX : ∀ e, String.join ((if e = "" then [] else [e]).map (" " ++ ·)) =
      optionalPart " " ((some e).filter (· ≠ "")) := by
    intro e
    by_cases he : e = "" <;> simp [he, optionalPart, Option.filter]
  have hsp : ∀ x : String, " " ++ (" " ++ x) = "  " ++ x := by
    intro x
    rw [← String.append_assoc]
    rfl
  unfold DescribeRow.columnLine
  simp only [List.cons_append, List.nil_append]
  rw [intercalate_space]
  -- each optional part is a constructor once the row's fields are split
  cases nullable <;> cases dv <;> cases ex <;>
    simp [hD, hX, hsp, flagText, optionalPart, String.append_assoc]

/-- A column as a DESCRIBE listing shows it, its type taken apart into the type word, the argument
list and the `unsigned` and `zerofill` flags. Numeric arguments are numbers, written as canonical
decimal numerals: a type such as `int(011)`, whose argument has a leading zero, is the type text
of no column here. -/
structure DescribeColumn where
  name : String
  typeWord : String
  args : TypeArgsText
  unsigned : Bool
  zerofill : Bool
  nullable : Bool
  defaultValue : Option String
  extra : Option String
  deriving Repr, DecidableEq

namespace DescribeColumn

variable (c : DescribeColumn)

/-- The type as DESCRIBE shows it. -/
def typeText : String :=
  c.typeWord ++ c.args.text ++ flagText c.unsigned "unsigned" ++ flagText c.zerofill "zerofill"

/-- The row that DESCRIBE shows. -/
def row : DescribeRow := ⟨c.name, c.typeText, c.nullable, c.defaultValue, c.extra⟩

/-- The extra text, when it is written. -/
def extraText : Option String := c.extra.filter (· ≠ "")

/-- Whether the extra text runs on with a bare default: it starts with `ON UPDATE`. -/
def joinsDefault : Bool :=
  c.defaultValue.any (bareDefault c.typeText) &&
    c.extraText.any fun e => Unicode.foldPrefix "ON UPDATE ".toList e.toList

/-- The text that the grammar reads as the default: the written default, with the extra text
when it runs on with it. -/
def defaultRead : Option String :=
  (c.defaultValue.bind (writtenDefault c.typeText)).map fun v =>
    if c.joinsDefault then v ++ optionalPart " " c.extraText else v

/-- The extra text when it is the `AUTO_INCREMENT` flag. -/
def autoText : Option String :=
  if c.joinsDefault then none else c.extraText.filter isAutoIncrement

/-- The extra text when it is read as free text. -/
def extraRead : Option String :=
  if c.joinsDefault then none else c.extraText.filter fun e => !isAutoIncrement e

/-- The written line after the type word, in the order of the grammar's clauses. -/
def tailText : String :=
  c.args.text ++ flagText c.unsigned "unsigned" ++ flagText c.zerofill "zerofill" ++
    flagText (!c.nullable) "NOT NULL" ++ optionalPart " DEFAULT " c.defaultRead ++
    optionalPart " " c.autoText ++ optionalPart " " c.extraRead

/-- The groups that the clauses after the type word record over the written tail, with its final
comma when `b`, where the tail starts at `p`: the last clause's first. -/
def tailCaptures (b : Bool) (p : Nat) : Captures :=
  let pU := p + c.args.text.length
  let pZ := pU + (flagText c.unsigned "unsigned").length
  let pN := pZ + (flagText c.zerofill "zerofill").length
  let pD := pN + (flagText (!c.nullable) "NOT NULL").length
  let pA := pD + (optionalPart " DEFAULT " c.defaultRead).length
  let pX := pA + (optionalPart " " c.autoText).length
  Grammar.clauseCaptures "extra" 1 (c.extraRead.map (· ++ finalComma b)) pX ++
    Grammar.clauseCaptures "autoincr" 1 c.autoText pA ++
    Grammar.clauseCaptures "default" ("DEFAULT".length + 2) c.defaultRead pD ++
    Grammar.clauseCaptures "notnull" 1 (if !c.nullable then some "NOT NULL" else none) pN ++
    Grammar.clauseCaptures "zerofill" 1 (if c.zerofill then some "zerofill" else none) pZ ++
    Grammar.clauseCaptures "unsigned" 1 (if c.unsigned then some "unsigned" else none) pU ++
    Grammar.clauseCaptures "arg" 1 c.args.inner p

/-- The default and the extra text as written, cut where the grammar reads them: the extra text
runs on with a bare default that it follows, or stands alone as the `AUTO_INCREMENT` flag or as
free text. -/
theorem default_extra_eq :
    optionalPart " DEFAULT " (c.defaultValue.bind (writtenDefault c.typeText)) ++
        optionalPart " " c.extraText =
      optionalPart " DEFAULT " c.defaultRead ++ optionalPart " " c.autoText ++
        optionalPart " " c.extraRead := by
  unfold defaultRead autoText extraRead
  cases hj : c.joinsDefault with
  | false =>
    cases c.extraText with
    | none => simp [optionalPart]
    | some e =>
      by_cases ha : isAutoIncrement e = true <;>
        simp [optionalPart, Option.filter, ha]
  | true =>
    -- the default is written bare and the extra text is written after it
    obtain ⟨d, hd, hbare⟩ : ∃ d, c.defaultValue = some d ∧ bareDefault c.typeText d = true := by
      simp only [joinsDefault, Bool.and_eq_true, Option.any_eq_true] at hj
      exact hj.1
    obtain ⟨e, he⟩ : ∃ e, c.extraText = some e := by
      simp only [joinsDefault, Bool.and_eq_true, Option.any_eq_true] at hj
      obtain ⟨e, he, -⟩ := hj.2
      exact ⟨e, he⟩
    simp [hd, writtenDefault_of_bare hbare, he, optionalPart, String.append_assoc]

/-- The written line of a column, in the order of the grammar's clauses: the head up to the type
word, then the argument list, the flags, `NOT NULL`, the default and the extra text. -/
theorem columnLine_eq (q : Quoting) :
    c.row.columnLine q = "  " ++ q.quote c.name ++ " " ++ c.typeWord ++ c.tailText := by
  have hsplit := default_extra_eq c
  rw [DescribeRow.columnLine_eq]
  simp only [row, typeText, tailText, extraText, String.append_assoc] at hsplit ⊢
  rw [hsplit]

/-- What a column needs for its written line to be read back: a name and a type word, neither
empty, and no line break in any part; a type word of word characters; an argument list that is
not an empty list of strings; a bare default of call-word characters; and an extra text that
does not start with a space or with the keyword of a clause read before the free text, that is
the `AUTO_INCREMENT` flag whole where it starts with it, and that is an `ON UPDATE` text where it
runs on with the default. -/
structure Readable : Prop where
  name_ne : c.name ≠ ""
  name_line : NoLineBreak c.name
  word_ne : c.typeWord ≠ ""
  word_chars : ∀ x ∈ c.typeWord.toList, Unicode.word.contains x = true
  args_ne : c.args ≠ .strings []
  args_line : NoLineBreak c.args.text
  default_line : ∀ d ∈ c.defaultValue, NoLineBreak d
  bare_default : ∀ d ∈ c.defaultValue, bareDefault c.typeText d = true →
    ∀ x ∈ d.toList, Grammar.callChar x = true
  extra_line : ∀ e ∈ c.extra, NoLineBreak e
  extra_space : ∀ e ∈ c.extra, e.toList.head? ≠ some ' '
  extra_keywords : ∀ e ∈ c.extra, ∀ kw ∈ clauseKeywords,
    Unicode.foldPrefix kw.toList e.toList = false
  extra_autoIncrement : ∀ e ∈ c.extra,
    Unicode.foldPrefix "AUTO_INCREMENT".toList e.toList = true → e.length = 14
  extra_onUpdate : c.joinsDefault = true → ∀ e ∈ c.extra, Grammar.OnUpdateText e

instance : Decidable c.Readable :=
  -- the conditions on characters are read by running through the text, not by an enumeration
  -- of all characters
  decidable_of_iff (c.name ≠ "" ∧ NoLineBreak c.name ∧ c.typeWord ≠ "" ∧
      c.typeWord.toList.all Unicode.word.contains = true ∧ c.args ≠ .strings [] ∧
      NoLineBreak c.args.text ∧ (∀ d ∈ c.defaultValue, NoLineBreak d) ∧
      (∀ d ∈ c.defaultValue, bareDefault c.typeText d = true →
        d.toList.all Grammar.callChar = true) ∧
      (∀ e ∈ c.extra, NoLineBreak e) ∧ (∀ e ∈ c.extra, e.toList.head? ≠ some ' ') ∧
      (∀ e ∈ c.extra, ∀ kw ∈ clauseKeywords, Unicode.foldPrefix kw.toList e.toList = false) ∧
      (∀ e ∈ c.extra, Unicode.foldPrefix "AUTO_INCREMENT".toList e.toList = true → e.length = 14) ∧
      (c.joinsDefault = true → ∀ e ∈ c.extra, Grammar.OnUpdateText e))
    ⟨fun ⟨h₁, h₂, h₃, h₄, h₅, h₆, h₇, h₈, h₉, h₁₀, h₁₁, h₁₂, h₁₃⟩ =>
      ⟨h₁, h₂, h₃, List.all_eq_true.1 h₄, h₅, h₆, h₇,
        fun d hd hb => List.all_eq_true.1 (h₈ d hd hb), h₉, h₁₀, h₁₁, h₁₂, h₁₃⟩,
      fun h => ⟨h.1, h.2, h.3, List.all_eq_true.2 h.4, h.5, h.6, h.7,
        fun d hd hb => List.all_eq_true.2 (h.8 d hd hb), h.9, h.10, h.11, h.12, h.13⟩⟩

/-- The family of the column's type in a registry, `null` where the registry does not know it. -/
def kind (reg : TypeRegistry) : TypeKind := (reg.resolve c.typeWord).getD .null

/-- The precision and the arguments that the type is read with. -/
def typeArgs (reg : TypeRegistry) : Option Nat × List TypeArg :=
  Reader.splitPrecision (c.kind reg) (c.args.values (c.kind reg).isEnumerated)

/-- The column that the written line of a readable column is read as. -/
def column (reg : TypeRegistry) : Column where
  name := c.name
  type :=
    { name := Text.lower c.typeWord
      kind := c.kind reg
      args := (c.typeArgs reg).2
      unsigned := c.unsigned
      zerofill := c.zerofill
      charset := none
      collation := none
      fsp := (c.typeArgs reg).1
      retrieveAsBitwise := (c.kind reg).isSet && (c.typeArgs reg).2.contains (.text "") }
  nullable := c.nullable
  autoincrement :=
    if c.autoText.isSome then some true else if (c.kind reg).isInteger then some false else none
  defaultValue := if c.defaultValue = some "NULL" then none else c.defaultRead
  comment := none
  computed := none
  columnFormat := none
  storage := none
  extra := (c.extraRead.map Reader.dropFinalCommas).filter (· ≠ "")
  degraded := false

/-- The warning that reading the line gives: the type word, where the registry does not know it. -/
def warnings (reg : TypeRegistry) : List Warning :=
  if (reg.resolve c.typeWord).isSome then [] else [.unrecognizedType c.name c.typeWord]

/-! ## What the extra text is read as -/

theorem mem_extraText {e : String} (h : e ∈ c.extraText) : c.extra = some e ∧ e ≠ "" := by
  simpa [extraText, Option.mem_def, Option.filter_eq_some_iff] using h

theorem mem_autoText {e : String} (h : e ∈ c.autoText) :
    c.extra = some e ∧ e ≠ "" ∧ isAutoIncrement e = true ∧ c.joinsDefault = false := by
  unfold autoText at h
  cases hj : c.joinsDefault
  · rw [hj, if_neg (by decide)] at h
    obtain ⟨he, ha⟩ := Option.mem_filter_iff.1 h
    exact ⟨(c.mem_extraText he).1, (c.mem_extraText he).2, ha, rfl⟩
  · simp [hj] at h

theorem mem_extraRead {e : String} (h : e ∈ c.extraRead) :
    c.extra = some e ∧ e ≠ "" ∧ isAutoIncrement e = false ∧ c.joinsDefault = false := by
  unfold extraRead at h
  cases hj : c.joinsDefault
  · rw [hj, if_neg (by decide)] at h
    obtain ⟨he, ha⟩ := Option.mem_filter_iff.1 h
    exact ⟨(c.mem_extraText he).1, (c.mem_extraText he).2, by simpa using ha, rfl⟩
  · simp [hj] at h

/-- A default written bare starts with `C` in one case or the other. -/
theorem head?_of_bareDefault {colType d : String} (h : bareDefault colType d = true) :
    d.toList.head? = some 'C' ∨ d.toList.head? = some 'c' := by
  simp only [bareDefault, Bool.and_eq_true, Bool.or_eq_true, String.startsWith_string_iff] at h
  rcases h.2 with ⟨t, ht⟩ | ⟨t, ht⟩
  · left
    rw [← ht]
    rfl
  · right
    rw [← ht]
    rfl

end DescribeColumn

namespace Grammar

open Pattern Unicode

/-- A text that starts with a keyword apart from `kw` is not started by `kw`, whatever follows. -/
theorem foldPrefix_append_eq_false {w kw x : List Char} (h : Apart w kw = true)
    (hx : foldPrefix w x = true) (r : List Char) : foldPrefix kw (x ++ r) = false :=
  foldPrefix_eq_false_of_apart h (by rw [foldPrefix_append_of_le r (foldPrefix_length_le hx), hx])

/-- A word written after one space is no clause of a keyword that does not start it, and an absent
one leaves the text after it. -/
theorem noClause_optionalPart_space {kw : String} (a : Option String) {t : List Char}
    (ha : ∀ w ∈ a, w.toList ≠ [] ∧ w.toList.head? ≠ some ' ' ∧
      foldPrefix kw.toList (w.toList ++ t) = false)
    (ht : a = none → NoClause kw t) : NoClause kw ((optionalPart " " a).toList ++ t) := by
  cases a with
  | none => simpa [optionalPart] using ht rfl
  | some w =>
    obtain ⟨hne, hsp, hkw⟩ := ha w rfl
    refine .inr ⟨w.toList ++ t, by simp [optionalPart], ?_, hkw⟩
    rwa [List.head?_append_of_ne_nil _ hne]

/-- A flag that is set is no clause of a keyword apart from its word. -/
theorem noClause_flagText {kw w : String} (hkw : Apart w.toList kw.toList = true)
    (hw : foldPrefix w.toList w.toList = true) (hne : w.toList ≠ [])
    (hsp : w.toList.head? ≠ some ' ') (b : Bool) {t : List Char} (ht : NoClause kw t) :
    NoClause kw ((flagText b w).toList ++ t) := by
  cases b with
  | false => simpa [flagText] using ht
  | true =>
    refine .inr ⟨w.toList ++ t, by simp [flagText], ?_,
      foldPrefix_append_eq_false hkw hw t⟩
    rwa [List.head?_append_of_ne_nil _ hne]

theorem tokenEnd_flagText (b : Bool) (w : String) {t : List Char} (ht : TokenEnd t) :
    TokenEnd ((flagText b w).toList ++ t) := by
  cases b with
  | false => simpa [flagText] using ht
  | true => exact .inr (.inl (by simp [flagText]))

/-- What the case tables say about the keywords of the clauses after the type word, in one
evaluation: each keyword that the grammar tries before a fixed word of a column line is apart from
that word. -/
theorem clauseKeywords_apart :
    (∀ kw ∈ ["UNSIGNED", "ZEROFILL", "CHARACTER SET", "COLLATE", "NOT NULL", "NULL", "DEFAULT",
      "ON UPDATE ", "AS", "GENERATED"], Apart "AUTO_INCREMENT".toList kw.toList = true) ∧
    (∀ kw ∈ ["UNSIGNED", "ZEROFILL", "CHARACTER SET", "COLLATE", "NOT NULL", "NULL"],
      Apart "DEFAULT ".toList kw.toList = true) ∧
    (∀ kw ∈ ["UNSIGNED", "ZEROFILL", "CHARACTER SET", "COLLATE"],
      Apart "NOT NULL".toList kw.toList = true) ∧
    Apart "zerofill".toList "UNSIGNED".toList = true := by
  -- one boolean for the whole table, so that the kernel reads each orbit once
  have h : ((["UNSIGNED", "ZEROFILL", "CHARACTER SET", "COLLATE", "NOT NULL", "NULL", "DEFAULT",
      "ON UPDATE ", "AS", "GENERATED"].all fun kw => Apart "AUTO_INCREMENT".toList kw.toList) &&
      (["UNSIGNED", "ZEROFILL", "CHARACTER SET", "COLLATE", "NOT NULL", "NULL"].all fun kw =>
        Apart "DEFAULT ".toList kw.toList) &&
      (["UNSIGNED", "ZEROFILL", "CHARACTER SET", "COLLATE"].all fun kw =>
        Apart "NOT NULL".toList kw.toList) &&
      Apart "zerofill".toList "UNSIGNED".toList) = true := by
    decide +kernel
  simpa only [Bool.and_eq_true, List.all_eq_true, and_assoc] using h

/-- No keyword of a clause holds a character that folds onto the comma: the keywords are written
in the characters of the grammars, which fold onto themselves alone. -/
theorem comma_apart_clauseKeyword {kw : String}
    (hkw : kw ∈ "AUTO_INCREMENT" :: "ON UPDATE " :: clauseKeywords) :
    (kw.toList.all fun x => !(foldOrbit x).contains ',') = true := by
  have hchars : (("AUTO_INCREMENT" :: "ON UPDATE " :: clauseKeywords).all fun kw =>
      kw.toList.all fun x => grammarChars.contains x && x != ',') = true := by
    decide +kernel
  have hcomma : ',' ∈ grammarChars := by decide +kernel
  refine List.all_eq_true.2 fun x hx => ?_
  have hx' := List.all_eq_true.1 (List.all_eq_true.1 hchars kw hkw) x hx
  simp only [Bool.and_eq_true, List.contains_iff_mem, bne_iff_ne] at hx'
  rw [grammar_tables.1 x hx'.1 ',' hcomma]
  simpa using hx'.2.symm

/-- What the case tables say about the fixed words of a column's clauses, in one evaluation: each
word starts itself, a flag written in lower case is started by its keyword, and the call words of a
bare default start with no character that folds onto the one of `NULL`. -/
theorem clauseWords_fold :
    (∀ w ∈ ["DEFAULT", "DEFAULT ", "NOT NULL", "zerofill", "AUTO_INCREMENT"],
      foldPrefix w.toList w.toList = true) ∧
    foldPrefix "UNSIGNED".toList "unsigned".toList = true ∧
    foldPrefix "ZEROFILL".toList "zerofill".toList = true ∧
    'C' ∉ foldOrbit 'N' ∧ 'c' ∉ foldOrbit 'N' := by
  have h : ((["DEFAULT", "DEFAULT ", "NOT NULL", "zerofill", "AUTO_INCREMENT"].all fun w =>
      foldPrefix w.toList w.toList) && foldPrefix "UNSIGNED".toList "unsigned".toList &&
      foldPrefix "ZEROFILL".toList "zerofill".toList && !(foldOrbit 'N').contains 'C' &&
      !(foldOrbit 'N').contains 'c') = true := by
    decide +kernel
  simpa only [Bool.and_eq_true, List.all_eq_true, Bool.not_eq_true', Bool.eq_false_iff, ne_eq,
    List.contains_iff_mem, and_assoc] using h

/-- The clauses of the full column grammar after the type word. -/
def columnTail : Pattern :=
  argList.opt ++ (flagClause "unsigned" "UNSIGNED").opt ++ (flagClause "zerofill" "ZEROFILL").opt ++
    (valueClause "CHARACTER SET" "charset" (plus (oneOf [.word, .char '_']))).opt ++
    (valueClause "COLLATE" "collate" (plus (oneOf [.word, .char '_']))).opt ++
    notNullClause.opt ++ (valueClause "DEFAULT" "default" defaultValue).opt ++ generated.opt ++
    (flagClause "autoincr" "AUTO_INCREMENT").opt ++ columnCommentClause.opt ++
    (valueClause "COLUMN_FORMAT" "colfmt" word).opt ++
    (valueClause "STORAGE" "storage" word).opt ++ extraClause.opt ++ (literal ",").opt ++ .atEnd

/-- The full column grammar is its start, up to the type word, and the clauses after it. -/
theorem column_ways (q : Quoting) {n : Nat} (c : Cursor n) (caps : Captures) :
    (column q).ways c caps = (typeHead q ++ columnTail).ways c caps := by
  rw [column_eq]
  simp only [columnTail, ways_append, List.flatMap_assoc]

/-- The end of a line, after the clauses that a pattern reads first: a free text written after
one space is read first whole with the comma after it, and the comma alone where there is none. -/
theorem head?_ways_columnLineEnd {p : Pattern} {n : Nat} {cur cur' : Cursor n} {caps caps' : Captures}
    (hp : (p.ways cur caps).head? = some (cur', caps')) (x : Option String)
    (hx : ∀ e ∈ x, e.toList ≠ [] ∧ e.toList.head? ≠ some ' ' ∧ '\n' ∉ e.toList) (b : Bool)
    (hc : cur'.rest = (optionalPart " " x ++ finalComma b).toList) :
    ((p ++ extraClause.opt ++ (literal ",").opt ++ .atEnd).ways cur caps).head? =
      some (cur'.skip (optionalPart " " x ++ finalComma b).length,
        clauseCaptures "extra" 1 (x.map (· ++ finalComma b)) cur'.pos ++ caps') := by
  cases x with
  | none =>
    have hk : cur'.rest = (finalComma b).toList := by simpa [optionalPart] using hc
    have hext := head?_ways_extraClause_of_ne (c := cur')
      (by rw [hk]; cases b <;> simp [finalComma]) caps'
    have hcomma := head?_ways_finalComma b hk caps'
    have hend := head?_ways_atEnd (c := cur'.skip (finalComma b).length)
      (by rw [Cursor.rest_skip, hk, ← String.length_toList, List.drop_length]) caps'
    rw [head?_ways_append_of_head? (head?_ways_append_of_head? (head?_ways_append_of_head? hp hext)
      hcomma) hend]
    simp [optionalPart, clauseCaptures]
  | some e =>
    obtain ⟨hne, hsp, hnl⟩ := hx e rfl
    have hk : cur'.rest = ' ' :: (e.toList ++ (finalComma b).toList) := by
      simpa [optionalPart] using hc
    have hext := head?_ways_extraClause (x := e.toList ++ (finalComma b).toList)
      (by rwa [List.head?_append_of_ne_nil _ hne])
      (by cases b <;> simp [finalComma, hnl]) hk caps'
    have hrest : (cur'.skip ((e.toList ++ (finalComma b).toList).length + 1)).rest = [] := by
      rw [Cursor.rest_skip, hk, List.drop_eq_nil_of_le (by simp)]
    have hcomma := head?_ways_finalComma false
      (c := cur'.skip ((e.toList ++ (finalComma b).toList).length + 1)) (by rw [hrest]; rfl)
      (("extra", cur'.pos + 1, cur'.pos + 1 + (e.toList ++ (finalComma b).toList).length) :: caps')
    have hend := head?_ways_atEnd (c := (cur'.skip ((e.toList ++ (finalComma b).toList).length + 1)).skip
      (finalComma false).length) (by rw [Cursor.rest_skip, hrest]; rfl)
      (("extra", cur'.pos + 1, cur'.pos + 1 + (e.toList ++ (finalComma b).toList).length) :: caps')
    rw [head?_ways_append_of_head? (head?_ways_append_of_head? (head?_ways_append_of_head? hp hext)
      hcomma) hend]
    simp only [finalComma, Bool.false_eq_true, if_false, String.length_empty, Cursor.skip_zero,
      optionalPart, Option.map_some, clauseCaptures, Option.toList_some, List.singleton_append,
      List.length_append, String.length_toList, String.length_append,
      show " ".length = 1 from rfl]
    congr 3
    omega

end Grammar

namespace DescribeColumn

open Grammar Pattern Unicode

variable {c : DescribeColumn} (hc : c.Readable)
include hc

/-! ## The clauses that are not read

A clause that a column does not write is skipped where the text after its spaces does not start
with its keyword. The written text after each clause is made of the later parts, each after one
space; a keyword is avoided there when every later fixed word is apart from it and the free extra
text does not start with it. -/

theorem noClause_extraPart (kw : String)
    (hcomma : (kw.toList.all fun x => !(foldOrbit x).contains ',') = true)
    (hE : ∀ e ∈ c.extraRead, foldPrefix kw.toList e.toList = false) (b : Bool) :
    NoClause kw ((optionalPart " " c.extraRead).toList ++ (finalComma b).toList) := by
  refine noClause_optionalPart_space _ (fun e he => ?_) (fun _ => noClause_finalComma kw b)
  obtain ⟨hex, hne, -, -⟩ := c.mem_extraRead he
  refine ⟨by simpa using hne, hc.extra_space e hex, ?_⟩
  cases b with
  | false => simpa [finalComma] using hE e he
  | true => exact foldPrefix_append_comma hcomma (hE e he)

theorem noClause_afterDefault (kw : String) (hA : Apart "AUTO_INCREMENT".toList kw.toList = true)
    (hcomma : (kw.toList.all fun x => !(foldOrbit x).contains ',') = true)
    (hE : ∀ e ∈ c.extraRead, foldPrefix kw.toList e.toList = false) (b : Bool) :
    NoClause kw ((optionalPart " " c.autoText).toList ++
      ((optionalPart " " c.extraRead).toList ++ (finalComma b).toList)) := by
  refine noClause_optionalPart_space _ (fun e he => ?_)
    (fun _ => noClause_extraPart hc kw hcomma hE b)
  obtain ⟨hex, hne, hauto, -⟩ := c.mem_autoText he
  have hfold : foldPrefix "AUTO_INCREMENT".toList e.toList = true := by
    simp only [isAutoIncrement, Bool.and_eq_true] at hauto
    exact hauto.2
  exact ⟨by simpa using hne, hc.extra_space e hex, foldPrefix_append_eq_false hA hfold _⟩

theorem noClause_afterNotNull (kw : String) (hD : Apart "DEFAULT ".toList kw.toList = true)
    (hA : Apart "AUTO_INCREMENT".toList kw.toList = true)
    (hcomma : (kw.toList.all fun x => !(foldOrbit x).contains ',') = true)
    (hE : ∀ e ∈ c.extraRead, foldPrefix kw.toList e.toList = false) (b : Bool) :
    NoClause kw ((optionalPart " DEFAULT " c.defaultRead).toList ++
      ((optionalPart " " c.autoText).toList ++
        ((optionalPart " " c.extraRead).toList ++ (finalComma b).toList))) :=
  noClause_optionalPart (show " DEFAULT ".toList = ' ' :: "DEFAULT ".toList by simp)
    (by decide) (by decide) (foldPrefix_append_eq_false hD (clauseWords_fold.1 _ (by simp))) _
    (noClause_afterDefault hc kw hA hcomma hE b)

theorem noClause_afterZerofill (kw : String) (hN : Apart "NOT NULL".toList kw.toList = true)
    (hD : Apart "DEFAULT ".toList kw.toList = true)
    (hA : Apart "AUTO_INCREMENT".toList kw.toList = true)
    (hcomma : (kw.toList.all fun x => !(foldOrbit x).contains ',') = true)
    (hE : ∀ e ∈ c.extraRead, foldPrefix kw.toList e.toList = false) (b : Bool) :
    NoClause kw ((flagText (!c.nullable) "NOT NULL").toList ++
      ((optionalPart " DEFAULT " c.defaultRead).toList ++ ((optionalPart " " c.autoText).toList ++
        ((optionalPart " " c.extraRead).toList ++ (finalComma b).toList)))) :=
  noClause_flagText hN (clauseWords_fold.1 _ (by simp)) (by decide) (by decide) _
    (noClause_afterNotNull hc kw hD hA hcomma hE b)

theorem noClause_afterUnsigned (kw : String) (hZ : Apart "zerofill".toList kw.toList = true)
    (hN : Apart "NOT NULL".toList kw.toList = true) (hD : Apart "DEFAULT ".toList kw.toList = true)
    (hA : Apart "AUTO_INCREMENT".toList kw.toList = true)
    (hcomma : (kw.toList.all fun x => !(foldOrbit x).contains ',') = true)
    (hE : ∀ e ∈ c.extraRead, foldPrefix kw.toList e.toList = false) (b : Bool) :
    NoClause kw ((flagText c.zerofill "zerofill").toList ++
      ((flagText (!c.nullable) "NOT NULL").toList ++
        ((optionalPart " DEFAULT " c.defaultRead).toList ++ ((optionalPart " " c.autoText).toList ++
          ((optionalPart " " c.extraRead).toList ++ (finalComma b).toList))))) :=
  noClause_flagText hZ (clauseWords_fold.1 _ (by simp)) (by decide) (by decide) _
    (noClause_afterZerofill hc kw hN hD hA hcomma hE b)

/-! ## The default, read first whole -/

omit hc in
/-- The default that the grammar reads is a written default, run on with the extra text when it
joins it. -/
theorem defaultRead_eq {v : String} (hv : c.defaultRead = some v) :
    ∃ d w, c.defaultValue = some d ∧ writtenDefault c.typeText d = some w ∧
      v = if c.joinsDefault then w ++ optionalPart " " c.extraText else w := by
  unfold defaultRead at hv
  obtain ⟨w, hw, rfl⟩ := Option.map_eq_some_iff.1 hv
  obtain ⟨d, hd, hdw⟩ := Option.bind_eq_some_iff.1 hw
  exact ⟨d, w, hd, hdw, rfl⟩

omit hc in
/-- The text read as the default is not empty and does not start with a space. -/
theorem defaultRead_head {v : String} (hv : c.defaultRead = some v) :
    ∃ x r, v.toList = x :: r ∧ x ≠ ' ' := by
  obtain ⟨d, w, -, hdw, rfl⟩ := c.defaultRead_eq hv
  -- the written default starts with `C`, `N` or a quote, whatever runs on after it
  obtain ⟨x, r, hw, hx⟩ : ∃ x r, w.toList = x :: r ∧ x ≠ ' ' := by
    rcases writtenDefault_cases hdw with ⟨hb, rfl⟩ | ⟨-, rfl, rfl⟩ | ⟨-, -, rfl⟩
    · rcases head?_of_bareDefault hb with h | h <;>
        obtain ⟨r, hr⟩ := List.head?_eq_some_iff.1 h <;> exact ⟨_, r, hr, by decide⟩
    · exact ⟨'N', "ULL".toList, rfl, by decide⟩
    · exact ⟨'\'', _, sqlString_toList d, by decide⟩
  split
  · exact ⟨x, r ++ (optionalPart " " c.extraText).toList, by simp [hw], hx⟩
  · exact ⟨x, r, hw, hx⟩

/-- The default is read first whole, before a text that starts with a space, a comma or nothing,
and that does not start with `ON UPDATE` after a bare default that the extra text does not join. -/
theorem head?_ways_defaultRead {v : String} (hv : c.defaultRead = some v) {t : List Char}
    (ht : TokenEnd t)
    (hon : c.joinsDefault = false → c.defaultValue.any (bareDefault c.typeText) = true →
      NoClause "ON UPDATE " t)
    {n : Nat} {cur : Cursor n} (hcur : cur.rest = v.toList ++ t) (caps : Captures) :
    (Grammar.defaultValue.ways cur caps).head? = some (cur.skip v.length, caps) := by
  obtain ⟨d, w, hd, hdw, rfl⟩ := c.defaultRead_eq hv
  have hcall : ∀ x ∈ t.head?, callChar x = false := by
    intro x hx
    rcases ht with h | h | h <;> rw [h] at hx <;> simp at hx <;> subst hx <;>
      exact callChar_grammar (by decide) (by decide) (by decide)
  rcases writtenDefault_cases hdw with ⟨hb, rfl⟩ | ⟨hb, rfl, rfl⟩ | ⟨hb, -, rfl⟩
  · -- a bare default: a call word, with the `ON UPDATE` text when the extra text joins it
    have hN : ∀ x ∈ w.toList.head?, x ∉ foldOrbit 'N' := by
      intro x hx
      rcases head?_of_bareDefault hb with h | h <;> rw [h] at hx <;> cases hx
      exacts [clauseWords_fold.2.2.2.1, clauseWords_fold.2.2.2.2]
    have hne : w.toList ≠ [] := by
      intro h
      rcases head?_of_bareDefault hb with h' | h' <;> simp [h] at h'
    have hcallw := hc.bare_default w hd hb
    cases hj : c.joinsDefault with
    | false =>
      have hcur' : cur.rest = (w ++ optionalPart " " none).toList ++ t := by
        simpa [optionalPart, hj] using hcur
      have h := head?_ways_defaultValue_call hne hcallw hN none (by simp) hcall
        (fun _ => hon hj (by simp [hd, hb])) hcur' caps
      simpa [optionalPart, hj] using h
    | true =>
      obtain ⟨E, hE⟩ : ∃ E, c.extraText = some E := by
        simp only [joinsDefault, Bool.and_eq_true, Option.any_eq_true] at hj
        obtain ⟨E, hE, -⟩ := hj.2
        exact ⟨E, hE⟩
      have hon' : Grammar.OnUpdateText E := hc.extra_onUpdate hj E (c.mem_extraText hE).1
      have hcur' : cur.rest = (w ++ optionalPart " " (some E)).toList ++ t := by
        simpa [hj, hE] using hcur
      have h := head?_ways_defaultValue_call hne hcallw hN (some E) (by simpa using hon') hcall
        (by simp) hcur' caps
      simpa [hj, hE] using h
  · -- `NULL`, which the bare default never is
    have hj : c.joinsDefault = false := by
      simp [joinsDefault, hd, hb]
    have h := head?_ways_defaultValue_null (t := t) (c := cur) (by simpa [hj] using hcur) caps
    simpa [hj] using h
  · -- a SQL string, which no quote follows
    have hj : c.joinsDefault = false := by
      simp [joinsDefault, hd, hb]
    have hq : t.head? ≠ some '\'' := by
      rcases ht with h | h | h <;> simp [h]
    have h := head?_ways_defaultValue_string d hq (c := cur) (by simpa [hj] using hcur) caps
    simpa [hj] using h

/-! ## The clauses after the type word -/

/-- The free extra text starts with no keyword of the clauses. -/
theorem extraRead_keyword {kw : String} (hkw : kw ∈ clauseKeywords) :
    ∀ e ∈ c.extraRead, foldPrefix kw.toList e.toList = false :=
  fun e he => hc.extra_keywords e (c.mem_extraRead he).1 kw hkw

/-- The free extra text does not start with `AUTO_INCREMENT`: it would be the flag. -/
theorem extraRead_autoIncrement :
    ∀ e ∈ c.extraRead, foldPrefix "AUTO_INCREMENT".toList e.toList = false := by
  intro e he
  obtain ⟨hex, -, hauto, -⟩ := c.mem_extraRead he
  cases h : foldPrefix "AUTO_INCREMENT".toList e.toList with
  | false => rfl
  | true =>
    have hlen := hc.extra_autoIncrement e hex h
    unfold isAutoIncrement at hauto
    rw [hlen, h] at hauto
    exact absurd hauto (by decide)

omit hc in
/-- After a bare default that it does not join, the free extra text does not start with
`ON UPDATE`. -/
theorem extraRead_onUpdate (hj : c.joinsDefault = false)
    (hbare : c.defaultValue.any (bareDefault c.typeText) = true) :
    ∀ e ∈ c.extraRead, foldPrefix "ON UPDATE ".toList e.toList = false := by
  intro e he
  have hex : c.extraText = some e := by
    obtain ⟨hex, hne, -, -⟩ := c.mem_extraRead he
    simp [extraText, hex, hne]
  simpa [joinsDefault, hbare, hex] using hj

/-! ## One clause that is not written

At each boundary between the written parts, the grammar tries the keywords of the clauses that
come there. Each of these keywords is apart from every fixed word written later and starts no
extra text, so none starts a clause in the text after the boundary. -/

theorem noClause_extraPart_of_mem (kw : String) (hkw : kw ∈ clauseKeywords) (b : Bool) :
    NoClause kw ((optionalPart " " c.extraRead).toList ++ (finalComma b).toList) :=
  noClause_extraPart hc kw (comma_apart_clauseKeyword (.tail _ (.tail _ hkw)))
    (c.extraRead_keyword hc hkw) b

theorem noClause_afterDefault_of_mem (kw : String) (hkw : kw ∈ ["DEFAULT", "AS", "GENERATED"])
    (b : Bool) :
    NoClause kw ((optionalPart " " c.autoText).toList ++
      ((optionalPart " " c.extraRead).toList ++ (finalComma b).toList)) := by
  simp only [List.mem_cons, List.not_mem_nil, or_false] at hkw
  rcases hkw with rfl | rfl | rfl <;>
    exact noClause_afterDefault hc _ (clauseKeywords_apart.1 _ (by simp))
      (comma_apart_clauseKeyword (by simp [clauseKeywords]))
      (c.extraRead_keyword hc (by simp [clauseKeywords])) b

theorem noClause_afterNotNull_of_mem (kw : String) (hkw : kw ∈ ["NOT NULL", "NULL"]) (b : Bool) :
    NoClause kw ((optionalPart " DEFAULT " c.defaultRead).toList ++
      ((optionalPart " " c.autoText).toList ++
        ((optionalPart " " c.extraRead).toList ++ (finalComma b).toList))) := by
  simp only [List.mem_cons, List.not_mem_nil, or_false] at hkw
  rcases hkw with rfl | rfl <;>
    exact noClause_afterNotNull hc _ (clauseKeywords_apart.2.1 _ (by simp))
      (clauseKeywords_apart.1 _ (by simp)) (comma_apart_clauseKeyword (by simp [clauseKeywords]))
      (c.extraRead_keyword hc (by simp [clauseKeywords])) b

theorem noClause_afterZerofill_of_mem (kw : String)
    (hkw : kw ∈ ["ZEROFILL", "CHARACTER SET", "COLLATE"]) (b : Bool) :
    NoClause kw ((flagText (!c.nullable) "NOT NULL").toList ++
      ((optionalPart " DEFAULT " c.defaultRead).toList ++ ((optionalPart " " c.autoText).toList ++
        ((optionalPart " " c.extraRead).toList ++ (finalComma b).toList)))) := by
  simp only [List.mem_cons, List.not_mem_nil, or_false] at hkw
  rcases hkw with rfl | rfl | rfl <;>
    exact noClause_afterZerofill hc _ (clauseKeywords_apart.2.2.1 _ (by simp))
      (clauseKeywords_apart.2.1 _ (by simp)) (clauseKeywords_apart.1 _ (by simp))
      (comma_apart_clauseKeyword (by simp [clauseKeywords]))
      (c.extraRead_keyword hc (by simp [clauseKeywords])) b

theorem noClause_afterUnsigned_unsigned (b : Bool) :
    NoClause "UNSIGNED" ((flagText c.zerofill "zerofill").toList ++
      ((flagText (!c.nullable) "NOT NULL").toList ++
        ((optionalPart " DEFAULT " c.defaultRead).toList ++ ((optionalPart " " c.autoText).toList ++
          ((optionalPart " " c.extraRead).toList ++ (finalComma b).toList))))) :=
  noClause_afterUnsigned hc "UNSIGNED" clauseKeywords_apart.2.2.2
    (clauseKeywords_apart.2.2.1 _ (by simp)) (clauseKeywords_apart.2.1 _ (by simp))
    (clauseKeywords_apart.1 _ (by simp)) (comma_apart_clauseKeyword (by simp [clauseKeywords]))
    (c.extraRead_keyword hc (by simp [clauseKeywords])) b

/-- The default clause reads the written default first whole, and is skipped where none is
written. -/
theorem head?_ways_defaultPart (b : Bool) {n : Nat} {cur : Cursor n}
    (hcur : cur.rest = (optionalPart " DEFAULT " c.defaultRead).toList ++
      ((optionalPart " " c.autoText).toList ++
        ((optionalPart " " c.extraRead).toList ++ (finalComma b).toList)))
    (caps : Captures) :
    ((valueClause "DEFAULT" "default" Grammar.defaultValue).opt.ways cur caps).head? =
      some (cur.skip (optionalPart " DEFAULT " c.defaultRead).length,
        clauseCaptures "default" ("DEFAULT".length + 2) c.defaultRead cur.pos ++ caps) := by
  have hlead : " " ++ "DEFAULT" ++ " " = " DEFAULT " := by simp
  have hend : TokenEnd ((optionalPart " " c.autoText).toList ++
      ((optionalPart " " c.extraRead).toList ++ (finalComma b).toList)) :=
    tokenEnd_optionalPart rfl _ (tokenEnd_optionalPart rfl _ (tokenEnd_finalComma b))
  rw [← hlead]
  refine head?_ways_valueClause "default" (clauseWords_fold.1 _ (by simp)) (by simp) (by simp)
    c.defaultRead (fun v hv => ?_)
    (fun _ => noClause_afterDefault_of_mem hc "DEFAULT" (by simp) b)
    (by rw [hlead]; exact hcur) caps
  obtain ⟨x, r, hvx, hx⟩ := defaultRead_head hv
  refine ⟨by simpa [hvx] using hx, by simp [← String.toList_eq_nil_iff, hvx], ?_⟩
  intro cur' caps' hcur'
  exact head?_ways_defaultRead hc hv hend
    (fun hj hbare => noClause_afterDefault hc "ON UPDATE " (clauseKeywords_apart.1 _ (by simp))
      (comma_apart_clauseKeyword (by simp [clauseKeywords])) (extraRead_onUpdate hj hbare) b)
    hcur' caps'

/-- The `AUTO_INCREMENT` flag reads the extra text whole where it is the flag, and is skipped
where it is not. -/
theorem head?_ways_autoincrPart (b : Bool) {n : Nat} {cur : Cursor n}
    (hcur : cur.rest = (optionalPart " " c.autoText).toList ++
      ((optionalPart " " c.extraRead).toList ++ (finalComma b).toList))
    (caps : Captures) :
    ((flagClause "autoincr" "AUTO_INCREMENT").opt.ways cur caps).head? =
      some (cur.skip (optionalPart " " c.autoText).length,
        clauseCaptures "autoincr" 1 c.autoText cur.pos ++ caps) := by
  cases ha : c.autoText with
  | none =>
    have h := head?_ways_flagClause "autoincr" (w := "AUTO_INCREMENT")
      (clauseWords_fold.1 _ (by simp)) rfl (by simp) (by simp) false
      (fun _ => noClause_extraPart hc "AUTO_INCREMENT"
        (comma_apart_clauseKeyword (by simp [clauseKeywords])) (extraRead_autoIncrement hc) b)
      (by simpa [ha, optionalPart, flagText] using hcur) caps
    simpa [optionalPart, flagText] using h
  | some e =>
    -- the extra text is the flag, in any case
    obtain ⟨hex, hne, hauto, -⟩ := c.mem_autoText (ha ▸ rfl : e ∈ c.autoText)
    simp only [isAutoIncrement, Bool.and_eq_true, beq_iff_eq] at hauto
    have h := head?_ways_flagClause "autoincr" (w := e)
      hauto.2 hauto.1 hne (hc.extra_space e hex) true (fun h => absurd h (by decide))
      (by simpa [ha, optionalPart, flagText] using hcur) caps
    simpa [optionalPart, flagText] using h

omit hc in
/-- What follows the argument list starts with a space, a comma or nothing. -/
theorem tokenEnd_afterArgs (b : Bool) :
    TokenEnd ((flagText c.unsigned "unsigned").toList ++
      ((flagText c.zerofill "zerofill").toList ++ ((flagText (!c.nullable) "NOT NULL").toList ++
        ((optionalPart " DEFAULT " c.defaultRead).toList ++ ((optionalPart " " c.autoText).toList ++
          ((optionalPart " " c.extraRead).toList ++ (finalComma b).toList)))))) :=
  tokenEnd_flagText _ _ (tokenEnd_flagText _ _ (tokenEnd_flagText _ _
    (tokenEnd_optionalPart rfl _ (tokenEnd_optionalPart rfl _
      (tokenEnd_optionalPart rfl _ (tokenEnd_finalComma b))))))

/-- The clauses after the type word read a written tail first whole, each written part by its
clause and each clause that is not written skipped. -/
theorem head?_ways_columnTail (b : Bool) {n : Nat} {cur : Cursor n}
    (hcur : cur.rest = (c.tailText ++ finalComma b).toList) (caps : Captures) :
    (columnTail.ways cur caps).head? =
      some (cur.skip (c.tailText ++ finalComma b).length, c.tailCaptures b cur.pos ++ caps) := by
  have hsplit : cur.rest = c.args.text.toList ++ ((flagText c.unsigned "unsigned").toList ++
      ((flagText c.zerofill "zerofill").toList ++ ((flagText (!c.nullable) "NOT NULL").toList ++
        ((optionalPart " DEFAULT " c.defaultRead).toList ++ ((optionalPart " " c.autoText).toList ++
          ((optionalPart " " c.extraRead).toList ++ (finalComma b).toList)))))) := by
    rw [hcur]
    simp only [tailText, String.toList_append, List.append_assoc]
  -- where each clause starts
  have hc₁ := Cursor.skip_text_rest hsplit
  have hc₂ := Cursor.skip_text_rest hc₁
  have hc₃ := Cursor.skip_text_rest hc₂
  have hc₄ := Cursor.skip_text_rest hc₃
  have hc₅ := Cursor.skip_text_rest hc₄
  have hc₆ := Cursor.skip_text_rest hc₅
  have hend := tokenEnd_afterArgs (c := c) b
  -- the clauses in turn, each for any groups recorded before it; a clause that is not written
  -- is skipped since no clause of its keyword starts the text after its boundary
  have h₁ := head?_ways_argList c.args hc.args_ne
    (fun _ => by rcases hend with h | h | h <;> simp [h]) hsplit caps
  have h₂ := fun caps => head?_ways_flagClause "unsigned" (w := "unsigned")
    clauseWords_fold.2.1 (by simp [← String.length_toList]) (by simp) (by simp) c.unsigned
    (fun _ => noClause_afterUnsigned_unsigned hc b) hc₁ caps
  have h₃ := fun caps => head?_ways_flagClause "zerofill" (w := "zerofill")
    clauseWords_fold.2.2.1 (by simp [← String.length_toList]) (by simp) (by simp) c.zerofill
    (fun _ => noClause_afterZerofill_of_mem hc "ZEROFILL" (by simp) b) hc₂ caps
  -- no character set, no collation and no generating expression is written
  have h₄ := fun caps => head?_ways_opt_of_nil (ways_valueClause_eq_nil "charset"
    (plus (oneOf [.word, .char '_']))
    (hc₃ ▸ noClause_afterZerofill_of_mem hc "CHARACTER SET" (by simp) b) caps)
  have h₅ := fun caps => head?_ways_opt_of_nil (ways_valueClause_eq_nil "collate"
    (plus (oneOf [.word, .char '_']))
    (hc₃ ▸ noClause_afterZerofill_of_mem hc "COLLATE" (by simp) b) caps)
  have h₆ := fun caps => head?_ways_notNullClause (!c.nullable)
    (fun _ => ⟨noClause_afterNotNull_of_mem hc "NOT NULL" (by simp) b,
      noClause_afterNotNull_of_mem hc "NULL" (by simp) b⟩) hc₃ caps
  have h₇ := fun caps => head?_ways_defaultPart hc b hc₄ caps
  have h₈ := fun caps => head?_ways_opt_of_nil (ways_generated_eq_nil
    (hc₅ ▸ noClause_afterDefault_of_mem hc "AS" (by simp) b)
    (hc₅ ▸ noClause_afterDefault_of_mem hc "GENERATED" (by simp) b) caps)
  have h₉ := fun caps => head?_ways_autoincrPart hc b hc₅ caps
  -- nor a comment, a column format or a storage
  have h₁₀ := fun caps => head?_ways_opt_of_nil (ways_columnCommentClause_eq_nil
    (hc₆ ▸ noClause_extraPart_of_mem hc "COMMENT" (by simp [clauseKeywords]) b) caps)
  have h₁₁ := fun caps => head?_ways_opt_of_nil (ways_valueClause_eq_nil "colfmt" word
    (hc₆ ▸ noClause_extraPart_of_mem hc "COLUMN_FORMAT" (by simp [clauseKeywords]) b) caps)
  have h₁₂ := fun caps => head?_ways_opt_of_nil (ways_valueClause_eq_nil "storage" word
    (hc₆ ▸ noClause_extraPart_of_mem hc "STORAGE" (by simp [clauseKeywords]) b) caps)
  have hp := head?_ways_append_of_head? (head?_ways_append_of_head? (head?_ways_append_of_head?
    (head?_ways_append_of_head? (head?_ways_append_of_head? (head?_ways_append_of_head?
      (head?_ways_append_of_head? (head?_ways_append_of_head? (head?_ways_append_of_head?
        (head?_ways_append_of_head? (head?_ways_append_of_head? h₁ (h₂ _)) (h₃ _)) (h₄ _))
          (h₅ _)) (h₆ _)) (h₇ _)) (h₈ _)) (h₉ _)) (h₁₀ _)) (h₁₁ _)) (h₁₂ _)
  refine (head?_ways_columnLineEnd hp c.extraRead (fun e he => ?_) b
    (by rw [String.toList_append]; exact hc₆)).trans ?_
  · obtain ⟨hex, hne, -, -⟩ := c.mem_extraRead he
    exact ⟨by simpa using hne, hc.extra_space e hex, (hc.extra_line e hex).1⟩
  -- the groups, each where its clause starts
  rw [Cursor.skip_text_pos hc₅, Cursor.skip_text_pos hc₄, Cursor.skip_text_pos hc₃,
    Cursor.skip_text_pos hc₂, Cursor.skip_text_pos hc₁, Cursor.skip_text_pos hsplit]
  simp only [Cursor.skip_skip, tailText, tailCaptures, String.length_append, List.append_assoc,
    Nat.add_assoc]

end DescribeColumn

end TableDdl

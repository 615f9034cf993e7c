import TableDdl.Proofs.Matching.Languages

/-!
# The characters of the grammars

The grammars of the lines name a few dozen characters: the capital letters and the underscore of
their keywords, and the punctuation around names, values and clauses. What the Unicode tables say
about these characters is read off the tables here, in one evaluation: each folds onto itself
alone among them (`mem_foldOrbit_grammar`), the punctuation has no other case at all
(`caseless_punctuation`), the space and the line feed are the white space among them
(`whiteSpace_grammar`), the punctuation is what is not a word character (`word_grammar`), none is
a digit (`digit_grammar`) while the decimal digits are (`digit_decimal`), and the keywords match
themselves without regard to case (`foldPrefix_grammarWord`). Over these characters, matching
without regard to case is matching as written (`foldPrefix_iff_prefix_grammar`).
-/

namespace TableDdl.Unicode

/-- The punctuation of the grammars and of the lines they read, the quotes of the preset
conventions among it. -/
def punctuation : List Char :=
  [' ', '\n', '`', '"', '\'', ',', '.', '(', ')', '=', '/', '*', '\\']

/-- The characters that the grammars name: the capital letters and the underscore of their
keywords, and the punctuation. -/
def grammarChars : List Char := "ABCDEFGHIJKLMNOPQRSTUVWXYZ_".toList ++ punctuation

/-- The decimal digits. -/
def decimalDigits : List Char := "0123456789".toList

/-- The texts that the grammars read as literals. -/
def grammarWords : List String :=
  [" ", "  ", "(", ")", ",", "'", "''", "/*", "*/", "KEY", "USING", "KEY_BLOCK_SIZE",
    "WITH PARSER", "COMMENT", "CHECK", "  CONSTRAINT", "FOREIGN KEY", ") REFERENCES", "MATCH ",
    "RESTRICT", "CASCADE", "SET NULL", "NO ACTION", " STORAGE DISK", "ON DELETE ", "ON UPDATE "]

/-- What the tables say about the characters and keywords of the grammars. -/
theorem grammar_tables :
    (∀ x ∈ grammarChars, ∀ y ∈ grammarChars, (foldOrbit x).contains y = (y == x)) ∧
    (∀ x ∈ punctuation, foldOrbit x = [x]) ∧
    (∀ x ∈ grammarChars, whiteSpace.contains x = (x == ' ' || x == '\n')) ∧
    (∀ x ∈ grammarChars, word.contains x = !punctuation.contains x) ∧
    (∀ x ∈ grammarChars, digit.contains x = false) ∧
    (∀ x ∈ decimalDigits, digit.contains x = true) ∧
    ∀ w ∈ grammarWords, foldPrefix w.toList w.toList = true := by
  -- one boolean for the whole table, so that the kernel reads each orbit once
  have h : ((grammarChars.all fun x => grammarChars.all fun y =>
      (foldOrbit x).contains y == (y == x)) &&
      (punctuation.all fun x => foldOrbit x == [x]) &&
      (grammarChars.all fun x => whiteSpace.contains x == (x == ' ' || x == '\n')) &&
      (grammarChars.all fun x => word.contains x == !punctuation.contains x) &&
      (grammarChars.all fun x => !digit.contains x) &&
      (decimalDigits.all fun x => digit.contains x) &&
      grammarWords.all fun w => foldPrefix w.toList w.toList) = true := by
    unfold grammarChars punctuation decimalDigits grammarWords
    simp only [String.reduceToList, List.cons_append, List.nil_append]
    decide +kernel
  simpa only [Bool.and_eq_true, List.all_eq_true, beq_iff_eq, Bool.not_eq_true', and_assoc]
    using h

theorem mem_foldOrbit_grammar {x y : Char} (hx : x ∈ grammarChars) (hy : y ∈ grammarChars) :
    y ∈ foldOrbit x ↔ y = x := by
  rw [← List.contains_iff_mem, grammar_tables.1 x hx y hy, beq_iff_eq]

theorem not_mem_foldOrbit_grammar {x y : Char} (hx : x ∈ grammarChars) (hy : y ∈ grammarChars)
    (hne : y ≠ x) : y ∉ foldOrbit x :=
  fun h => hne ((mem_foldOrbit_grammar hx hy).1 h)

theorem caseless_punctuation {x : Char} (hx : x ∈ punctuation) : Caseless x :=
  grammar_tables.2.1 x hx

theorem whiteSpace_grammar {x : Char} (hx : x ∈ grammarChars) :
    whiteSpace.contains x = (x == ' ' || x == '\n') :=
  grammar_tables.2.2.1 x hx

theorem word_grammar {x : Char} (hx : x ∈ grammarChars) :
    word.contains x = !punctuation.contains x :=
  grammar_tables.2.2.2.1 x hx

theorem digit_grammar {x : Char} (hx : x ∈ grammarChars) : digit.contains x = false :=
  grammar_tables.2.2.2.2.1 x hx

theorem digit_decimal {x : Char} (hx : x ∈ decimalDigits) : digit.contains x = true :=
  grammar_tables.2.2.2.2.2.1 x hx

theorem foldPrefix_grammarWord {w : String} (hw : w ∈ grammarWords) :
    foldPrefix w.toList w.toList = true :=
  grammar_tables.2.2.2.2.2.2 w hw

/-- A text of punctuation has no other case, so a literal of it reads itself. -/
theorem all_caseless_punctuation {xs : List Char}
    (hxs : (xs.all fun x => punctuation.contains x) = true) :
    xs.all (fun x => decide (Caseless x)) = true :=
  List.all_eq_true.2 fun x hx =>
    decide_eq_true (caseless_punctuation (List.contains_iff_mem.1 (List.all_eq_true.1 hxs x hx)))

/-- Over the characters of the grammars, matching without regard to case is matching as
written. -/
theorem foldPrefix_iff_prefix_grammar {xs ys : List Char}
    (hxs : (xs.all fun x => grammarChars.contains x) = true)
    (hys : (ys.all fun y => grammarChars.contains y) = true) :
    foldPrefix xs ys = true ↔ xs <+: ys := by
  simp only [List.all_eq_true, List.contains_iff_mem] at hxs hys
  induction xs generalizing ys with
  | nil => simp [foldPrefix]
  | cons x xs ih =>
    cases ys with
    | nil => simp [foldPrefix]
    | cons y ys =>
      have hxy := mem_foldOrbit_grammar (hxs x List.mem_cons_self) (hys y List.mem_cons_self)
      have hrest := ih (fun z hz => hxs z (List.mem_cons_of_mem x hz))
        (fun z hz => hys z (List.mem_cons_of_mem y hz))
      simp only [foldPrefix, Bool.and_eq_true, List.contains_iff_mem, hxy, hrest,
        List.cons_prefix_cons]
      exact ⟨fun h => ⟨h.1.symm, h.2⟩, fun h => ⟨h.1.symm, h.2⟩⟩

theorem foldPrefix_eq_false_grammar {xs ys : List Char}
    (hxs : (xs.all fun x => grammarChars.contains x) = true)
    (hys : (ys.all fun y => grammarChars.contains y) = true) (h : ¬ xs <+: ys) :
    foldPrefix xs ys = false :=
  Bool.eq_false_iff.2 fun hpre => h ((foldPrefix_iff_prefix_grammar hxs hys).1 hpre)

end TableDdl.Unicode

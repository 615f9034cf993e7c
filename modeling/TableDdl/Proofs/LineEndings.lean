import TableDdl.Proofs.QualifiedNames
import TableDdl.Reader.Table

/-!
# Line endings

A definition written with a carriage return before every line feed reads as the same definition
written with line feeds alone. Reading cuts the text at line feeds and takes one carriage return
off the end of each piece. Writing a carriage return before every line feed adds one to the end
of every piece but the last, which reading takes off again; the last piece is not changed at all.
So the lines agree as long as no piece of the text already ended in a carriage return before a
line feed, that is, as long as the text holds no carriage return followed by a line feed
(`definitionLines_crlf`), and reading, which sees only the lines, gives the same table and the
same warnings (`parse_crlf`).
-/

namespace TableDdl

namespace Text

/-- Replacing a one-character pattern replaces each occurrence of the character on its own. -/
theorem replaceNonempty_singleton (p : Char) (rep : List Char) (h : [p] ≠ []) (s : List Char) :
    replaceNonempty [p] rep h s = s.flatMap fun c => if c = p then rep else [c] := by
  induction s with
  | nil => simp
  | cons c r ih =>
    by_cases hc : c = p
    · subst hc
      rw [replaceNonempty_of_startsWith h (by simp)]
      simp [ih]
    · rw [replaceNonempty_cons_of_not_startsWith h (by simp [Ne.symm hc])]
      simp [hc, ih]

/-- `occursIn` is the infix relation of lists. -/
theorem occursIn_eq_true_iff (pat s : List Char) : occursIn pat s = true ↔ pat <:+: s := by
  induction s with
  | nil => simp [occursIn, List.infix_nil]
  | cons c r ih => simp [occursIn, List.infix_cons_iff, List.isPrefixOf_iff_prefix, ih]

/-- A text without the separator is one piece. -/
theorem splitChars_of_not_mem {sep : Char} {s : List Char} (h : sep ∉ s) :
    splitChars sep s = [s] := by
  induction s with
  | nil => rfl
  | cons c r ih =>
    have hc : c ≠ sep := fun hc => h (hc ▸ List.mem_cons_self)
    have hr : sep ∉ r := fun hr => h (List.mem_cons_of_mem c hr)
    simp [splitChars, hc, ih hr]

/-- A carriage return written at the end of a text is taken off again. -/
theorem dropFinalReturn_append_return (a : List Char) :
    dropFinalReturn (String.ofList (a ++ ['\r'])) = String.ofList a := by
  simp [dropFinalReturn]

/-- A text that does not end in a carriage return is kept. -/
theorem dropFinalReturn_of_getLast? {a : List Char} (h : a.getLast? ≠ some '\r') :
    dropFinalReturn (String.ofList a) = String.ofList a := by
  unfold dropFinalReturn
  split
  · rename_i hlast
    exact absurd (by simpa using hlast) h
  · rfl

/-- Each line feed written as a carriage return and a line feed. -/
def crlfChar (c : Char) : List Char := if c = '\n' then ['\r', '\n'] else [c]

/-- Writing a carriage return before every line feed of `b`, after a beginning `a` of the current
piece, changes no piece once a carriage return is taken off the end of each piece but the last:
each piece that a line feed ends gains a carriage return, and it had none of its own because the
text holds no carriage return followed by a line feed. -/
theorem splitChars_crlf (a b : List Char) (ha : '\n' ∉ a) (h : ¬ ['\r', '\n'] <:+: a ++ b) :
    (splitChars '\n' (a ++ b.flatMap crlfChar)).map (dropFinalReturn ∘ String.ofList) =
      (splitChars '\n' (a ++ b)).map (dropFinalReturn ∘ String.ofList) := by
  induction b generalizing a with
  | nil => simp
  | cons c b ih =>
    by_cases hc : c = '\n'
    · subst hc
      -- the piece `a` ends here: written with a carriage return, and without one of its own
      have hlast : a.getLast? ≠ some '\r' := by
        intro hl
        obtain ⟨a', rfl⟩ := List.getLast?_eq_some_iff.1 hl
        exact h ⟨a', b, by simp⟩
      have hrest : ¬ ['\r', '\n'] <:+: [] ++ b := fun hb =>
        h (hb.trans (List.infix_append (a ++ ['\n']) b []) |>.trans (by simp))
      have hwritten : a ++ List.flatMap crlfChar ('\n' :: b) =
          (a ++ ['\r']) ++ '\n' :: b.flatMap crlfChar := by
        simp [crlfChar]
      have hsep : '\n' ∉ a ++ ['\r'] := by simp [ha]
      rw [hwritten, splitChars_append_sep, splitChars_append_sep, splitChars_of_not_mem hsep,
        splitChars_of_not_mem ha, List.map_append, List.map_append]
      simp only [List.map_cons, List.map_nil, Function.comp_apply, dropFinalReturn_append_return,
        dropFinalReturn_of_getLast? hlast, List.singleton_append]
      simpa using congrArg (String.ofList a :: ·) (ih [] (List.not_mem_nil) hrest)
    · -- the character joins the current piece in both texts
      have hwritten : a ++ List.flatMap crlfChar (c :: b) = (a ++ [c]) ++ b.flatMap crlfChar := by
        simp [crlfChar, hc]
      rw [hwritten, show a ++ c :: b = (a ++ [c]) ++ b by simp]
      apply ih (a ++ [c]) (by simp [ha, Ne.symm hc])
      simpa using h

/-- The lines of a text with a carriage return written before every line feed are the lines of
the text, when the text holds no carriage return followed by a line feed. -/
theorem definitionLines_crlf {t : String} (h : contains t "\r\n" = false) :
    Reader.definitionLines (replace t "\n" "\r\n") = Reader.definitionLines t := by
  have hno : ¬ ['\r', '\n'] <:+: [] ++ t.toList := by
    intro hin
    have := (occursIn_eq_true_iff ['\r', '\n'] t.toList).2 (by simpa using hin)
    simp_all [contains]
  have hwritten : (replace t "\n" "\r\n").toList = t.toList.flatMap crlfChar := by
    simp only [replace, String.toList_ofList]
    show replaceChars ['\n'] ['\r', '\n'] t.toList = _
    rw [replaceChars_of_ne (by simp), replaceNonempty_singleton]
    rfl
  simp only [Reader.definitionLines, split, List.map_map, hwritten]
  simpa using splitChars_crlf [] t.toList List.not_mem_nil hno

end Text

namespace Reader

/-- Reading a definition written with a carriage return before every line feed gives the table
and the warnings that reading it with line feeds alone gives, when the definition holds no
carriage return followed by a line feed. -/
theorem parse_crlf (r : Reader) (t cs : String) (ws : List Warning)
    (h : Text.contains t "\r\n" = false) :
    r.parse (Text.replace t "\n" "\r\n") cs ws = r.parse t cs ws := by
  simp only [parse, Text.definitionLines_crlf h]

/-- A two-line definition whose column line ends in a carriage return before the text's end. -/
theorem parse_crlf_two_lines :
    Text.contains "CREATE TABLE `t` (\n  `a` int\r" "\r\n" = false ∧
      mysql.parse (Text.replace "CREATE TABLE `t` (\n  `a` int\r" "\n" "\r\n") "utf8mb4" [] =
        mysql.parse "CREATE TABLE `t` (\n  `a` int\r" "utf8mb4" [] :=
  ⟨by decide +kernel, parse_crlf mysql _ _ _ (by decide +kernel)⟩

end Reader

end TableDdl

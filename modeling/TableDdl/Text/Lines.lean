import TableDdl.Unicode.RangeTable

/-!
# Lines, cells and blanks

Splitting text at a separator character keeps every piece, the empty ones included, so the
pieces joined with the separator give the text back. `lines` is the reading of a text file:
pieces at line feeds, a final empty piece dropped, and a carriage return right before a line
feed removed. Blank means white space in the Unicode sense.

Splitting two texts joined by the separator gives the pieces of the first and then those of the
second (`split_append_sep`).
-/

namespace TableDdl.Text

/-- The pieces of `s` between occurrences of `sep`, all of them, the empty ones included. -/
def splitChars (sep : Char) : List Char → List (List Char)
  | [] => [[]]
  | c :: r =>
    if c = sep then [] :: splitChars sep r
    else match splitChars sep r with
      | [] => [[c]]
      | p :: ps => (c :: p) :: ps

/-- The pieces of `s` between occurrences of `sep`, as texts. -/
def split (sep : Char) (s : String) : List String :=
  (splitChars sep s.toList).map String.ofList

/-- Every text has at least one piece. -/
theorem splitChars_ne_nil (sep : Char) (s : List Char) : splitChars sep s ≠ [] := by
  cases s with
  | nil => simp [splitChars]
  | cons c r =>
    simp only [splitChars]
    split
    · simp
    · split <;> simp

/-- The pieces of two texts joined by the separator are the pieces of the first, then those of
the second. -/
theorem splitChars_append_sep (sep : Char) (a b : List Char) :
    splitChars sep (a ++ sep :: b) = splitChars sep a ++ splitChars sep b := by
  induction a with
  | nil => simp [splitChars]
  | cons c r ih =>
    simp only [List.cons_append, splitChars]
    split
    · simp [ih]
    · rw [ih]
      obtain ⟨p, ps, h⟩ : ∃ p ps, splitChars sep r = p :: ps := by
        cases h : splitChars sep r with
        | nil => exact absurd h (splitChars_ne_nil sep r)
        | cons p ps => exact ⟨p, ps, rfl⟩
      simp [h]

theorem split_append_sep (sep : Char) (a b : String) :
    split sep (a ++ String.singleton sep ++ b) = split sep a ++ split sep b := by
  simp [split, splitChars_append_sep]

/-- The text without one trailing carriage return, if it has one. -/
def dropFinalReturn (s : String) : String :=
  match s.toList.getLast? with
  | some '\r' => String.ofList s.toList.dropLast
  | _ => s

/-- The lines of a text file: the pieces between line feeds, without a last empty piece. A line
that a line feed ends loses the carriage return before it; a last line without a line feed is
kept whole. -/
def lines (s : String) : List String :=
  let pieces := split '\n' s
  match pieces.getLast? with
  | some "" => pieces.dropLast.map dropFinalReturn
  | _ => pieces.dropLast.map dropFinalReturn ++ pieces.getLast?.toList

/-- Whether the character is white space. -/
def isBlankChar (c : Char) : Bool := Unicode.whiteSpace.contains c

/-- Whether the text is empty or all white space. -/
def isBlank (s : String) : Bool := s.toList.all isBlankChar

/-- The text without white space at either end. -/
def trim (s : String) : String :=
  String.ofList ((s.toList.dropWhile isBlankChar).reverse.dropWhile isBlankChar).reverse

/-- The text without any carriage returns at its end. -/
def dropFinalReturns (s : String) : String :=
  String.ofList (s.toList.reverse.dropWhile (· = '\r')).reverse

/-- The words of the text: the maximal runs of characters that are not white space. -/
def words (s : String) : List String :=
  ((s.toList.splitBy fun a b => isBlankChar a == isBlankChar b).filter
    fun w => !w.all isBlankChar).map String.ofList

end TableDdl.Text

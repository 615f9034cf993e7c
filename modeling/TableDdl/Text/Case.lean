import TableDdl.Unicode.Lowercase
import TableDdl.Unicode.Uppercase
import TableDdl.Unicode.Cased
import TableDdl.Unicode.CaseIgnorable

/-!
# Case conversion of text

`lower` and `upper` apply the full Unicode case mappings character by character; one character
may become several (the sharp s becomes `SS`). The capital sigma is the one character whose
small form depends on its neighbours: it becomes the final sigma at the end of a word, that is
when a cased character precedes it and none follows it, case-ignorable characters skipped on
both sides. `sameIgnoringAsciiCase` compares texts folding only the ASCII letters.
-/

namespace TableDdl.Text

/-- Whether the first character that is not case-ignorable is cased. -/
def casedPastIgnorable : List Char → Bool
  | [] => false
  | c :: r => if Unicode.caseIgnorable.contains c then casedPastIgnorable r else Unicode.cased.contains c

/-- Whether a capital sigma between `before` (nearest character first) and `after` ends a
word. -/
def endsWord (before after : List Char) : Bool :=
  casedPastIgnorable before && !casedPastIgnorable after

/-- Lowercases `s`, given the characters before it, nearest first. -/
def lowerAfter : List Char → List Char → List Char
  | _, [] => []
  | before, c :: after =>
    (if c = 'Σ' then [if endsWord before after then 'ς' else 'σ'] else Unicode.lowercase.map c) ++
      lowerAfter (c :: before) after

/-- The full lowercase form of the characters. -/
def lowerChars (s : List Char) : List Char := lowerAfter [] s

/-- The full uppercase form of the characters. -/
def upperChars (s : List Char) : List Char := s.flatMap Unicode.uppercase.map

/-- The full lowercase form of the text. -/
def lower (s : String) : String := String.ofList (lowerChars s.toList)

/-- The full uppercase form of the text. -/
def upper (s : String) : String := String.ofList (upperChars s.toList)

/-- Whether the texts are equal once their ASCII letters are folded to lowercase; other
characters must agree exactly. -/
def sameIgnoringAsciiCase (a b : String) : Bool :=
  a.length == b.length && (a.toList.zip b.toList).all fun (x, y) => x.toLower == y.toLower

end TableDdl.Text

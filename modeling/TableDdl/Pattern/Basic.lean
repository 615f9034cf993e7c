import TableDdl.Unicode.SimpleFold
import TableDdl.Unicode.Word
import TableDdl.Unicode.Digit
import TableDdl.Unicode.RangeTable

/-!
# Patterns over characters

A `Pattern` is a regular expression given as a tree: character classes, concatenation, a
preferred and a fallback alternative, greedy and lazy repetition, named groups and the two
anchors of the subject. Patterns of this library are matched without regard to case, so a
literal character stands for its whole case-fold orbit (`Pattern.literal`), and the classes of
word characters, digits and white space are those of Unicode.
-/

namespace TableDdl

/-- One member of a character class. -/
inductive ClassItem where
  /-- One character. -/
  | char (c : Char)
  /-- Any word character: alphabetic, mark, decimal digit, connector punctuation, join control. -/
  | word
  /-- Any decimal digit of any script. -/
  | digit
  /-- Any white space character. -/
  | space
  deriving Repr, DecidableEq

/-- Whether the item admits `c`. -/
def ClassItem.admits : ClassItem → Char → Bool
  | .char x, c => x == c
  | .word, c => Unicode.word.contains c
  | .digit, c => Unicode.digit.contains c
  | .space, c => Unicode.whiteSpace.contains c

/-- A set of characters: those that some item admits, or, when `negated`, all the others. -/
structure CharClass where
  negated : Bool
  items : List ClassItem
  deriving Repr, DecidableEq

/-- Whether the class holds `c`. -/
def CharClass.admits (k : CharClass) (c : Char) : Bool :=
  k.negated != k.items.any (·.admits c)

/-- The class of the given items, each literal character widened to its case-fold orbit. -/
def CharClass.anyOf (items : List ClassItem) : CharClass :=
  ⟨false, items.flatMap fun
    | .char c => (Unicode.foldOrbit c).map .char
    | i => [i]⟩

/-- The complement of `CharClass.anyOf items`. -/
def CharClass.noneOf (items : List ClassItem) : CharClass :=
  { CharClass.anyOf items with negated := true }

/-- A regular expression over characters, with named groups. -/
inductive Pattern where
  /-- Matches the empty text. -/
  | empty
  /-- Matches one character of the class. -/
  | chars (k : CharClass)
  /-- Matches the first pattern, then the second. -/
  | seq (p q : Pattern)
  /-- Matches the first pattern, or, if the rest of the match then fails, the second. -/
  | alt (p q : Pattern)
  /-- Matches the pattern any number of times, as often as possible when `greedy` and as
  seldom as possible otherwise. An iteration that consumes nothing does not count. -/
  | star (greedy : Bool) (p : Pattern)
  /-- Matches the pattern and records the matched span under the name. -/
  | group (name : String) (p : Pattern)
  /-- Matches the empty text at the start of the subject. -/
  | atStart
  /-- Matches the empty text at the end of the subject. -/
  | atEnd
  deriving Repr

namespace Pattern

instance : Append Pattern := ⟨Pattern.seq⟩

/-- One or more repetitions, greedy. -/
def plus (p : Pattern) : Pattern := p ++ .star true p

/-- One or more repetitions, lazy. -/
def plusLazy (p : Pattern) : Pattern := p ++ .star false p

/-- Zero or more repetitions, greedy. -/
def many (p : Pattern) : Pattern := .star true p

/-- Zero or more repetitions, lazy. -/
def manyLazy (p : Pattern) : Pattern := .star false p

/-- The pattern or nothing, the pattern preferred. -/
def opt (p : Pattern) : Pattern := .alt p .empty

/-- One character of the given items, literal ones without regard to case. -/
def oneOf (items : List ClassItem) : Pattern := .chars (CharClass.anyOf items)

/-- One character that none of the items admits, literal ones compared without regard to
case. -/
def noneOf (items : List ClassItem) : Pattern := .chars (CharClass.noneOf items)

/-- The characters of the text in order, each without regard to case. -/
def literal (s : String) : Pattern :=
  s.toList.foldr (fun c p => oneOf [.char c] ++ p) .empty

/-- Alternatives in order of preference; the empty list matches nothing. -/
def firstOf : List Pattern → Pattern
  | [] => oneOf []
  | [p] => p
  | p :: ps => .alt p (firstOf ps)

/-- One word character. -/
def wordChar : Pattern := oneOf [.word]

/-- One decimal digit. -/
def digit : Pattern := oneOf [.digit]

/-- One white space character. -/
def space : Pattern := oneOf [.space]

/-- One character that is not white space. -/
def nonSpace : Pattern := noneOf [.space]

/-- Any character but a line feed. -/
def anyChar : Pattern := noneOf [.char '\n']

/-- One or more spaces (the character U+0020, not any white space). -/
def spaces : Pattern := plus (literal " ")

end Pattern

end TableDdl

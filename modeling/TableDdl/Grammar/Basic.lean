import TableDdl.Pattern.Basic
import TableDdl.Quoting

/-!
# Pieces of the line grammars

The grammars of the lines of a table definition share a few pieces: a quoted identifier of the
convention in force, a single-quoted SQL string with doubled quotes inside, and runs of digits.
They are patterns, matched without regard to case, and a quoted identifier records its body in
the group `name`.
-/

namespace TableDdl.Grammar

open Pattern

/-- One character of a quoted body: the escaped final quote, or any character that is not a
character of the final quote. -/
def bodyChar (q : Quoting) : Pattern :=
  .alt (literal q.escaped) (noneOf (q.final.toList.map .char))

/-- A quoted identifier whose body is recorded in the group `name`. -/
def identifier (q : Quoting) : Pattern :=
  literal q.initial ++ .group "name" (plus (bodyChar q)) ++ literal q.final

/-- A quoted identifier with a body of characters that are not final-quote characters, escapes
not admitted. -/
def plainQuoted (q : Quoting) : Pattern :=
  literal q.initial ++ plus (noneOf (q.final.toList.map .char)) ++ literal q.final

/-- Any character but a single quote. -/
def notQuote : Pattern := noneOf [.char '\'']

/-- The inside of a single-quoted string: doubled quotes and other characters. -/
def stringBody : Pattern := many (.alt (literal "''") notQuote)

/-- A single-quoted string, doubled quotes inside. -/
def stringLiteral : Pattern := literal "'" ++ stringBody ++ literal "'"

/-- One or more decimal digits. -/
def digits : Pattern := plus digit

/-- One or more word characters. -/
def word : Pattern := plus wordChar

/-- The first line of a definition, `CREATE [kind] TABLE name (`, the name in `name`. -/
def tableName (q : Quoting) : Pattern :=
  .atStart ++ literal "CREATE " ++ opt (word ++ spaces) ++ literal "TABLE" ++ spaces ++
    identifier q ++ spaces ++ literal "(" ++ .atEnd

end TableDdl.Grammar

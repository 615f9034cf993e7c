import TableDdl.Grammar.Basic

/-!
# The grammar of column lines

A column line is two spaces, the quoted column name, the type word with optional arguments, and
the optional attributes in their fixed order: `UNSIGNED`, `ZEROFILL`, `CHARACTER SET`, `COLLATE`,
`NULL` or `NOT NULL`, `DEFAULT`, a generating expression, `AUTO_INCREMENT`, `COMMENT`,
`COLUMN_FORMAT` and `STORAGE`; any text left over goes to the group `extra`. Each attribute
records its value in a group of its own.

The loose grammar reads only the name, the type word, a simple argument list and a `NOT NULL`
anywhere after them; it is the fallback for lines the full grammar refuses.
-/

namespace TableDdl.Grammar

open Pattern

/-- The argument list of a column type: one number, two numbers with a comma, or quoted
strings, each optionally followed by a comma. -/
def typeArgs : Pattern :=
  firstOf [digits, digits ++ literal "," ++ digits, plus (stringLiteral ++ opt (literal ","))]

/-- A value made of word characters, dots and parentheses. -/
def callWord : Pattern := plus (oneOf [.word, .char '.', .char '(', .char ')'])

/-- A default value: `NULL`, a quoted string, or a word such as `CURRENT_TIMESTAMP(3)`
optionally followed by `ON UPDATE` and another such word. -/
def defaultValue : Pattern :=
  firstOf [literal "NULL", stringLiteral,
    callWord ++ opt (spaces ++ literal "ON UPDATE " ++ callWord)]

/-- A generating expression: `[GENERATED ALWAYS] AS (expr) [VIRTUAL | STORED]`. -/
def generated : Pattern :=
  spaces ++ opt (literal "GENERATED ALWAYS") ++ opt (literal " ") ++ literal "AS" ++ spaces ++
    opt (.group "generated" (literal "(" ++ many anyChar ++ literal ")")) ++ opt (literal " ") ++
    opt (.group "persistence" (.alt (literal "VIRTUAL") (literal "STORED")))

/-- The full grammar of a column line. -/
def column (q : Quoting) : Pattern :=
  .atStart ++ literal "  " ++ identifier q ++ spaces ++ .group "coltype" word ++
    opt (literal "(" ++ .group "arg" typeArgs ++ literal ")") ++
    opt (spaces ++ .group "unsigned" (literal "UNSIGNED")) ++
    opt (spaces ++ .group "zerofill" (literal "ZEROFILL")) ++
    opt (spaces ++ literal "CHARACTER SET" ++ spaces ++ .group "charset" (plus (oneOf [.word, .char '_']))) ++
    opt (spaces ++ literal "COLLATE" ++ spaces ++ .group "collate" (plus (oneOf [.word, .char '_']))) ++
    opt (spaces ++ .group "notnull" (opt (literal "NOT ") ++ literal "NULL")) ++
    opt (spaces ++ literal "DEFAULT" ++ spaces ++ .group "default" defaultValue) ++
    opt generated ++
    opt (spaces ++ .group "autoincr" (literal "AUTO_INCREMENT")) ++
    opt (spaces ++ literal "COMMENT" ++ spaces ++ literal "'" ++ .group "comment" stringBody ++ literal "'") ++
    opt (spaces ++ literal "COLUMN_FORMAT" ++ spaces ++ .group "colfmt" word) ++
    opt (spaces ++ literal "STORAGE" ++ spaces ++ .group "storage" word) ++
    opt (spaces ++ .group "extra" (many anyChar)) ++
    opt (literal ",") ++ .atEnd

/-- The argument list that the loose grammar reads: one number, two numbers with a comma, or
one non-empty quoted string. -/
def looseTypeArgs : Pattern :=
  firstOf [digits, digits ++ literal "," ++ digits,
    literal "'" ++ plus (.alt (literal "''") notQuote) ++ literal "'"]

/-- The loose grammar of a column line. -/
def looseColumn (q : Quoting) : Pattern :=
  .atStart ++ literal "  " ++ identifier q ++ spaces ++ .group "coltype" word ++
    opt (literal "(" ++ .group "arg" looseTypeArgs ++ literal ")") ++
    opt (manyLazy anyChar ++ literal " " ++ .group "notnull" (literal "NOT NULL"))

end TableDdl.Grammar

import TableDdl.Text.Replace

/-!
# Pieces of written definition lines

The lines of a table definition write text values as single-quoted SQL strings. In names,
key comments and literals a quote inside is doubled (`sqlString`); in column comments and table
options a backslash is doubled as well, before the quotes (`escapedSqlString`). An optional part
of a line is written after its lead-in when it is present, and not at all otherwise
(`optionalPart`).
-/

namespace TableDdl.Render

/-- The text as a single-quoted SQL string, each quote inside doubled. -/
def sqlString (s : String) : String :=
  "'" ++ Text.replace s "'" "''" ++ "'"

/-- The text as a single-quoted SQL string, each backslash and then each quote inside
doubled. -/
def escapedSqlString (s : String) : String :=
  sqlString (Text.replace s "\\" "\\\\")

/-- The lead-in followed by the value, or nothing without a value. -/
def optionalPart (leadIn : String) : Option String → String
  | some v => leadIn ++ v
  | none => ""

/-- A final comma, if there is one. -/
def finalComma (present : Bool) : String :=
  if present then "," else ""

end TableDdl.Render

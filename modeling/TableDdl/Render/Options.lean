import TableDdl.Render.Basic
import TableDdl.Grammar.Options

/-!
# Writing table options

`optionText` writes one table option: a directive whose value is a string takes it after an
equals sign as a SQL string with backslashes and quotes doubled, `TABLESPACE` takes its value
after a space, and every other directive takes it after an equals sign as it is.
`optionLineText` writes the line of the table options: a closing parenthesis, a space, and the
options joined by single spaces.
-/

namespace TableDdl.Render

/-- One table option as written. -/
def optionText (directive value : String) : String :=
  if Grammar.stringDirectives.contains directive then directive ++ "=" ++ escapedSqlString value
  else if directive = "TABLESPACE" then directive ++ " " ++ value
  else directive ++ "=" ++ value

/-- The line of the table options, in the order given. -/
def optionLineText (options : List (String × String)) : String :=
  ") " ++ " ".intercalate (options.map fun (d, v) => optionText d v)

end TableDdl.Render

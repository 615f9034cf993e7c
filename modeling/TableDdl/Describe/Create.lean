import TableDdl.Describe.Row
import TableDdl.Quoting
import TableDdl.Text.Replace
import TableDdl.Reader.Table
import TableDdl.Error

/-!
# A table definition from DESCRIBE rows

`createStatement` writes the rows of a DESCRIBE listing as a `CREATE TABLE` statement that the
table reader reads back. Each row becomes a column line: the quoted name, the type, `NOT NULL`
unless the column is nullable, the default and the extra text. A default that mentions
`auto_increment` is left out; a default of a temporal type that starts with `C`, and the default
`NULL`, are written bare; any other default is written as a quoted string.
-/

namespace TableDdl

/-- Whether a type names a timestamp or a datetime. -/
def isTimestampType (colType : String) : Bool :=
  let t := Text.lower colType
  t.startsWith "timestamp" || t.startsWith "datetime"

/-- How a default is written in a column line, if it is written at all. -/
def defaultClause (colType d : String) : List String :=
  if d = "" then []
  else if Text.contains (Text.lower d) "auto_increment" then []
  else if isTimestampType colType && (d.startsWith "C" || d.startsWith "c") then ["DEFAULT", d]
  else if d = "NULL" then ["DEFAULT", d]
  else ["DEFAULT", "'" ++ Text.replace d "'" "''" ++ "'"]

/-- The column line of a row. -/
def DescribeRow.columnLine (q : Quoting) (r : DescribeRow) : String :=
  " ".intercalate <|
    [" ", q.quote r.name, r.colType] ++
    (if r.nullable then [] else ["NOT NULL"]) ++
    (match r.defaultValue with
      | some d => defaultClause r.colType d
      | none => []) ++
    (match r.extra with
      | some e => if e = "" then [] else [e]
      | none => [])

/-- The `CREATE TABLE` statement of the rows. -/
def createStatement (q : Quoting) (table : String) (rows : List DescribeRow) : String :=
  "CREATE TABLE " ++ q.quote table ++ " (\n" ++ ",\n".intercalate (rows.map (·.columnLine q)) ++ "\n) "

end TableDdl

/-! ## Reading a DESCRIBE listing as a table

A DESCRIBE listing is read as its rows, written as the `CREATE TABLE` statement of those rows,
and that statement is read as a table definition.
-/

namespace TableDdl

/-- The `CREATE TABLE` statement of a DESCRIBE listing and the table read from it, or the first
line of the listing that cannot be read. -/
def Reader.describe (r : Reader) (table text charset : String) :
    Except ReflectError (String × Table × List Warning) :=
  match readRows text with
  | .error e => .error (.describeRow e)
  | .ok rows =>
    let ddl := createStatement r.quoting table rows
    let (t, ws) := r.parse ddl charset []
    .ok (ddl, t, ws)

end TableDdl

import TableDdl.Render.Basic
import TableDdl.Quoting

/-!
# Writing column lines

A `ColumnLine` holds the parts of a column line as they are written, and `ColumnLine.text`
writes the line: two spaces, the quoted name, a space and the type word with its arguments,
then, each when present and in this order, `UNSIGNED`, `ZEROFILL`, `CHARACTER SET`, `COLLATE`,
`NULL` or `NOT NULL`, `DEFAULT`, `GENERATED ALWAYS AS` with the expression and `VIRTUAL` or
`STORED`, `AUTO_INCREMENT`, `COMMENT`, `COLUMN_FORMAT` and `STORAGE`, and a final comma.

Type arguments are one number, two numbers, or quoted strings, all between parentheses and
joined by commas. A default is `NULL`, a SQL string, or a token such as `CURRENT_TIMESTAMP(3)`
optionally followed by `ON UPDATE` and another token. A comment is written with backslashes and
quotes doubled.
-/

namespace TableDdl

open Render

/-- The arguments of a column type as written. -/
inductive TypeArgsText where
  | none
  | one (n : Nat)
  | two (n m : Nat)
  /-- Values written as SQL strings. -/
  | strings (values : List String)
  deriving Repr, DecidableEq

/-- The arguments in parentheses, or nothing. -/
def TypeArgsText.text : TypeArgsText → String
  | .none => ""
  | .one n => "(" ++ toString n ++ ")"
  | .two n m => "(" ++ toString n ++ "," ++ toString m ++ ")"
  | .strings vs => "(" ++ ",".intercalate (vs.map sqlString) ++ ")"

/-- A column default as written. -/
inductive DefaultText where
  | null
  /-- A value written as a SQL string. -/
  | literal (s : String)
  /-- A token of word characters, dots and parentheses, optionally followed by `ON UPDATE` and
  another such token. -/
  | token (t : String) (onUpdate : Option String)
  deriving Repr, DecidableEq

/-- The default's text. -/
def DefaultText.text : DefaultText → String
  | .null => "NULL"
  | .literal s => sqlString s
  | .token t u => t ++ optionalPart " ON UPDATE " u

/-- The parts of a column line as written. -/
structure ColumnLine where
  name : String
  typeWord : String
  args : TypeArgsText
  unsigned : Bool
  zerofill : Bool
  charset : Option String
  collate : Option String
  /-- `NOT NULL` when true, `NULL` when false. -/
  notNull : Option Bool
  defaultValue : Option DefaultText
  /-- The generating expression, parentheses included, and whether it is `STORED` rather than
  `VIRTUAL`, if either is written. -/
  generated : Option (String × Option Bool)
  autoIncrement : Bool
  comment : Option String
  columnFormat : Option String
  storage : Option String
  finalComma : Bool
  deriving Repr, DecidableEq

/-- The word of a flag, after a space, when the flag is set. -/
def flagText (set : Bool) (word : String) : String :=
  if set then " " ++ word else ""

/-- The column line with its parts written in order. -/
def ColumnLine.text (q : Quoting) (c : ColumnLine) : String :=
  "  " ++ q.quote c.name ++ " " ++ c.typeWord ++ c.args.text ++
    flagText c.unsigned "UNSIGNED" ++
    flagText c.zerofill "ZEROFILL" ++
    optionalPart " CHARACTER SET " c.charset ++
    optionalPart " COLLATE " c.collate ++
    optionalPart " " (c.notNull.map fun n => if n then "NOT NULL" else "NULL") ++
    optionalPart " DEFAULT " (c.defaultValue.map DefaultText.text) ++
    optionalPart " GENERATED ALWAYS AS " (c.generated.map fun (e, stored) =>
      e ++ optionalPart " " (stored.map fun s => if s then "STORED" else "VIRTUAL")) ++
    flagText c.autoIncrement "AUTO_INCREMENT" ++
    optionalPart " COMMENT " (c.comment.map escapedSqlString) ++
    optionalPart " COLUMN_FORMAT " c.columnFormat ++
    optionalPart " STORAGE " c.storage ++
    Render.finalComma c.finalComma

end TableDdl

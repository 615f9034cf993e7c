import TableDdl.Render.Basic
import TableDdl.Schema.Table
import TableDdl.Quoting

/-!
# Writing foreign key and check lines

A `ForeignKeyLine` holds the parts of a foreign key line as they are written, and
`ForeignKeyLine.text` writes it: `CONSTRAINT` and the quoted name, `FOREIGN KEY` and the local
columns, `REFERENCES`, the referenced table with its schema before a dot, the referenced columns,
then optionally `MATCH` and a word, the action `ON DELETE`, the action `ON UPDATE` and a final
comma. Column lists are quoted names joined by commas.

`Check.lineText` writes a check constraint: `CONSTRAINT`, the quoted name, `CHECK` and the
expression in parentheses.
-/

namespace TableDdl

open Render

/-- The parts of a foreign key line as written. -/
structure ForeignKeyLine where
  name : String
  localColumns : List String
  schema : Option String
  table : String
  foreignColumns : List String
  /-- The word after `MATCH`. -/
  matchWord : Option String
  /-- The words of the action on delete, as written. -/
  onDelete : Option String
  /-- The words of the action on update, as written. -/
  onUpdate : Option String
  finalComma : Bool
  deriving Repr, DecidableEq

/-- Quoted names joined by commas. -/
def Quoting.nameList (q : Quoting) (names : List String) : String :=
  ",".intercalate (names.map q.quote)

/-- The foreign key line with its parts written in order. -/
def ForeignKeyLine.text (q : Quoting) (f : ForeignKeyLine) : String :=
  "  CONSTRAINT " ++ q.quote f.name ++ " FOREIGN KEY (" ++ q.nameList f.localColumns ++
    ") REFERENCES " ++ optionalPart "" (f.schema.map fun s => q.quote s ++ ".") ++
    q.quote f.table ++ " (" ++ q.nameList f.foreignColumns ++ ")" ++
    optionalPart " MATCH " f.matchWord ++
    optionalPart " ON DELETE " f.onDelete ++
    optionalPart " ON UPDATE " f.onUpdate ++
    Render.finalComma f.finalComma

/-- The line of a check constraint, with or without a final comma. -/
def Check.lineText (q : Quoting) (c : Check) (comma : Bool) : String :=
  "  CONSTRAINT " ++ q.quote c.name ++ " CHECK (" ++ c.sqltext ++ ")" ++ Render.finalComma comma

end TableDdl

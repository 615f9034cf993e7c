import TableDdl.Render.Basic
import TableDdl.Schema.Key
import TableDdl.Quoting

/-!
# Writing key lines

`KeyColumn.text` writes one entry of a key's column list: the quoted name, the indexed prefix
length in parentheses and the direction after a space. `KeyColumn.listText` joins the entries
with commas, as a key line holds them between its parentheses.

A `KeyLine` holds the parts of a key line as they are written, each optional part present or
not, and `KeyLine.text` writes the line: two spaces, the kind token and a space, `KEY`, the
quoted name, `USING` and the index type, the column list in parentheses, `USING` again,
`KEY_BLOCK_SIZE` after an equals sign or a space, `WITH PARSER` and the parser, `COMMENT` and
the comment as a SQL string, a versioned comment between `/*` and `*/`, and a final comma.
-/

namespace TableDdl

open Render

/-- An entry of a key's column list as written. -/
def KeyColumn.text (q : Quoting) (c : KeyColumn) : String :=
  q.quote c.name ++ optionalPart "(" (c.length.map fun n => toString n ++ ")") ++
    optionalPart " " c.direction

/-- A key's column list as written: the entries joined by commas. -/
def KeyColumn.listText (q : Quoting) (cs : List KeyColumn) : String :=
  ",".intercalate (cs.map (KeyColumn.text q))

/-- The parts of a key line as written. -/
structure KeyLine where
  /-- The token before `KEY`, such as `PRIMARY`, `UNIQUE` or `FULLTEXT`. -/
  kindToken : Option String
  name : Option String
  usingPre : Option String
  columns : List KeyColumn
  usingPost : Option String
  /-- The key block size, and whether an equals sign rather than a space leads to it. -/
  keyBlockSize : Option (Bool × String)
  parser : Option String
  comment : Option String
  /-- The inside of a versioned comment, such as `!50100 WITH PARSER ngram `. -/
  versionComment : Option String
  finalComma : Bool
  deriving Repr, DecidableEq

/-- The key line with its parts written in order. -/
def KeyLine.text (q : Quoting) (k : KeyLine) : String :=
  "  " ++ (k.kindToken.map (· ++ " ")).getD "" ++ "KEY" ++
    optionalPart " " (k.name.map q.quote) ++
    optionalPart " USING " k.usingPre ++
    " (" ++ KeyColumn.listText q k.columns ++ ")" ++
    optionalPart " USING " k.usingPost ++
    optionalPart " KEY_BLOCK_SIZE"
      (k.keyBlockSize.map fun (equals, size) => (if equals then "=" else " ") ++ size) ++
    optionalPart " WITH PARSER " k.parser ++
    optionalPart " COMMENT " (k.comment.map sqlString) ++
    optionalPart " /*" (k.versionComment.map (· ++ "*/")) ++
    Render.finalComma k.finalComma

end TableDdl

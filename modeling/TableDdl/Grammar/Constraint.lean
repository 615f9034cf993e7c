import TableDdl.Grammar.Basic
import TableDdl.Grammar.Column

/-!
# The grammars of constraint lines

Keys, foreign keys and check constraints each have a line grammar; a line that mentions
`PARTITION` anywhere belongs to the partitioning clause. A key's column list is read by
`keyColumn`, one column at a time, and a versioned comment after a key by `versionedParser`.
-/

namespace TableDdl.Grammar

open Pattern

/-- One or more characters that are neither white space nor a comma. -/
def token : Pattern := plus (noneOf [.space, .char ','])

/-- One entry of a key's column list: a quoted name (`name`), an optional prefix length
(`length`) and an optional direction (`direction`), then a comma or the end of the text. -/
def keyColumn (q : Quoting) : Pattern :=
  identifier q ++ opt (literal "(" ++ .group "length" digits ++ literal ")") ++
    opt (spaces ++ .group "direction" (.alt (literal "ASC") (literal "DESC"))) ++
    .alt (literal ",") .atEnd

/-- A key line: `[kind] KEY [name] [USING t] (columns) [USING t] [KEY_BLOCK_SIZE n]
[WITH PARSER p] [COMMENT '…'] [/*…*/][,]`. -/
def key (q : Quoting) : Pattern :=
  .atStart ++ literal "  " ++ opt (.group "type" (plus nonSpace) ++ literal " ") ++ literal "KEY" ++
    opt (spaces ++ identifier q) ++
    opt (spaces ++ literal "USING" ++ spaces ++ .group "using_pre" token) ++
    spaces ++ literal "(" ++ .group "columns" (plusLazy anyChar) ++ literal ")" ++
    opt (spaces ++ literal "USING" ++ spaces ++ .group "using_post" token) ++
    opt (spaces ++ literal "KEY_BLOCK_SIZE" ++ many (literal " ") ++ opt (oneOf [.char ' ', .char '=']) ++
      many (literal " ") ++ .group "keyblock" token) ++
    opt (spaces ++ literal "WITH PARSER" ++ spaces ++ .group "parser" token) ++
    opt (spaces ++ literal "COMMENT" ++ spaces ++
      .group "comment" (plus (.alt (literal "''") (literal "'" ++ manyLazy notQuote ++ literal "'")))) ++
    opt (spaces ++ literal "/*" ++ .group "version_sql" (plus anyChar) ++ literal "*/" ++ many (literal " ")) ++
    opt (literal ",") ++ .atEnd

/-- The start of a versioned comment, `!version [WITH PARSER p]`, the parser in `parser`. -/
def versionedParser : Pattern :=
  .atStart ++ literal "!" ++ digits ++ literal " " ++
    opt (many (literal " ") ++ literal "WITH PARSER" ++ spaces ++ .group "parser" (plus nonSpace) ++
      many (literal " "))

/-- The referential actions, as a foreign key line spells them. -/
def referentialAction : Pattern :=
  firstOf [literal "RESTRICT", literal "CASCADE", literal "SET NULL", literal "NO ACTION"]

/-- One or more characters other than a closing parenthesis, as few as possible. -/
def columnList : Pattern := plusLazy (noneOf [.char ')'])

/-- A foreign key line: `CONSTRAINT name FOREIGN KEY (local) REFERENCES table (foreign)
[MATCH m] [ON DELETE a] [ON UPDATE a]`. -/
def foreignKey (q : Quoting) : Pattern :=
  .atStart ++ literal "  CONSTRAINT" ++ spaces ++ identifier q ++ spaces ++
    literal "FOREIGN KEY" ++ spaces ++ literal "(" ++ .group "local" columnList ++ literal ") REFERENCES" ++
    spaces ++ .group "table" (plainQuoted q ++ opt (literal "." ++ plainQuoted q)) ++ spaces ++
    literal "(" ++ .group "foreign" columnList ++ literal ")" ++
    opt (spaces ++ .group "match" (literal "MATCH " ++ word)) ++
    opt (spaces ++ literal "ON DELETE " ++ .group "ondelete" referentialAction) ++
    opt (spaces ++ literal "ON UPDATE " ++ .group "onupdate" referentialAction)

/-- A check constraint line: `CONSTRAINT name CHECK (expr)`, the expression in `sqltext`. -/
def check (q : Quoting) : Pattern :=
  .atStart ++ literal "  CONSTRAINT" ++ spaces ++ identifier q ++ spaces ++ literal "CHECK" ++ spaces ++
    literal "(" ++ .group "sqltext" (plus anyChar) ++ literal ")" ++ opt (literal ",")

/-- A line of the partitioning clause: one that mentions `PARTITION`. -/
def partition : Pattern :=
  .atStart ++ many anyChar ++ opt (literal "SUB") ++ literal "PARTITION"

end TableDdl.Grammar

/-! ## The line grammars of a quoting convention

Most line grammars mention quoted identifiers, so they depend on the convention. `LineGrammars`
holds them all for one convention, built once per reading of a definition.
-/

namespace TableDdl

/-- The line grammars that depend on the quoting convention. -/
structure LineGrammars where
  tableName : Pattern
  column : Pattern
  looseColumn : Pattern
  key : Pattern
  keyColumn : Pattern
  foreignKey : Pattern
  check : Pattern

/-- The line grammars of the convention. -/
def LineGrammars.of (q : Quoting) : LineGrammars where
  tableName := Grammar.tableName q
  column := Grammar.column q
  looseColumn := Grammar.looseColumn q
  key := Grammar.key q
  keyColumn := Grammar.keyColumn q
  foreignKey := Grammar.foreignKey q
  check := Grammar.check q

end TableDdl

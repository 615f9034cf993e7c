import TableDdl.Text.Case

/-!
# Keys

An index of a table: its kind, an optional name, the indexed columns with an optional prefix
length and direction, and the options of its definition. `KeyKind.ofToken` reads the kind from
its token without regard to case; a token other than the four known kinds is kept, uppercased.
-/

namespace TableDdl

/-- The kind of a key. -/
inductive KeyKind where
  | primary
  | unique
  | fulltext
  | spatial
  /-- Any other kind, by its uppercased token. -/
  | other (token : String)
  deriving Repr, DecidableEq

namespace KeyKind

/-- The kind named by the token, compared after uppercasing. -/
def ofToken (token : String) : KeyKind :=
  match Text.upper token with
  | "PRIMARY" => .primary
  | "UNIQUE" => .unique
  | "FULLTEXT" => .fulltext
  | "SPATIAL" => .spatial
  | upper => .other upper

/-- The kind's token, uppercase. -/
def token : KeyKind → String
  | .primary => "PRIMARY"
  | .unique => "UNIQUE"
  | .fulltext => "FULLTEXT"
  | .spatial => "SPATIAL"
  | .other t => t

end KeyKind

/-- A column of a key: its name, the length of an indexed prefix and a direction. -/
structure KeyColumn where
  name : String
  length : Option Nat
  /-- `ASC` or `DESC`, uppercased. -/
  direction : Option String
  deriving Repr, DecidableEq

/-- An index of a table. -/
structure Key where
  kind : Option KeyKind
  name : Option String
  /-- The index type given before the column list. -/
  usingPre : Option String
  columns : List KeyColumn
  /-- The index type given after the column list. -/
  usingPost : Option String
  keyBlockSize : Option String
  /-- The full-text parser. -/
  parser : Option String
  comment : Option String
  /-- The text of a versioned comment after the definition, such as `!50100 …`. -/
  versionSql : Option String
  deriving Repr, DecidableEq

end TableDdl

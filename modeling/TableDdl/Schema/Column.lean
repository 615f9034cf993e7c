import TableDdl.TypeKind

/-!
# Columns

A column has a name, a type and the attributes of its definition: nullability, default,
comment, a generating expression, storage hints and whatever text the grammar did not take
apart (`extra`). A column is `degraded` when only its name, type and nullability could be read.
-/

namespace TableDdl

/-- An argument of a column type: a number, or a literal kept as written. -/
inductive TypeArg where
  | num (n : Nat)
  | text (s : String)
  deriving Repr, DecidableEq

/-- The type of a column. -/
structure ColumnType where
  /-- The type token, lowercased. -/
  name : String
  kind : TypeKind
  args : List TypeArg
  unsigned : Bool
  zerofill : Bool
  charset : Option String
  collation : Option String
  /-- The fractional seconds precision of a temporal type. -/
  fsp : Option Nat
  /-- Whether a set admits the empty value, so that its values are best read as bits. -/
  retrieveAsBitwise : Bool
  deriving Repr, DecidableEq

/-- The expression that generates a column, and whether its values are stored. -/
structure Computed where
  sqltext : String
  persisted : Option Bool
  deriving Repr, DecidableEq

/-- A column of a table. -/
structure Column where
  name : String
  type : ColumnType
  nullable : Bool
  /-- Whether the column counts automatically; unknown for a type that is not an integer and
  does not say. -/
  autoincrement : Option Bool
  defaultValue : Option String
  comment : Option String
  computed : Option Computed
  columnFormat : Option String
  storage : Option String
  extra : Option String
  degraded : Bool
  deriving Repr, DecidableEq

end TableDdl

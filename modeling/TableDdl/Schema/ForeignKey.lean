import TableDdl.Text.Case
import TableDdl.Text.Lines

/-!
# Foreign keys

A foreign key names its constraint, the local columns, the referenced table and its columns,
an optional match mode, and what happens on delete and on update. `ReferentialAction.ofText?`
reads an action with any spacing and letter case.
-/

namespace TableDdl

/-- What a foreign key does to referencing rows when the referenced row changes. -/
inductive ReferentialAction where
  | restrict
  | cascade
  | setNull
  | noAction
  deriving Repr, DecidableEq

namespace ReferentialAction

/-- The action's words, uppercase. -/
def text : ReferentialAction → String
  | .restrict => "RESTRICT"
  | .cascade => "CASCADE"
  | .setNull => "SET NULL"
  | .noAction => "NO ACTION"

/-- The action the words name, compared after joining them with single spaces and
uppercasing. -/
def ofText? (s : String) : Option ReferentialAction :=
  match Text.upper (" ".intercalate (Text.words s)) with
  | "RESTRICT" => some .restrict
  | "CASCADE" => some .cascade
  | "SET NULL" => some .setNull
  | "NO ACTION" => some .noAction
  | _ => none

end ReferentialAction

/-- A referenced table, with the schema it was qualified by. -/
structure TableRef where
  schema : Option String
  name : String
  deriving Repr, DecidableEq

/-- A foreign key constraint. -/
structure ForeignKey where
  name : String
  localColumns : List String
  table : TableRef
  foreignColumns : List String
  /-- `MATCH` and the mode's word, as written. -/
  matchMode : Option String
  onDelete : Option ReferentialAction
  onUpdate : Option ReferentialAction
  deriving Repr, DecidableEq

end TableDdl

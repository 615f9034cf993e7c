import TableDdl.Schema.Column
import TableDdl.Schema.Options
import TableDdl.Schema.Key
import TableDdl.Schema.ForeignKey

/-!
# Tables

A `Table` is what a table definition says: its name, the character set of the connection it was
read over, its columns in order, its options, keys, foreign keys, check constraints and the lines
of its partitioning clause.

Adding a constraint appends it to the list of its kind and leaves the rest of the table alone;
the `addConstraint` lemmas say so field by field.
-/

/-! ## Constraint lines

Besides columns, the body of a table definition holds keys, foreign keys, check constraints and
partitioning clauses. A `Constraint` is what one such line defines.
-/

namespace TableDdl

/-- A check constraint: its name and its expression as written. -/
structure Check where
  name : String
  sqltext : String
  deriving Repr, DecidableEq

/-- What a constraint line of a table definition defines. -/
inductive Constraint where
  | key (k : Key)
  | foreignKey (f : ForeignKey)
  | check (c : Check)
  /-- A line of the partitioning clause, kept verbatim. -/
  | partition (line : String)
  deriving Repr, DecidableEq

end TableDdl

namespace TableDdl

/-- The structure of a table as read from its definition. -/
structure Table where
  name : Option String
  charset : String
  columns : List Column
  options : OptionMap
  keys : List Key
  foreignKeys : List ForeignKey
  checks : List Check
  partitions : List String
  deriving Repr, DecidableEq

namespace Table

/-- The table with nothing read yet, over the given character set. -/
def empty (charset : String) : Table :=
  ⟨none, charset, [], .empty, [], [], [], []⟩

/-- The first column of exactly the given name. -/
def column? (t : Table) (name : String) : Option Column :=
  t.columns.find? (·.name == name)

/-- The first primary key. -/
def primaryKey? (t : Table) : Option Key :=
  t.keys.find? (·.kind == some .primary)

/-- The table with the constraint added to its keys, foreign keys, checks or partitions. -/
def addConstraint (t : Table) : Constraint → Table
  | .key k => { t with keys := t.keys ++ [k] }
  | .foreignKey f => { t with foreignKeys := t.foreignKeys ++ [f] }
  | .check c => { t with checks := t.checks ++ [c] }
  | .partition l => { t with partitions := t.partitions ++ [l] }

/-- The table that reading a second text after a first gives: the second name when the second
text has one, the columns and constraints of the first followed by those of the second, and the
options of the first overwritten by those of the second. -/
def merge (a b : Table) : Table :=
  { name := b.name.or a.name
    charset := a.charset
    columns := a.columns ++ b.columns
    options := a.options.union b.options
    keys := a.keys ++ b.keys
    foreignKeys := a.foreignKeys ++ b.foreignKeys
    checks := a.checks ++ b.checks
    partitions := a.partitions ++ b.partitions }

@[simp] theorem keys_addConstraint_key (t : Table) (k : Key) :
    (t.addConstraint (.key k)).keys = t.keys ++ [k] := rfl

@[simp] theorem foreignKeys_addConstraint_foreignKey (t : Table) (f : ForeignKey) :
    (t.addConstraint (.foreignKey f)).foreignKeys = t.foreignKeys ++ [f] := rfl

@[simp] theorem checks_addConstraint_check (t : Table) (c : Check) :
    (t.addConstraint (.check c)).checks = t.checks ++ [c] := rfl

@[simp] theorem partitions_addConstraint_partition (t : Table) (l : String) :
    (t.addConstraint (.partition l)).partitions = t.partitions ++ [l] := rfl

/-- A constraint leaves the name, the character set, the columns and the options alone. -/
@[simp] theorem columns_addConstraint (t : Table) (c : Constraint) :
    (t.addConstraint c).columns = t.columns := by
  cases c <;> rfl

@[simp] theorem options_addConstraint (t : Table) (c : Constraint) :
    (t.addConstraint c).options = t.options := by
  cases c <;> rfl

@[simp] theorem name_addConstraint (t : Table) (c : Constraint) :
    (t.addConstraint c).name = t.name := by
  cases c <;> rfl

end Table

end TableDdl

import TableDdl.Reader.Values
import TableDdl.Grammar.Constraint
import TableDdl.Schema.Table

/-!
# Reading a constraint line

A constraint line is tried as a key, then as a foreign key, then as a check constraint; a line
that mentions `PARTITION` is kept as a line of the partitioning clause. Any other line defines
nothing.
-/

namespace TableDdl.Reader

/-- A key comment without its outer single quotes, doubled quotes inside made single. -/
def unquoteComment (raw : String) : String :=
  let s := raw.toList
  let inner :=
    match s with
    | '\'' :: r => if r.getLast? = some '\'' then String.ofList r.dropLast else raw
    | _ => raw
  Text.replace inner "''" "'"

/-- The key described by a match of the key grammar. The parser of a versioned comment wins
over a `WITH PARSER` clause, and only the first name of a qualified parser name is kept. -/
def keyOfMatch (g : LineGrammars) (q : Quoting) (s : List Char) (m : Match) : Key :=
  let grp := m.group? s
  let versionSql := grp "version_sql"
  let hidden := versionSql.bind fun sql =>
    (Grammar.versionedParser.find? sql.toList).bind fun v => v.group? sql.toList "parser"
  { kind := (grp "type").map KeyKind.ofToken
    name := (grp "name").map q.unescape
    usingPre := grp "using_pre"
    columns := keyColumns q g.keyColumn ((grp "columns").getD "")
    usingPost := grp "using_post"
    keyBlockSize := grp "keyblock"
    parser := ((hidden.orElse fun _ => grp "parser").map q.splitQualified).bind List.head?
    comment := (grp "comment").map unquoteComment
    versionSql := versionSql }

/-- The referenced table of a foreign key: the last name of the qualified name, and the one
before it as the schema. -/
def tableRef (parts : List String) : TableRef :=
  match parts.reverse with
  | [] => ⟨none, ""⟩
  | [n] => ⟨none, n⟩
  | n :: s :: _ => ⟨some s, n⟩

/-- The foreign key described by a match of the foreign key grammar. -/
def foreignKeyOfMatch (g : LineGrammars) (q : Quoting) (s : List Char) (m : Match) : ForeignKey :=
  let grp := m.group? s
  let names (t : Option String) := (keyColumns q g.keyColumn (t.getD "")).map (·.name)
  { name := q.unescape ((grp "name").getD "")
    localColumns := names (grp "local")
    table := tableRef (q.splitQualified ((grp "table").getD ""))
    foreignColumns := names (grp "foreign")
    matchMode := grp "match"
    onDelete := (grp "ondelete").bind ReferentialAction.ofText?
    onUpdate := (grp "onupdate").bind ReferentialAction.ofText? }

/-- What the constraint line defines, if anything. -/
def readConstraint (g : LineGrammars) (q : Quoting) (line : String) : Option Constraint :=
  let s := line.toList
  match g.key.find? s with
  | some m => some (.key (keyOfMatch g q s m))
  | none =>
    match g.foreignKey.find? s with
    | some m => some (.foreignKey (foreignKeyOfMatch g q s m))
    | none =>
      match g.check.find? s with
      | some m =>
        some (.check ⟨q.unescape ((m.group? s "name").getD ""), (m.group? s "sqltext").getD ""⟩)
      | none => if Grammar.partition.occursIn s then some (.partition line) else none

end TableDdl.Reader

import TableDdl.Reader.Values
import TableDdl.Grammar.Constraint
import TableDdl.TypeRegistry
import TableDdl.Warning

/-!
# Reading a column line

A column line is read with the full grammar, and failing that with the loose one, which gives a
degraded column and a warning. A line that neither accepts gives no column and a warning. The
type token is looked up in the registry; an unknown one gives the family `null` and a warning.

Temporal types with fractional seconds take their first numeric argument as the precision.
Enumerations and sets have their quoted values unquoted, and a set with an empty value is read
as bits.
-/

namespace TableDdl.Reader

/-- A quoted value without its quotes, doubled quotes inside made single. A value that does not
start with a quote is kept; one that starts with a quote and does not end with it becomes empty. -/
def unquoteValue (v : String) : String :=
  match v.toList with
  | c :: r =>
    if c = '\'' ∨ c = '"' then
      let inner := if r.getLast? = some c then r.dropLast else []
      Text.replace (String.ofList inner) (String.ofList [c, c]) (String.ofList [c])
    else v
  | [] => v

/-- The argument with a quoted value unquoted. -/
def unquoteArg : TypeArg → TypeArg
  | .text v => .text (unquoteValue v)
  | a => a

/-- The precision of a temporal type, taken from its first argument when that is a number,
and the arguments that remain. -/
def splitPrecision (kind : TypeKind) (args : List TypeArg) : Option Nat × List TypeArg :=
  if kind.isFractionalTime then
    match args with
    | .num n :: rest => (some n, rest)
    | _ => (none, args)
  else (none, args)

/-- A comment as the grammar captured it, with doubled backslashes and doubled quotes made
single. -/
def unescapeComment (c : String) : String :=
  Text.replace (Text.replace c "\\\\" "\\") "''" "'"

/-- The text without the commas at its end. -/
def dropFinalCommas (s : String) : String :=
  String.ofList (s.toList.reverse.dropWhile (· = ',')).reverse

/-- The column described by a match of a column grammar on the line, and the warning of an
unknown type. `full` tells whether the full grammar matched. -/
def columnOfMatch (q : Quoting) (reg : TypeRegistry) (s : List Char) (m : Match) (full : Bool) :
    Column × List Warning :=
  let grp := m.group? s
  let name := q.unescape ((grp "name").getD "")
  let typeName := (grp "coltype").getD ""
  let (kind, unknown) : TypeKind × List Warning :=
    match reg.resolve typeName with
    | some k => (k, [])
    | none => (.null, [.unrecognizedType name typeName])
  let (fsp, args) := splitPrecision kind (typeArgs (grp "arg"))
  let args := if kind.isEnumerated then args.map unquoteArg else args
  let type : ColumnType :=
    { name := Text.lower typeName
      kind := kind
      args := args
      unsigned := (grp "unsigned").isSome
      zerofill := (grp "zerofill").isSome
      charset := grp "charset"
      collation := grp "collate"
      fsp := fsp
      retrieveAsBitwise := kind.isSet && args.contains (.text "") }
  let column : Column :=
    { name := name
      type := type
      nullable := !((grp "notnull").any fun n => Text.sameIgnoringAsciiCase n "NOT NULL")
      autoincrement :=
        if (grp "autoincr").isSome then some true
        else if kind.isInteger then some false
        else none
      defaultValue := (grp "default").filter fun d => !Text.sameIgnoringAsciiCase d "NULL"
      comment := (grp "comment").map unescapeComment
      computed := (grp "generated").map fun e =>
        { sqltext := e
          persisted := (grp "persistence").map fun p => Text.sameIgnoringAsciiCase p "STORED" }
      columnFormat := grp "colfmt"
      storage := grp "storage"
      extra := ((grp "extra").map dropFinalCommas).filter (· ≠ "")
      degraded := !full }
  (column, unknown)

/-- Reads a column line: the column, if a grammar accepts the line, and the warnings in the
order they arise. -/
def readColumn (g : LineGrammars) (q : Quoting) (reg : TypeRegistry) (line : String) :
    Option Column × List Warning :=
  let s := line.toList
  match g.column.find? s with
  | some m =>
    let (c, ws) := columnOfMatch q reg s m true
    (some c, ws)
  | none =>
    match g.looseColumn.find? s with
    | some m =>
      let (c, ws) := columnOfMatch q reg s m false
      (some c, .incompleteColumnReflection line :: ws)
    | none => (none, [.unknownColumnDefinition line])

end TableDdl.Reader

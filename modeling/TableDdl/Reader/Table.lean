import TableDdl.Reader.Column
import TableDdl.Reader.Constraint
import TableDdl.Reader.Options
import TableDdl.Schema.Table
import TableDdl.Text.Lines

/-!
# Reading a table definition

A `Reader` knows a dialect, a quoting convention and a type registry. It reads the text of a
table definition line by line: the text is cut at line feeds and each line loses one
carriage return at its end. Each line's kind is decided from its first characters alone, and
the line is then read by the grammar of its kind. Reading never fails: what cannot be read
becomes a warning, and the warnings are added, in the order of the lines, after those given.

Because every line is read on its own, reading two texts joined by a line feed reads the first,
then goes on with the second from where the first stopped.
-/

namespace TableDdl

/-- What a line of a table definition holds, judged by its first characters. -/
inductive LineKind where
  | column
  | tableOptions
  | terminator
  | tableName
  | empty
  | constraint
  deriving Repr, DecidableEq

/-- The kind's name in reports. -/
def LineKind.name : LineKind → String
  | .column => "Column"
  | .tableOptions => "TableOptions"
  | .terminator => "Terminator"
  | .tableName => "TableName"
  | .empty => "Empty"
  | .constraint => "Constraint"

/-- What reading a table definition needs: the dialect, which prefixes option names, the
quoting convention and the registry of type names. -/
structure Reader where
  dialect : String
  quoting : Quoting
  registry : TypeRegistry

namespace Reader

/-- MySQL's reader: backtick quoting and MySQL's type names. -/
def mysql : Reader := ⟨"mysql", .backtick, .mysql⟩

/-- The kind of a line: two spaces and an initial quote start a column; a closing parenthesis
and a space start the table options; a closing parenthesis alone ends the body; `CREATE ` starts
the table name line; an empty line is empty; anything else is a constraint. -/
def classify (r : Reader) (line : String) : LineKind :=
  let s := line.toList
  if ("  " ++ r.quoting.initial).toList.isPrefixOf s then .column
  else if ") ".toList.isPrefixOf s then .tableOptions
  else if line = ")" then .terminator
  else if "CREATE ".toList.isPrefixOf s then .tableName
  else if line = "" then .empty
  else .constraint

/-- The options of the table with the options of a line added, each name prefixed by the
dialect. -/
def addOptions (r : Reader) (opts : OptionMap) (line : String) : OptionMap :=
  (Reader.scanOptions line).entries.foldl (fun acc (k, v) => acc.insert (r.dialect ++ "_" ++ k) v) opts

/-- Reads one line into the table and the warnings so far. -/
def readLine (r : Reader) (g : LineGrammars) (acc : Table × List Warning) (line : String) :
    Table × List Warning :=
  let (t, ws) := acc
  match r.classify line with
  | .column =>
    let (c, w) := Reader.readColumn g r.quoting r.registry line
    ({ t with columns := t.columns ++ c.toList }, ws ++ w)
  | .tableOptions => ({ t with options := r.addOptions t.options line }, ws)
  | .tableName =>
    let s := line.toList
    match g.tableName.find? s with
    | some m => ({ t with name := some (r.quoting.unescape ((m.group? s "name").getD "")) }, ws)
    | none => (t, ws)
  | .terminator | .empty => (t, ws)
  | .constraint =>
    match Reader.readConstraint g r.quoting line with
    | some c => (t.addConstraint c, ws)
    | none => (t, ws ++ [.unknownSchemaContent line])

/-- The lines of a definition: the pieces between line feeds, each without one carriage
return at its end. -/
def definitionLines (text : String) : List String :=
  (Text.split '\n' text).map Text.dropFinalReturn

/-- The lines of two texts joined by a line feed are the lines of the first, then those of the
second. -/
theorem definitionLines_append (a b : String) :
    definitionLines (a ++ "\n" ++ b) = definitionLines a ++ definitionLines b := by
  have h : a ++ "\n" ++ b = a ++ String.singleton '\n' ++ b := rfl
  simp only [definitionLines, h, Text.split_append_sep, List.map_append]

/-- Reads a table definition over the given character set; the warnings of the reading follow
`warnings`. -/
def parse (r : Reader) (text charset : String) (warnings : List Warning) : Table × List Warning :=
  let g := LineGrammars.of r.quoting
  (definitionLines text).foldl (r.readLine g) (Table.empty charset, warnings)

end Reader

end TableDdl

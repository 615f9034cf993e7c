import TableDdl.Json
import TableDdl.Schema.Table
import TableDdl.Warning

/-!
# Reports

The JSON form of what reading a table definition gives. Members appear in a fixed order: a
table lists its name, character set, columns, options, keys, foreign keys, check constraints
and partitions. Absent values are `null`; type arguments are numbers or strings; a warning is an
object whose `kind` names it. A report is the table and the warnings together.
-/

namespace TableDdl

namespace Report

/-- A text or `null`. -/
def text? (s : Option String) : Json := Json.ofOption .str s

/-- A type argument. -/
def typeArg : TypeArg → Json
  | .num n => .num n
  | .text s => .str s

/-- A column type. -/
def columnType (t : ColumnType) : Json :=
  .obj [("name", .str t.name), ("kind", .str t.kind.name), ("args", .arr (t.args.map typeArg)),
    ("unsigned", .bool t.unsigned), ("zerofill", .bool t.zerofill), ("charset", text? t.charset),
    ("collation", text? t.collation), ("fsp", Json.ofOption .num t.fsp),
    ("retrieve_as_bitwise", .bool t.retrieveAsBitwise)]

/-- A generating expression. -/
def computed (c : Computed) : Json :=
  .obj [("sqltext", .str c.sqltext), ("persisted", Json.ofOption .bool c.persisted)]

/-- A column. -/
def column (c : Column) : Json :=
  .obj [("name", .str c.name), ("column_type", columnType c.type), ("nullable", .bool c.nullable),
    ("autoincrement", Json.ofOption .bool c.autoincrement), ("default", text? c.defaultValue),
    ("comment", text? c.comment), ("computed", Json.ofOption computed c.computed),
    ("column_format", text? c.columnFormat), ("storage", text? c.storage),
    ("extra", text? c.extra), ("degraded", .bool c.degraded)]

/-- A column of a key. -/
def keyColumn (k : KeyColumn) : Json :=
  .obj [("name", .str k.name), ("length", Json.ofOption .num k.length),
    ("direction", text? k.direction)]

/-- A key. -/
def key (k : Key) : Json :=
  .obj [("kind", Json.ofOption (fun k => .str k.token) k.kind), ("name", text? k.name),
    ("using_pre", text? k.usingPre), ("using_post", text? k.usingPost),
    ("columns", .arr (k.columns.map keyColumn)), ("key_block_size", text? k.keyBlockSize),
    ("parser", text? k.parser), ("comment", text? k.comment), ("version_sql", text? k.versionSql)]

/-- A foreign key. -/
def foreignKey (f : ForeignKey) : Json :=
  .obj [("name", .str f.name), ("local", .arr (f.localColumns.map .str)),
    ("table", .obj [("schema", text? f.table.schema), ("name", .str f.table.name)]),
    ("foreign", .arr (f.foreignColumns.map .str)), ("match_mode", text? f.matchMode),
    ("on_delete", Json.ofOption (fun a => .str a.text) f.onDelete),
    ("on_update", Json.ofOption (fun a => .str a.text) f.onUpdate)]

/-- A check constraint. -/
def check (c : Check) : Json :=
  .obj [("name", .str c.name), ("sqltext", .str c.sqltext)]

/-- A table. -/
def table (t : Table) : Json :=
  .obj [("table_name", text? t.name), ("charset", .str t.charset),
    ("columns", .arr (t.columns.map column)),
    ("table_options", .obj (t.options.entries.map fun (k, v) => (k, .str v))),
    ("keys", .arr (t.keys.map key)), ("fk_constraints", .arr (t.foreignKeys.map foreignKey)),
    ("ck_constraints", .arr (t.checks.map check)), ("partitions", .arr (t.partitions.map .str))]

/-- A warning; with `withMessage`, its sentence is added as `message`. -/
def warning (withMessage : Bool) (w : Warning) : Json :=
  let fields := match w with
    | .unknownSchemaContent l | .unknownColumnDefinition l | .incompleteColumnReflection l =>
      [("line", Json.str l)]
    | .unrecognizedType c t => [("column", .str c), ("type_name", .str t)]
  .obj ((("kind", .str w.kindName) :: fields) ++
    if withMessage then [("message", .str w.message)] else [])

/-- A table and the warnings of its reading. -/
def parsed (withMessage : Bool) (t : Table) (ws : List Warning) : Json :=
  .obj [("table", table t), ("warnings", .arr (ws.map (warning withMessage)))]

end Report

end TableDdl

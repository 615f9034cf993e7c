import TableDdl.Config.Basic
import TableDdl.Toml.Document

/-!
# Configurations in TOML

`Config.ofToml` reads a configuration from a TOML document. Every key may be left out and
then takes its default; keys that a configuration does not know are ignored. A key that is
present must have a value of its shape: `dialect` and `default_charset` strings, `quoting` a
table with a `style` and optional string tokens (or an array of them in that order), and
`types` a table of family names. A style or a family is named by a string, or by a table whose
one key is the name and whose value is empty. `Config.toToml` writes a configuration back, after the
commented header that the written file starts with.
-/

namespace TableDdl

namespace Config

open Toml

/-- The string of a value. -/
def stringOf : Value → Option String
  | .string s => some s
  | _ => none

/-- The name of a choice among named variants: the name as a string, or a table with the name
as its one key and an empty table or array as its value. -/
def variantOf : Value → Option String
  | .string s => some s
  | .table [(k, .table [])] | .table [(k, .array [])] => some k
  | _ => none

/-- The value of an optional key, read by `read`, or `dflt` when the key is absent. -/
def field {α : Type} (es : List (String × Value)) (key : String) (read : Value → Option α)
    (dflt : α) : Option α :=
  match lookup es key with
  | some v => read v
  | none => some dflt

/-- The quoting part of a configuration. -/
def quotingOf : Value → Option QuotingConfig
  | .table es => do
    let style ← (lookup es "style").bind variantOf
    let style ← QuoteStyle.ofName? style
    let initial ← field es "initial" (fun v => (stringOf v).map some) none
    let final ← field es "final" (fun v => (stringOf v).map some) none
    let escapedFinal ← field es "escaped_final" (fun v => (stringOf v).map some) none
    pure ⟨style, initial, final, escapedFinal⟩
  | .array items => do
    let style ← items.head?.bind variantOf
    let style ← QuoteStyle.ofName? style
    let token (i : Nat) : Option (Option String) :=
      match items[i]? with
      | some v => (stringOf v).map some
      | none => some none
    pure ⟨style, ← token 1, ← token 2, ← token 3⟩
  | _ => none

/-- The extra type names of a configuration. -/
def typesOf : Value → Option (List (String × TypeKind))
  | .table es => es.mapM fun (k, v) => do
      let name ← variantOf v
      let kind ← TypeKind.ofName? name
      pure (k, kind)
  | _ => none

/-- The configuration that a TOML root table describes, if its values have the right shapes. -/
def ofTomlTable (es : List (String × Value)) : Option Config := do
  let dialect ← field es "dialect" stringOf default.dialect
  let defaultCharset ← field es "default_charset" stringOf default.defaultCharset
  let quoting ← field es "quoting" quotingOf default.quoting
  let types ← field es "types" typesOf []
  -- the names are the keys of a TOML table, which a document defines once each, so the sorted
  -- names are increasing; the test carries that to the configuration
  if h : (sortTypes types).Pairwise (fun a b => a.1 < b.1) then
    pure ⟨dialect, defaultCharset, quoting, sortTypes types, h⟩
  else none

/-- The configuration written in a TOML text, or the error of a text that is not TOML or not of
the configuration's shape. -/
def ofToml (text : String) : Except ReflectError Config :=
  match (Toml.parse text).bind ofTomlTable with
  | some c => .ok c
  | none => .error .config

/-- A TOML basic string. -/
def tomlString (s : String) : String :=
  "\"" ++ String.ofList (s.toList.flatMap fun c =>
    if c = '"' then ['\\', '"'] else if c = '\\' then ['\\', '\\']
    else if c = '\n' then ['\\', 'n'] else if c = '\t' then ['\\', 't']
    else if c = '\r' then ['\\', 'r'] else [c]) ++ "\""

/-- A TOML key: bare when it can be, else a basic string. -/
def tomlKey (k : String) : String :=
  if !k.isEmpty && k.toList.all Toml.isBareKeyChar then k else tomlString k

/-- The commented header of a written configuration file. -/
def fileHeader : String :=
  "# reflect-cli 配置文件\n" ++
  "#\n" ++
  "# dialect         表选项键的前缀，例如 mysql_engine\n" ++
  "# default_charset 未指定 --charset 时使用的字符集\n" ++
  "# [quoting]       style = \"backtick\" | \"ansi\" | \"custom\"\n" ++
  "#                 custom 时需要 initial / final / escaped_final\n" ++
  "# [types]         额外的类型名 => 类型族，例如 serial = \"integer\"\n" ++
  "\n"

/-- The configuration as TOML: the top-level strings, then the `quoting` and `types` tables. -/
def toToml (c : Config) : String :=
  let token (key : String) : Option String → String
    | some v => key ++ " = " ++ tomlString v ++ "\n"
    | none => ""
  "dialect = " ++ tomlString c.dialect ++ "\n" ++
  "default_charset = " ++ tomlString c.defaultCharset ++ "\n" ++
  "\n[quoting]\n" ++
  "style = " ++ tomlString c.quoting.style.name ++ "\n" ++
  token "initial" c.quoting.initial ++ token "final" c.quoting.final ++
  token "escaped_final" c.quoting.escapedFinal ++
  "\n[types]\n" ++
  String.join (c.types.map fun (k, v) => tomlKey k ++ " = " ++ tomlString v.name ++ "\n")

/-- The text of a configuration file: the header, then the configuration as TOML. -/
def fileText (c : Config) : String := fileHeader ++ c.toToml

end Config

end TableDdl

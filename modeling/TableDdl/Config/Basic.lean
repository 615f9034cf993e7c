import TableDdl.Reader.Table
import TableDdl.Error
import TableDdl.Grammar.Budget

/-!
# Configurations

A configuration names the dialect, whose name prefixes the table options, the character set
used when none is asked for, the quoting style, and extra type names with their families. The
style is a preset (backtick or ANSI) or custom, and a custom style gives its three tokens,
which must form a valid convention. The extra type names are registered over MySQL's in
increasing order of name, so of two names that lowercase alike the greater one wins.
-/

namespace TableDdl

/-- How identifiers are quoted. -/
inductive QuoteStyle where
  | backtick
  | ansi
  | custom
  deriving Repr, DecidableEq

/-- The style's name in configurations. -/
def QuoteStyle.name : QuoteStyle → String
  | .backtick => "backtick"
  | .ansi => "ansi"
  | .custom => "custom"

/-- The style of the given name. -/
def QuoteStyle.ofName? : String → Option QuoteStyle
  | "backtick" => some .backtick
  | "ansi" => some .ansi
  | "custom" => some .custom
  | _ => none

/-- The quoting part of a configuration: a style and, for a custom style, its tokens. -/
structure QuotingConfig where
  style : QuoteStyle
  initial : Option String
  final : Option String
  escapedFinal : Option String
  deriving Repr, DecidableEq

/-- A configuration. -/
structure Config where
  dialect : String
  defaultCharset : String
  quoting : QuotingConfig
  /-- Extra type names and their families. -/
  types : List (String × TypeKind)
  /-- The type names are sorted, each name once, as the keys of a map. -/
  types_sorted : types.Pairwise fun a b => a.1 < b.1
  deriving Repr, DecidableEq

namespace Config

/-- The configuration used when none is given: MySQL, `utf8mb4`, backticks, no extra types. -/
def default : Config :=
  ⟨"mysql", "utf8mb4", ⟨.backtick, none, none, none⟩, [], .nil⟩

/-- Type entries sorted by name. -/
def sortTypes (types : List (String × TypeKind)) : List (String × TypeKind) :=
  types.mergeSort fun a b => !(b.1 < a.1)

/-- The quoting convention of the configuration, or why its tokens do not form one. A custom
style that lacks a token fails before its tokens are checked. -/
def quotingConvention (c : Config) : Except QuotingError Quoting :=
  match c.quoting.style with
  | .backtick => .ok .backtick
  | .ansi => .ok .ansi
  | .custom =>
    match c.quoting.initial, c.quoting.final, c.quoting.escapedFinal with
    | some i, some f, some e => Quoting.make? i f e
    | _, _, _ => .error .incompleteCustom

/-- MySQL's type names with the configuration's registered over them in order of name. -/
def registry (c : Config) : TypeRegistry :=
  TypeRegistry.mysql.registerAll (sortTypes c.types)

/-- The reader of the configuration: it needs a quoting convention whose line grammars fit in
their size limit. -/
def reader (c : Config) : Except ReflectError Reader :=
  match c.quotingConvention with
  | .ok q => if q.grammarsFit then .ok ⟨c.dialect, q, c.registry⟩ else .error .pattern
  | .error e => .error (.invalidQuoting e)

end Config

end TableDdl

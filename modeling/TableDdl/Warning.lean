import TableDdl.Text.Literal

/-!
# Warnings

Reading a table definition never fails; what it cannot read is reported as a `Warning`: a line
that is neither a column nor a known constraint, a column line that the grammar does not accept,
a column read only in part, and a type name that the registry does not know.
-/

namespace TableDdl

/-- Something that reading a table definition could not make sense of. -/
inductive Warning where
  /-- A line of the body that defines no known constraint. -/
  | unknownSchemaContent (line : String)
  /-- A column line that not even the loose grammar accepts. -/
  | unknownColumnDefinition (line : String)
  /-- A column line of which only the name, type and nullability were read. -/
  | incompleteColumnReflection (line : String)
  /-- A column whose type name the registry does not know. -/
  | unrecognizedType (column typeName : String)
  deriving Repr, DecidableEq

namespace Warning

/-- The line the warning is about, if it is about a line. -/
def line? : Warning → Option String
  | .unknownSchemaContent l | .unknownColumnDefinition l | .incompleteColumnReflection l => some l
  | .unrecognizedType _ _ => none

/-- The warning's name in reports. -/
def kindName : Warning → String
  | .unknownSchemaContent _ => "unknown_schema_content"
  | .unknownColumnDefinition _ => "unknown_column_definition"
  | .incompleteColumnReflection _ => "incomplete_column_reflection"
  | .unrecognizedType _ _ => "unrecognized_type"

/-- The warning as a sentence. -/
def message : Warning → String
  | .unknownSchemaContent l => "未知的表结构内容: " ++ Text.literal l
  | .unknownColumnDefinition l => "未知的列定义: " ++ Text.literal l
  | .incompleteColumnReflection l => "列定义反射不完整: " ++ Text.literal l
  | .unrecognizedType c t => "无法识别列 '" ++ c ++ "' 的类型 '" ++ t ++ "'"

end Warning

end TableDdl

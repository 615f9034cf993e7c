/-!
# Type families

Every column type token belongs to a family (`TypeKind`): integers, fixed and floating point
numbers, strings, texts, temporal types and so on. `null` is the family of a type that no
registry knows. The predicates say which families take a fractional seconds precision, which
list their values, and so on; `TypeKind.name` is the family's name in configurations and
reports.
-/

namespace TableDdl

/-- The family of a column type. -/
inductive TypeKind where
  | integer | numeric | float | bit | boolean | string | text | binary | blob
  | date | dateTime | time | timestamp | year | enum | set | json | spatial | null
  deriving Repr, DecidableEq, Inhabited

namespace TypeKind

/-- Every family, in order. -/
def all : List TypeKind :=
  [integer, numeric, float, bit, boolean, string, text, binary, blob,
   date, dateTime, time, timestamp, year, enum, set, json, spatial, null]

/-- The family's name in configurations and reports. -/
def name : TypeKind → String
  | integer => "integer" | numeric => "numeric" | float => "float" | bit => "bit"
  | boolean => "boolean" | string => "string" | text => "text" | binary => "binary"
  | blob => "blob" | date => "date" | dateTime => "date_time" | time => "time"
  | timestamp => "timestamp" | year => "year" | enum => "enum" | set => "set"
  | json => "json" | spatial => "spatial" | null => "null"

/-- The family of the given name, if there is one. -/
def ofName? (s : String) : Option TypeKind :=
  all.find? (·.name == s)

/-- Families whose values may carry fractional seconds. -/
def isFractionalTime : TypeKind → Bool
  | dateTime | time | timestamp => true
  | _ => false

/-- Families whose type arguments list the admitted values. -/
def isEnumerated : TypeKind → Bool
  | enum | set => true
  | _ => false

/-- The family of sets. -/
def isSet : TypeKind → Bool
  | set => true
  | _ => false

/-- The family of integers. -/
def isInteger : TypeKind → Bool
  | integer => true
  | _ => false

end TypeKind

end TableDdl

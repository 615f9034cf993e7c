import TableDdl.TypeKind
import TableDdl.Text.Case

/-!
# Registries of type names

A `TypeRegistry` maps lowercased type names to families; looking a name up lowercases it first,
so `INT`, `Int` and `int` are one name. Registering a name again replaces its family. The
entries keep their names distinct, so the size of a registry is the number of names it knows.
`TypeRegistry.mysql` knows the 43 type names of MySQL.

Resolving a name after registering one gives the registered family when the two names agree
after lowercasing, and the old answer otherwise (`resolve_register`).
-/

namespace TableDdl

/-- Type names, lowercased and distinct, each with its family; the latest registration
first. -/
structure TypeRegistry where
  entries : List (String × TypeKind)
  names_nodup : (entries.map Prod.fst).Nodup

namespace TypeRegistry

/-- The registry that knows no name. -/
def empty : TypeRegistry := ⟨[], by simp⟩

/-- The registry with the lowercased name mapped to the family, replacing its old family. -/
def register (r : TypeRegistry) (name : String) (kind : TypeKind) : TypeRegistry :=
  let key := Text.lower name
  ⟨(key, kind) :: r.entries.filter (·.1 != key), by
    have h := r.names_nodup
    simp only [List.map_cons, List.nodup_cons, List.mem_map, List.mem_filter, not_exists,
      not_and]
    refine ⟨fun x hx hne => by simp_all, ?_⟩
    exact (List.Nodup.sublist (List.Sublist.map _ (List.filter_sublist)) h)⟩

/-- The family of the name, compared after lowercasing. -/
def resolve (r : TypeRegistry) (name : String) : Option TypeKind :=
  let key := Text.lower name
  (r.entries.find? (·.1 == key)).map (·.2)

/-- How many names the registry knows. -/
def size (r : TypeRegistry) : Nat := r.entries.length

/-- Whether the registry knows no name. -/
def isEmpty (r : TypeRegistry) : Bool := r.entries.isEmpty

/-- The registry `base` with the given names registered over it, in order. -/
def registerAll (base : TypeRegistry) (types : List (String × TypeKind)) : TypeRegistry :=
  types.foldl (fun r (n, k) => r.register n k) base

@[simp] theorem resolve_empty (n : String) : empty.resolve n = none := rfl

theorem resolve_register (r : TypeRegistry) (name n : String) (kind : TypeKind) :
    (r.register name kind).resolve n =
      if Text.lower name = Text.lower n then some kind else r.resolve n := by
  simp only [resolve, register, List.find?_cons]
  by_cases h : Text.lower name = Text.lower n
  · simp [h]
  · have hb : (Text.lower name == Text.lower n) = false := by simpa using h
    have hp : (fun a : String × TypeKind =>
        !decide (a.fst = Text.lower name) && decide (a.fst = Text.lower n)) =
        (fun a => a.fst == Text.lower n) := by
      funext a
      by_cases ha : a.fst = Text.lower n
      · simp [ha, Ne.symm h]
      · simp [ha]
    simp [h, hb, hp]

@[simp] theorem registerAll_nil (base : TypeRegistry) : base.registerAll [] = base := rfl

@[simp] theorem registerAll_cons (base : TypeRegistry) (n : String) (k : TypeKind)
    (types : List (String × TypeKind)) :
    base.registerAll ((n, k) :: types) = (base.register n k).registerAll types := rfl

/-- The type names of MySQL and their families. -/
def mysqlTypes : List (String × TypeKind) :=
  [("bigint", .integer), ("binary", .binary), ("bit", .bit), ("blob", .blob),
   ("boolean", .boolean), ("char", .string), ("date", .date), ("datetime", .dateTime),
   ("decimal", .numeric), ("double", .float), ("enum", .enum), ("fixed", .numeric),
   ("float", .float), ("int", .integer), ("integer", .integer), ("json", .json),
   ("longblob", .blob), ("longtext", .text), ("mediumblob", .blob), ("mediumint", .integer),
   ("mediumtext", .text), ("nchar", .string), ("nvarchar", .string), ("numeric", .numeric),
   ("set", .set), ("smallint", .integer), ("text", .text), ("time", .time),
   ("timestamp", .timestamp), ("tinyblob", .blob), ("tinyint", .integer), ("tinytext", .text),
   ("varbinary", .binary), ("varchar", .string), ("year", .year), ("geometry", .spatial),
   ("point", .spatial), ("linestring", .spatial), ("polygon", .spatial),
   ("multipoint", .spatial), ("multilinestring", .spatial), ("multipolygon", .spatial),
   ("geometrycollection", .spatial)]

/-- The registry of MySQL's type names. -/
def mysql : TypeRegistry := empty.registerAll mysqlTypes

end TypeRegistry

end TableDdl

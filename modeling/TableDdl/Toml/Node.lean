import TableDdl.Toml.Scalar

/-!
# Building TOML tables

While a TOML document is read, its tables are kept as `Node`s that remember how each table came
to be: named by a header, created on the way to a header's table, or created by a dotted key.
The rules follow from this: a header may name a table only once, unless the table was so far
only created on the way; a dotted key may pass through tables that were created on the way or
by dotted keys, but puts its last key only into a table that dotted keys created; a key may be
defined only once; inline tables and arrays are closed.
-/

namespace TableDdl.Toml

/-- How a table came to be. -/
inductive Origin where
  /-- Created on the way to the table of a header. -/
  | implicit
  /-- Named by a header. -/
  | header
  /-- Created by a dotted key. -/
  | dotted
  deriving Repr, DecidableEq

/-- A part of a document being read: a closed value, a table, or an array of tables whose last
table is open. -/
inductive Node where
  | leaf (v : Value)
  | table (origin : Origin) (entries : List (String × Node))
  | tables (items : List (List (String × Node)))
  deriving Repr, Inhabited

namespace Node

/-- The node of a key. -/
def find? (es : List (String × Node)) (k : String) : Option Node :=
  (es.find? (·.1 == k)).map (·.2)

/-- The entries with the node of `k` replaced, or added at the end. -/
def set (es : List (String × Node)) (k : String) (n : Node) : List (String × Node) :=
  if es.any (·.1 == k) then es.map fun (k', n') => if k' == k then (k, n) else (k', n')
  else es ++ [(k, n)]

/-- Applies `f` to the entries of the table at the path; an array of tables stands for its last
table. -/
def modifyAt (f : List (String × Node) → Option (List (String × Node))) :
    List String → List (String × Node) → Option (List (String × Node))
  | [], es => f es
  | k :: ks, es =>
    match find? es k with
    | some (.table o sub) => (modifyAt f ks sub).map fun sub' => set es k (.table o sub')
    | some (.tables items) =>
      match items.getLast? with
      | some last => (modifyAt f ks last).map fun last' => set es k (.tables (items.dropLast ++ [last']))
      | none => none
    | _ => none

/-- Walks to the table of a header, creating the missing tables on the way, and applies `f` to
the node of the header's last key. -/
def openPath (f : Option Node → Option Node) :
    List String → List (String × Node) → Option (List (String × Node))
  | [], _ => none
  | [k], es => (f (find? es k)).map (set es k)
  | k :: ks, es =>
    match find? es k with
    | none => (openPath f ks []).map fun sub => set es k (.table .implicit sub)
    | some (.table o sub) => (openPath f ks sub).map fun sub' => set es k (.table o sub')
    | some (.tables items) =>
      match items.getLast? with
      | some last => (openPath f ks last).map fun last' => set es k (.tables (items.dropLast ++ [last']))
      | none => none
    | some (.leaf _) => none

/-- The node of a table header's key: a new table, or a table that so far was only created on
the way to another. -/
def defineTable : Option Node → Option Node
  | none => some (.table .header [])
  | some (.table .implicit sub) => some (.table .header sub)
  | _ => none

/-- The node of an array-of-tables header's key: the array with one more table. -/
def appendTable : Option Node → Option Node
  | none => some (.tables [[]])
  | some (.tables items) => some (.tables (items ++ [[]]))
  | _ => none

/-- Defines the keys `ks` in a table with entries `es`, the last key with the value `v`. The
keys before the last lead through tables: a missing one is created as a dotted table, one that a
header named may not be extended, and an array of tables stands for its last table. The table
that takes the last key of a dotted key must have been created by dotted keys; `within` says
that a dotted key led to `es`, and `dotted` that dotted keys created it. The last key must be
new. -/
def defineBelow (v : Value) : Bool → Bool → List String → List (String × Node) →
    Option (List (String × Node))
  | _, _, [], _ => none
  | within, dotted, [k], es =>
    if within && !dotted then none
    else if (find? es k).isSome then none else some (es ++ [(k, .leaf v)])
  | _, _, k :: ks, es =>
    match find? es k with
    | none => (defineBelow v true true ks []).map fun sub => es ++ [(k, .table .dotted sub)]
    | some (.table .header _) => none
    | some (.table o sub) =>
      (defineBelow v true (o == .dotted) ks sub).map fun sub' => set es k (.table o sub')
    | some (.tables items) =>
      match items.getLast? with
      | some last =>
        (defineBelow v true false ks last).map fun last' => set es k (.tables (items.dropLast ++ [last']))
      | none => none
    | some (.leaf _) => none

/-- Defines a key, dotted or not, with its value in the table with entries `es`. -/
def insertDotted (v : Value) (ks : List String) (es : List (String × Node)) :
    Option (List (String × Node)) :=
  defineBelow v false false ks es

mutual

/-- The value of a node. -/
def toValue : Node → Value
  | .leaf v => v
  | .table _ es => .table (entriesValue es)
  | .tables items => .array (itemsValue items)

/-- The values of a table's entries. -/
def entriesValue : List (String × Node) → List (String × Value)
  | [] => []
  | (k, n) :: es => (k, toValue n) :: entriesValue es

/-- The tables of an array of tables. -/
def itemsValue : List (List (String × Node)) → List Value
  | [] => []
  | es :: items => .table (entriesValue es) :: itemsValue items

end

end Node

end TableDdl.Toml



/-!
# Tables of code point intervals

A Unicode property is stored as a sorted array of disjoint closed intervals of code points.
`findInterval` looks an entry up by halving the array, and `RangeTable.contains` is the
membership test that the character classes of this library are built from.
-/

namespace TableDdl.Unicode

/-- The entry of `entries` whose closed interval `[lo e, hi e]` holds `n`, found by halving.
The entries are sorted by interval and the intervals are disjoint, so at most one holds `n`. -/
def findInterval {α : Type} (entries : Array α) (lo hi : α → Nat) (n : Nat) : Option α :=
  go 0 entries.size
where
  /-- Search among the entries with index in `[a, b)`. -/
  go (a b : Nat) : Option α :=
    if _h : a < b then
      match entries[(a + b) / 2]? with
      | none => none
      | some e =>
        if n < lo e then go a ((a + b) / 2)
        else if hi e < n then go ((a + b) / 2 + 1) b
        else some e
    else none
  termination_by b - a
  decreasing_by all_goals omega

/-- A set of code points, as sorted disjoint closed intervals. -/
structure RangeTable where
  /-- The intervals `(first, last)`, in increasing order. -/
  ranges : Array (Nat × Nat)

/-- Whether the character lies in one of the table's intervals. -/
def RangeTable.contains (t : RangeTable) (c : Char) : Bool :=
  (findInterval t.ranges Prod.fst Prod.snd c.toNat).isSome

end TableDdl.Unicode

/-! ## White space. The class is the White_Space property: ASCII blanks, the line and paragraph
separators, the no-break and ideographic spaces and the other spaces of general category Zs.
-/

namespace TableDdl.Unicode

/-- Characters with the White_Space property. -/
def whiteSpace : RangeTable where
  ranges := #[
    (0x9, 0xD), (0x20, 0x20), (0x85, 0x85), (0xA0, 0xA0), (0x1680, 0x1680), (0x2000, 0x200A),
    (0x2028, 0x2029), (0x202F, 0x202F), (0x205F, 0x205F), (0x3000, 0x3000)]

end TableDdl.Unicode

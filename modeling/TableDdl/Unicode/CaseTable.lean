import TableDdl.Unicode.RangeTable

/-!
# Case mappings as runs of constant shift

Most case pairs of Unicode sit in runs: a block of capitals whose small letters lie a fixed
distance away, or capitals and small letters that alternate. A `CaseTable` stores such runs,
and beside them the few characters that map to several characters (the sharp s to `SS`).
-/

namespace TableDdl.Unicode

/-- The code points `lo, lo + step, …` up to `hi`, each mapped to itself plus `shift`. -/
structure ShiftRun where
  lo : Nat
  hi : Nat
  step : Nat
  shift : Int

/-- Whether the run maps `n`: `n` lies in its interval on the run's stride. -/
def ShiftRun.covers (r : ShiftRun) (n : Nat) : Bool :=
  r.lo ≤ n && n ≤ r.hi && (n - r.lo) % r.step == 0

/-- The image of a code point that the run covers. -/
def ShiftRun.apply (r : ShiftRun) (n : Nat) : Nat :=
  ((n : Int) + r.shift).toNat

/-- A mapping of characters to characters: runs of constant shift, sorted and with disjoint
intervals, and the code points that map to several characters, sorted. A character that
neither part names maps to itself. -/
structure CaseTable where
  runs : Array ShiftRun
  several : Array (Nat × List Nat)

/-- The characters that `c` maps to. -/
def CaseTable.map (t : CaseTable) (c : Char) : List Char :=
  match findInterval t.several Prod.fst Prod.fst c.toNat with
  | some (_, cs) => cs.map Char.ofNat
  | none =>
    match findInterval t.runs ShiftRun.lo ShiftRun.hi c.toNat with
    | some r => if r.covers c.toNat then [Char.ofNat (r.apply c.toNat)] else [c]
    | none => [c]

/-- The image of `c` under a table whose mappings are all to one character. -/
def CaseTable.mapOne (t : CaseTable) (c : Char) : Char :=
  match findInterval t.runs ShiftRun.lo ShiftRun.hi c.toNat with
  | some r => if r.covers c.toNat then Char.ofNat (r.apply c.toNat) else c
  | none => c

/-- The code points that the run sends to `m`: at most one, since a run's shift is fixed. -/
def ShiftRun.preimage (r : ShiftRun) (m : Nat) : Option Nat :=
  let n := ((m : Int) - r.shift).toNat
  if ((m : Int) - r.shift) ≥ 0 && r.covers n then some n else none

/-- Every code point that some run of the table sends to `m`. -/
def CaseTable.preimages (t : CaseTable) (m : Nat) : List Nat :=
  t.runs.toList.filterMap (·.preimage m)

end TableDdl.Unicode

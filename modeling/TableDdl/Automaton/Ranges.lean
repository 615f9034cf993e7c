import TableDdl.Unicode.SimpleFold
import Std.Data.HashMap

/-!
# Classes of code points as ranges

A class of code points is a list of closed ranges. In canonical form the ranges are sorted and
neither overlap nor touch, where touching is counted on the numbers, so that a range ending
just below the surrogates and one starting just above them stay apart. The complement steps
over the surrogates, which are not characters, and the closure under case adds to a class
every character equal to one of its members without regard to case.
-/

namespace TableDdl.Automaton

/-- The ranges in canonical form: sorted, with overlapping or touching ranges merged. -/
def canonical (rs : List (Nat × Nat)) : List (Nat × Nat) :=
  let step (acc : List (Nat × Nat)) (r : Nat × Nat) : List (Nat × Nat) :=
    match acc with
    | (a, b) :: rest => if r.1 ≤ b + 1 then (a, max b r.2) :: rest else r :: acc
    | [] => [r]
  ((rs.mergeSort fun x y => x.1 ≤ y.1).foldl step []).reverse

/-- The character after the code point `n`, stepping over the surrogates. -/
def nextChar (n : Nat) : Nat :=
  if n = 0xD7FF then 0xE000 else n + 1

/-- The character before the code point `n`, stepping over the surrogates. -/
def prevChar (n : Nat) : Nat :=
  if n = 0xE000 then 0xD7FF else n - 1

/-- The range between two code points, whichever comes first. -/
def spanOf (a b : Nat) : Nat × Nat :=
  if a ≤ b then (a, b) else (b, a)

/-- The characters outside a canonical class: the part before its first range, the gaps
between its ranges and the part after its last range. -/
def complement (rs : List (Nat × Nat)) : List (Nat × Nat) :=
  match rs, rs.getLast? with
  | (lo, _) :: _, some (_, hi) =>
    let front := if 0 < lo then [spanOf 0 (prevChar lo)] else []
    let gaps := (rs.zip rs.tail).map fun (r, s) => spanOf (nextChar r.2) (prevChar s.1)
    let back := if hi < 0x10FFFF then [spanOf (nextChar hi) 0x10FFFF] else []
    front ++ gaps ++ back
  | _, _ => [(0, 0x10FFFF)]

/-- Whether a code point lies in one of the ranges of a canonical class. -/
def classContains (rs : Array (Nat × Nat)) (n : Nat) : Bool :=
  (Unicode.findInterval rs Prod.fst Prod.snd n).isSome

/-- The characters that simple case folding maps to a character other than themselves. -/
def foldedChars : List Nat :=
  Unicode.simpleFold.runs.toList.flatMap fun r =>
    (List.range ((r.hi - r.lo) / r.step + 1)).map fun k => r.lo + k * r.step

/-- The sorted list without repeated entries. -/
def sortedDistinct (ns : List Nat) : List Nat :=
  let step (acc : List Nat) (n : Nat) : List Nat :=
    match acc with
    | m :: _ => if m = n then acc else n :: acc
    | [] => [n]
  ((ns.mergeSort fun a b => a ≤ b).foldl step []).reverse

/-- The classes of characters equal without regard to case that have more than one member:
for each character that folding maps to another one, the character it folds to and all that
fold to that. -/
def caseOrbits : List (List Nat) :=
  let targets := sortedDistinct (foldedChars.map fun n => (Unicode.fold (Char.ofNat n)).toNat)
  targets.map fun f => f :: (Unicode.simpleFold.preimages f).filter (· ≠ f)

/-- Each character with more than one form under case folding, mapped to all its forms. -/
def orbitTable : Std.HashMap Nat (List Nat) :=
  caseOrbits.foldl (fun t o => o.foldl (fun t n => t.insert n o) t) {}

/-- The forms of a code point under case folding, itself among them. -/
def caseForms (n : Nat) : List Nat :=
  (orbitTable[n]?).getD [n]

/-- The class with every character equal to one of its members without regard to case. -/
def caseClosure (rs : List (Nat × Nat)) : List (Nat × Nat) :=
  let table := rs.toArray
  let added := caseOrbits.filter (·.any (classContains table))
  canonical (rs ++ added.flatten.map fun n => (n, n))

end TableDdl.Automaton

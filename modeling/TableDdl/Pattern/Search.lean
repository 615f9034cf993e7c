import TableDdl.Pattern.Program
import TableDdl.Pattern.Match
import Std.Data.HashSet

/-!
# Searching with a program

`Program.searchFrom` finds the leftmost-first match of a compiled pattern: it tries the start
positions from left to right, and from each it walks the program depth-first, the preferred
branch first, so the first time it reaches the accepting step it has the match that
`Pattern.run` describes.

The walk never goes on from the same step at the same position twice. Whether the program
matches from a step onwards depends on the step and the position alone, not on how the walk
got there, so a second visit fails if the first failed; a second visit while the first is
still under way repeats an iteration that consumed nothing, which does not count. The visits
are shared by all start positions, which bounds the whole search by the number of steps times
the number of positions.
-/

namespace TableDdl

/-- A task of the walk: go on at a step and a position, or put a capture slot back as it was
before the branch now left behind. -/
inductive Task where
  | visit (step pos : Nat)
  | restore (slot : Nat) (value : Option Nat)

/-- Where the walk stands: the tasks still to do, most urgent first, the capture slots of the
current path, and the pairs of step and position already visited. -/
structure Walk where
  tasks : List Task
  slots : Array (Option Nat)
  seen : Std.HashSet Nat

namespace Program

/-- The key of a step at a position in the set of visited pairs. -/
def visitKey (subject : Array Char) (step pos : Nat) : Nat :=
  step * (subject.size + 1) + pos

/-- Does the tasks of the walk until the program accepts, giving the slots and the end
position, or until no task is left, giving the pairs visited; `fuel` bounds the number of
tasks done. -/
def walk (prog : Program) (subject : Array Char) : Nat → Walk →
    Option (Array (Option Nat) × Nat) × Std.HashSet Nat
  | 0, w => (none, w.seen)
  | fuel + 1, w =>
    match w.tasks with
    | [] => (none, w.seen)
    | .restore slot v :: rest =>
      prog.walk subject fuel { w with tasks := rest, slots := w.slots.set! slot v }
    | .visit i pos :: rest =>
      let key := visitKey subject i pos
      if w.seen.contains key then prog.walk subject fuel { w with tasks := rest }
      else
        let w := { w with tasks := rest, seen := w.seen.insert key }
        let goOn (tasks : List Task) := prog.walk subject fuel { w with tasks := tasks }
        match prog.steps[i]? with
        | some (.chars k next) =>
          match subject[pos]? with
          | some c => if k.admits c then goOn (.visit next (pos + 1) :: rest) else goOn rest
          | none => goOn rest
        | some (.branch a b) => goOn (.visit a pos :: .visit b pos :: rest)
        | some (.save slot next) =>
          prog.walk subject fuel
            { w with
              tasks := .visit next pos :: .restore slot (w.slots[slot]?.join) :: rest
              slots := w.slots.set! slot (some pos) }
        | some (.atStart next) => goOn (if pos = 0 then .visit next pos :: rest else rest)
        | some (.atEnd next) =>
          goOn (if pos = subject.size then .visit next pos :: rest else rest)
        | some .accept => (some (w.slots, pos), w.seen)
        | none => goOn rest

/-- The spans of the groups that the slots record. -/
def captures (prog : Program) (slots : Array (Option Nat)) : Captures :=
  ((List.range prog.groups.size).filterMap fun g =>
    match prog.groups[g]?, slots[2 * g]?.join, slots[2 * g + 1]?.join with
    | some name, some i, some j => some (name, i, j)
    | _, _, _ => none).reverse

/-- The leftmost-first match that starts at position `pos` or after it; `seen` holds the
pairs that earlier start positions visited, all of which failed. -/
def searchFrom (prog : Program) (subject : Array Char) (seen : Std.HashSet Nat) (pos : Nat) :
    Option Match :=
  -- every task is done once; a visit adds at most two tasks and is made at most once per pair
  let fuel := 2 * (prog.steps.size * (subject.size + 1)) + 2
  let start : Walk := ⟨[.visit prog.start pos], Array.replicate (2 * prog.groups.size) none, seen⟩
  match prog.walk subject fuel start with
  | (some (slots, stop), _) => some ⟨pos, stop, prog.captures slots⟩
  | (none, seen) => if pos < subject.size then prog.searchFrom subject seen (pos + 1) else none
termination_by subject.size - pos

end Program

namespace Pattern

/-- The leftmost-first match of `p` in the subject. -/
def find? (p : Pattern) (s : List Char) : Option Match :=
  p.compile.searchFrom s.toArray {} 0

/-- Whether `p` matches somewhere in the subject. -/
def occursIn (p : Pattern) (s : List Char) : Bool :=
  (p.find? s).isSome

end Pattern

end TableDdl

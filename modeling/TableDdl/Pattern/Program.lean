import TableDdl.Pattern.Basic

/-!
# Patterns as programs

A pattern compiles to a `Program`: an array of steps, each naming the steps that may come after
it, like a nondeterministic automaton whose choices are ordered. A step reads one character of
a class, branches to two steps in order of preference, records the position in a capture slot,
or tests for the start or the end of the subject; step `0` accepts. A repetition becomes a
branch that loops back to itself, so each node of the pattern gives at most two steps and the
program grows linearly with the pattern.
-/

namespace TableDdl

/-- One step of a program; the numbers are the indices of the steps that follow it. -/
inductive Step where
  /-- Reads one character of the class. -/
  | chars (k : CharClass) (next : Nat)
  /-- Goes on at `first`, and at `second` if that fails. -/
  | branch (first second : Nat)
  /-- Records the position in the capture slot. -/
  | save (slot : Nat) (next : Nat)
  /-- Goes on only at the start of the subject. -/
  | atStart (next : Nat)
  /-- Goes on only at the end of the subject. -/
  | atEnd (next : Nat)
  /-- Ends the match. -/
  | accept
  deriving Repr

/-- A compiled pattern: its steps, the step it starts at, and the names of its groups. Group
`i` records its start in slot `2 * i` and its end in slot `2 * i + 1`. -/
structure Program where
  steps : Array Step
  start : Nat
  groups : Array String
  deriving Repr

/-- A program being built: the steps so far and the names of the groups so far. -/
structure Builder where
  steps : Array Step
  groups : Array String

namespace Builder

/-- Adds a step and gives its index. -/
def add (s : Step) : StateM Builder Nat :=
  modifyGet fun b => (b.steps.size, { b with steps := b.steps.push s })

/-- Puts a step in place of the one at index `i`. -/
def replace (i : Nat) (s : Step) : StateM Builder Unit :=
  modify fun b => { b with steps := b.steps.set! i s }

/-- Adds a group and gives its number. -/
def addGroup (name : String) : StateM Builder Nat :=
  modifyGet fun b => (b.groups.size, { b with groups := b.groups.push name })

end Builder

namespace Pattern

/-- Adds the steps that match `p` and then go on at step `next`, and gives the first of them.
A repetition first adds a placeholder for its loop, then its body, which ends at the loop, then
puts the loop's branch in place: into the body first when greedy, past it first when lazy. -/
def compileTo : Pattern → Nat → StateM Builder Nat
  | .empty, next => pure next
  | .chars k, next => Builder.add (.chars k next)
  | .seq p q, next => do p.compileTo (← q.compileTo next)
  | .alt p q, next => do
    let a ← p.compileTo next
    let b ← q.compileTo next
    Builder.add (.branch a b)
  | .star greedy p, next => do
    let loop ← Builder.add .accept
    let body ← p.compileTo loop
    Builder.replace loop (if greedy then .branch body next else .branch next body)
    pure loop
  | .group name p, next => do
    let g ← Builder.addGroup name
    let close ← Builder.add (.save (2 * g + 1) next)
    let body ← p.compileTo close
    Builder.add (.save (2 * g) body)
  | .atStart, next => Builder.add (.atStart next)
  | .atEnd, next => Builder.add (.atEnd next)

/-- The program of the pattern: its steps after the accepting step `0`. -/
def compile (p : Pattern) : Program :=
  let (start, b) := (p.compileTo 0).run ⟨#[.accept], #[]⟩
  ⟨b.steps, start, b.groups⟩

end Pattern

end TableDdl

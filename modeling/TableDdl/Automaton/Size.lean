import TableDdl.Automaton.Expr
import Std.Data.HashMap

/-!
# The size of an automaton

An expression runs as a nondeterministic automaton over UTF-8 bytes, built by Thompson's
construction: a literal is a chain of states that each read one byte, a class a set of byte
sequences, a repetition or an alternative a branching state, a capturing group a pair of states
that record positions. Each state takes 32 bytes, a state that reads one of several byte ranges
8 more for each range, and a branching state 4 more for each alternative it gets. The
automaton is built twice: reading forwards, with its groups, to find where a match ends, and
reading backwards, without them, to find where it starts. `automatonBytes` is what each of
them takes.

A class with characters beyond ASCII is the hard part. Read forwards, its sequences are merged
into a tree whose equal subtrees are shared; read backwards, the sequences share only their
common tails. Both kinds of sharing look states up in tables of fixed size, where an entry
evicts another of the same slot, so the states of a class depend on the numbers of the states
before it; the model keeps those numbers and tables as they are.

The line patterns have no alternative made of literals alone, which would be built as a trie;
every alternative is built here with one branching state.
-/

namespace TableDdl.Automaton

/-- Bytes that every state takes. -/
def stateBytes : Nat := 32

/-- Bytes of each byte range of a state that reads one of several ranges. -/
def transitionBytes : Nat := 8

/-- Bytes of each alternative of a branching state. -/
def alternativeBytes : Nat := 4

/-- Slots of the table of shared tails of a class read backwards. -/
def tailSlots : Nat := 1000

/-- Slots of the table of shared states of a class read forwards. -/
def nodeSlots : Nat := 10000

/-- An automaton under construction, as far as its size goes: for each state whether it
branches, and the bytes of byte ranges and alternatives so far. -/
structure Builder where
  branching : Array Bool
  extra : Nat

/-- The bytes the automaton takes. -/
def Builder.bytes (b : Builder) : Nat :=
  stateBytes * b.branching.size + b.extra

/-- A piece of automaton: the state where it starts, and the state where it stops, which is
joined to whatever follows the piece. -/
structure Piece where
  start : Nat
  stop : Nat

/-- Building an automaton. -/
abbrev Build := StateM Builder

namespace Build

/-- Adds a state with the given bytes beyond its own, and gives its number. -/
def state (extra : Nat) : Build Nat :=
  modifyGet fun b => (b.branching.size, ⟨b.branching.push false, b.extra + extra⟩)

/-- Adds a branching state without alternatives, and gives its number. -/
def branch : Build Nat :=
  modifyGet fun b => (b.branching.size, ⟨b.branching.push true, b.extra⟩)

/-- Joins state `s` to a next state, which gives a branching state one more alternative. -/
def join (s : Nat) : Build Unit :=
  modify fun b => if b.branching[s]?.getD false then ⟨b.branching, b.extra + alternativeBytes⟩ else b

/-- A piece of one state that reads nothing. -/
def single : Build Piece := do
  let s ← state 0
  pure ⟨s, s⟩

end Build

/-- The direction in which an automaton reads its text. -/
inductive Direction where
  | forward
  | backward
  deriving DecidableEq, Repr

/-- The FNV-1a hash of a list of numbers, each taken as one 64-bit word. -/
def fnv (ns : List Nat) : UInt64 :=
  ns.foldl (fun h n => (h ^^^ n.toUInt64) * 1099511628211) 14695981039346656037

/-- The slot of a key among `slots` slots. -/
def slotOf (ns : List Nat) (slots : Nat) : Nat :=
  (fnv ns).toNat % slots

/-- A class read backwards: a branching state with one alternative per sequence, each a chain
from the sequence's last byte range to its first, and a state where all chains stop. A chain
reuses the state of a range that another chain has already built with the same tail, if the
table still holds it. -/
def backwardClass (rs : List (Nat × Nat)) : Build Piece := do
  let top ← Build.branch
  let bottom ← Build.state 0
  let link (acc : Nat × Std.HashMap Nat (Nat × Nat × Nat × Nat)) (r : ByteRange) :
      Build (Nat × Std.HashMap Nat (Nat × Nat × Nat × Nat)) := do
    let (next, table) := acc
    let slot := slotOf [next, r.lo, r.hi] tailSlots
    match table[slot]? with
    | some (n, lo, hi, s) =>
      if n = next ∧ lo = r.lo ∧ hi = r.hi then pure (s, table)
      else do
        let s ← Build.state 0
        pure (s, table.insert slot (next, r.lo, r.hi, s))
    | none => do
      let s ← Build.state 0
      pure (s, table.insert slot (next, r.lo, r.hi, s))
  let chain (table : Std.HashMap Nat (Nat × Nat × Nat × Nat)) (seq : List ByteRange) :
      Build (Std.HashMap Nat (Nat × Nat × Nat × Nat)) := do
    let (_, table) ← seq.foldlM link (bottom, table)
    Build.join top
    pure table
  let _ ← (rs.flatMap fun (lo, hi) => utf8Sequences lo hi).foldlM chain {}
  pure ⟨top, bottom⟩

/-- A state of a class read forwards that is not built yet: its transitions so far, each a
byte range and the state it leads to, and the range of its last transition, whose next state
is not known yet. -/
structure Pending where
  transitions : Array (Nat × Nat × Nat)
  last : Option ByteRange

/-- The transitions of a pending state with its last transition led to `next`. -/
def Pending.close (p : Pending) (next : Nat) : Array (Nat × Nat × Nat) :=
  match p.last with
  | some r => p.transitions.push (r.lo, r.hi, next)
  | none => p.transitions

/-- The pending states of a class read forwards, from the first byte on, and the table of the
states built so far. -/
structure Trie where
  pending : Array Pending
  table : Std.HashMap Nat (Array (Nat × Nat × Nat) × Nat)

/-- Building a class read forwards. -/
abbrev TrieBuild := StateT Trie Build

namespace TrieBuild

/-- The state with these transitions: one that the table holds, or a new one. -/
def node (ts : Array (Nat × Nat × Nat)) : TrieBuild Nat := do
  let slot := slotOf (ts.toList.flatMap fun (lo, hi, next) => [lo, hi, next]) nodeSlots
  let fresh : TrieBuild Nat := do
    let s ← StateT.lift (Build.state (transitionBytes * ts.size))
    modify fun t => ⟨t.pending, t.table.insert slot (ts, s)⟩
    pure s
  match (← get).table[slot]? with
  | some (us, s) => if us == ts then pure s else fresh
  | none => fresh

/-- Builds the pending states after the first `keep + 1`, deepest first, and leads the last
transition of the one left on top to the first of them, or to `target` if none is left. -/
def settle (target keep : Nat) : TrieBuild Unit := do
  let n := (← get).pending.size
  let next ← (List.range (n - (keep + 1))).foldlM (fun next _ => do
    let t ← get
    match t.pending.back? with
    | some p =>
      set (⟨t.pending.pop, t.table⟩ : Trie)
      node (p.close next)
    | none => pure next) target
  modify fun t =>
    match t.pending.back? with
    | some p => ⟨t.pending.pop.push ⟨p.close next, none⟩, t.table⟩
    | none => t

/-- The number of leading byte ranges of the sequence that the pending states already lead
through. -/
def sharedPrefix (pending : Array Pending) (seq : List ByteRange) : Nat :=
  ((seq.zip pending.toList).takeWhile fun (r, p) => p.last == some r).length

/-- Adds a sequence: builds the pending states past the prefix it shares, then makes the rest
of it pending. -/
def addSequence (target : Nat) (seq : List ByteRange) : TrieBuild Unit := do
  let keep := sharedPrefix (← get).pending seq
  settle target keep
  match seq.drop keep with
  | r :: rest =>
    modify fun t =>
      let top := match t.pending.back? with
        | some p => t.pending.pop.push ⟨p.transitions, some r⟩
        | none => t.pending
      ⟨rest.foldl (fun ps r => ps.push ⟨#[], some r⟩) top, t.table⟩
  | [] => pure ()

end TrieBuild

/-- A class read forwards: its sequences, in increasing order, merged into a tree from the
first byte on, with equal subtrees shared, and a state where all of them stop. -/
def forwardClass (rs : List (Nat × Nat)) : Build Piece := do
  let target ← Build.state 0
  let seqs := rs.flatMap fun (lo, hi) => utf8Sequences lo hi
  let build : TrieBuild Nat := do
    seqs.forM (TrieBuild.addSequence target)
    TrieBuild.settle target 0
    let root := match (← get).pending[0]? with
      | some p => p.transitions
      | none => #[]
    TrieBuild.node root
  let (start, _) ← build.run ⟨#[⟨#[], none⟩], {}⟩
  pure ⟨start, target⟩

/-- A class: one state that reads one of its ranges if they are all ASCII, and otherwise its
UTF-8 sequences in the direction of reading. -/
def classPiece (d : Direction) (rs : List (Nat × Nat)) : Build Piece :=
  if rs.all (·.2 < 0x80) then do
    let stop ← Build.state 0
    let start ← Build.state (transitionBytes * rs.length)
    pure ⟨start, stop⟩
  else
    match d with
    | .forward => forwardClass rs
    | .backward => backwardClass rs

/-- The piece of automaton of an expression, read in the direction `d`. A sequence is built
from its first part when reading forwards and from its last when reading backwards, and the
groups are left out backwards. -/
def compile (d : Direction) : Expr → Build Piece
  | .empty => Build.single
  | .literal cs => do
    let n := Expr.byteLength cs
    if n = 0 then Build.single
    else
      let first := (← get).branching.size
      (List.range n).forM fun _ => do
        let _ ← Build.state 0
      pure ⟨first, first + n - 1⟩
  | .chars rs => classPiece d rs
  | .anyByte => do
    let stop ← Build.state 0
    let start ← Build.state transitionBytes
    pure ⟨start, stop⟩
  | .anchor _ => Build.single
  | .repetition r _ body =>
    match r with
    | .opt => do
      let top ← Build.branch
      let inner ← compile d body
      let stop ← Build.state 0
      Build.join top
      Build.join top
      Build.join inner.stop
      pure ⟨top, stop⟩
    | .plus => do
      let inner ← compile d body
      let loop ← Build.branch
      Build.join inner.stop
      Build.join loop
      pure ⟨inner.start, loop⟩
    | .star =>
      if 0 < body.minLen then do
        let loop ← Build.branch
        let inner ← compile d body
        Build.join loop
        Build.join inner.stop
        pure ⟨loop, loop⟩
      else do
        -- a body that may match the empty string repeats as an optional repetition at least once
        let inner ← compile d body
        let loop ← Build.branch
        Build.join inner.stop
        Build.join loop
        let top ← Build.branch
        let stop ← Build.state 0
        Build.join top
        Build.join top
        Build.join loop
        pure ⟨top, stop⟩
  | .group body =>
    match d with
    | .backward => compile d body
    | .forward => do
      let open_ ← Build.state 0
      let inner ← compile d body
      let close ← Build.state 0
      Build.join open_
      Build.join inner.stop
      pure ⟨open_, close⟩
  | .concat ps =>
    match (match d with | .forward => ps.attach | .backward => ps.attach.reverse) with
    | [] => Build.single
    | ⟨p, _⟩ :: rest => do
      let first ← compile d p
      rest.foldlM (fun acc ⟨q, _⟩ => do
        let next ← compile d q
        Build.join acc.stop
        pure ⟨acc.start, next.stop⟩) first
  | .alt bs =>
    match bs.attach with
    | [] => Build.single
    | [⟨b, _⟩] => compile d b
    | ⟨b, _⟩ :: rest => do
      let first ← compile d b
      let top ← Build.branch
      let stop ← Build.state 0
      Build.join top
      Build.join first.stop
      rest.forM fun ⟨q, _⟩ => do
        let next ← compile d q
        Build.join top
        Build.join next.stop
      pure ⟨top, stop⟩
termination_by e => e

/-- The bytes of the automaton that reads the matches of `e` in direction `d`. Unless every
match is tied to the end the automaton starts from, it begins with a loop over any byte, so that
a match may start anywhere; forwards, the whole match is a group; and it ends in an accepting
state. -/
def automatonBytes (d : Direction) (e : Expr) : Nat :=
  let anchored := match d with
    | .forward => e.anchoredAtStart
    | .backward => e.anchoredAtEnd
  let build : Build Unit := do
    let lead ← if anchored then Build.single else compile d (.repetition .star false .anyByte)
    let body ← compile d (match d with | .forward => .group e | .backward => e)
    let _ ← Build.state 0
    Build.join body.stop
    Build.join lead.stop
  (build.run ⟨#[], 0⟩).2.bytes

/-- A bound on the bytes of a class in either direction: a state for the start and one for the
stop, at most one state and one transition for each byte range of its sequences, and one
alternative for each sequence. -/
def classBound (rs : List (Nat × Nat)) : Nat :=
  if rs.all (·.2 < 0x80) then 2 * stateBytes + transitionBytes * rs.length
  else
    let seqs := rs.flatMap fun (lo, hi) => utf8Sequences lo hi
    let ranges := (seqs.map List.length).foldr (· + ·) 0
    stateBytes * (2 + ranges) + transitionBytes * ranges + alternativeBytes * seqs.length

/-- A bound on the bytes of the piece of an expression in either direction, counting every
state, byte range and alternative that its construction may add, with no sharing. -/
def sizeBound : Expr → Nat
  | .empty | .anchor _ => stateBytes
  | .literal cs => stateBytes * max 1 (Expr.byteLength cs)
  | .chars rs => classBound rs
  | .anyByte => 2 * stateBytes + transitionBytes
  | .repetition _ _ body => sizeBound body + 3 * stateBytes + 5 * alternativeBytes
  | .group body => sizeBound body + 2 * stateBytes + alternativeBytes
  | .concat ps =>
    (ps.attach.map fun ⟨p, _⟩ => sizeBound p + alternativeBytes).foldr (· + ·) 0 + stateBytes
  | .alt bs =>
    (bs.attach.map fun ⟨b, _⟩ => sizeBound b + 2 * alternativeBytes).foldr (· + ·) 0 + 2 * stateBytes

/-- A bound on `automatonBytes` in either direction: the expression as a group, the loop over
any byte before it, the accepting state and the two joins. -/
def automatonBound (e : Expr) : Nat :=
  sizeBound (.group e) + sizeBound (.repetition .star false .anyByte) + stateBytes +
    2 * alternativeBytes

end TableDdl.Automaton

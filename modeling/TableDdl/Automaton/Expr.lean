import TableDdl.Automaton.Utf8
import TableDdl.Automaton.Ranges

/-!
# Regular expressions over UTF-8 text

`Expr` is a regular expression in the shape an automaton is built from: literals are strings of
characters, classes are canonical ranges of code points, and the constructors `Expr.seq`,
`Expr.union` and `Expr.rep` simplify as they build. A sequence is flattened, loses its empty
parts and joins neighbouring literals; an alternative whose branches are all single characters,
or all classes, becomes one class; a repetition of something that matches only the empty string
repeats at most once. The automaton's size depends on these shapes, so they are part of the
model, as are the shortest and longest match in bytes and whether every match is tied to the
start or to the end of the text.
-/

namespace TableDdl.Automaton

/-- A test that matches the empty string at one end of the text. -/
inductive Anchor where
  | textStart
  | textEnd
  deriving DecidableEq, Repr

/-- How often a repetition may match its body: any number of times, at least once, or at
most once. -/
inductive Repeat where
  | star
  | plus
  | opt
  deriving DecidableEq, Repr

/-- A regular expression over UTF-8 text. `group` is a capturing group; `anyByte` matches a
single byte of any value. -/
inductive Expr where
  | empty
  | literal (cs : List Char)
  | chars (ranges : List (Nat × Nat))
  | anyByte
  | anchor (a : Anchor)
  | repetition (r : Repeat) (greedy : Bool) (body : Expr)
  | group (body : Expr)
  | concat (parts : List Expr)
  | alt (branches : List Expr)
  deriving Repr

namespace Expr

/-- The number of bytes that encode a string of characters. -/
def byteLength (cs : List Char) : Nat :=
  (cs.map fun c => utf8Length c.toNat).foldr (· + ·) 0

/-- The fewest bytes of a match. -/
def minLen : Expr → Nat
  | .empty | .anchor _ => 0
  | .literal cs => byteLength cs
  | .chars rs => match rs.head? with
    | some (lo, _) => utf8Length lo
    | none => 0
  | .anyByte => 1
  | .repetition r _ e => if r = .plus then e.minLen else 0
  | .group e => e.minLen
  | .concat ps => (ps.attach.map fun ⟨p, _⟩ => p.minLen).foldr (· + ·) 0
  | .alt bs => ((bs.attach.map fun ⟨b, _⟩ => b.minLen).min?).getD 0

/-- The most bytes of a match, if there is a bound. -/
def maxLen : Expr → Option Nat
  | .empty | .anchor _ => some 0
  | .literal cs => some (byteLength cs)
  | .chars rs => match rs.getLast? with
    | some (_, hi) => some (utf8Length hi)
    | none => some 0
  | .anyByte => some 1
  | .repetition r _ e => if r = .opt then e.maxLen else none
  | .group e => e.maxLen
  | .concat ps =>
    (ps.attach.map fun ⟨p, _⟩ => p.maxLen).foldl (fun acc m => do pure ((← acc) + (← m))) (some 0)
  | .alt bs =>
    (bs.attach.map fun ⟨b, _⟩ => b.maxLen).foldl (fun acc m => do pure (max (← acc) (← m))) (some 0)

/-- Whether the expression matches only the empty string. -/
def isZeroWidth (e : Expr) : Bool :=
  e.maxLen == some 0

/-- Whether a test of the parts of a sequence, one after another, decides at a part: a part
that holds decides for, a part that is not zero-width decides against, and a zero-width part
leaves the question to the next. -/
def decideAt (holds : Bool) (e : Expr) : Option Bool :=
  if holds then some true else if e.isZeroWidth then none else some false

/-- Whether every match starts at the start of the text: the expression is that anchor, or a
sequence whose first part that is not zero-width, or a zero-width part before it, is
anchored so. -/
def anchoredAtStart : Expr → Bool
  | .anchor a => a = .textStart
  | .repetition r _ e => r = .plus && e.anchoredAtStart
  | .group e => e.anchoredAtStart
  | .concat ps =>
    (ps.attach.foldl (fun acc ⟨p, _⟩ => acc <|> decideAt p.anchoredAtStart p) none).getD false
  | .alt bs => bs.attach.all fun ⟨b, _⟩ => b.anchoredAtStart
  | _ => false

/-- Whether every match ends at the end of the text, read like `anchoredAtStart` from the
last part of a sequence backwards. -/
def anchoredAtEnd : Expr → Bool
  | .anchor a => a = .textEnd
  | .repetition r _ e => r = .plus && e.anchoredAtEnd
  | .group e => e.anchoredAtEnd
  | .concat ps =>
    (ps.attach.foldr (fun ⟨p, _⟩ acc => acc <|> decideAt p.anchoredAtEnd p) none).getD false
  | .alt bs => bs.attach.all fun ⟨b, _⟩ => b.anchoredAtEnd
  | _ => false

/-- The class of the ranges, or the literal of its one character. -/
def ofRanges (rs : List (Nat × Nat)) : Expr :=
  match rs with
  | [(lo, hi)] => if lo = hi then .literal [Char.ofNat lo] else .chars rs
  | _ => .chars rs

/-- The parts of a sequence with the parts of nested sequences in their place and the empty
parts left out. -/
def flattenParts (ps : List Expr) : List Expr :=
  ps.flatMap fun
    | .concat qs => qs
    | .empty => []
    | p => [p]

/-- The parts with neighbouring literals joined into one. -/
def joinLiterals (ps : List Expr) : List Expr :=
  ps.foldr (fun p acc =>
    match p, acc with
    | .literal a, .literal b :: rest => .literal (a ++ b) :: rest
    | p, acc => p :: acc) []

/-- The sequence of the parts, simplified. -/
def seq (ps : List Expr) : Expr :=
  match joinLiterals (flattenParts ps) with
  | [] => .empty
  | [p] => p
  | ps => .concat ps

/-- The branches of an alternative with the branches of nested alternatives in their place. -/
def flattenBranches (bs : List Expr) : List Expr :=
  bs.flatMap fun
    | .alt qs => qs
    | b => [b]

/-- The code point of a literal of one character. -/
def singleChar? : Expr → Option Nat
  | .literal [c] => some c.toNat
  | _ => none

/-- The ranges of a class. -/
def ranges? : Expr → Option (List (Nat × Nat))
  | .chars rs => some rs
  | _ => none

/-- The alternative of the branches, simplified: single characters or classes alone become one
class. -/
def union (bs : List Expr) : Expr :=
  match flattenBranches bs with
  | [b] => b
  | bs =>
    match bs.mapM singleChar?, bs.mapM ranges? with
    | some cs, _ => ofRanges (canonical (cs.map fun c => (c, c)))
    | none, some rss => ofRanges (canonical rss.flatten)
    | none, none => .alt bs

/-- The repetition of the body, simplified: a body that matches only the empty string is
matched at most once. -/
def rep (r : Repeat) (greedy : Bool) (body : Expr) : Expr :=
  if body.isZeroWidth then
    if r = .plus then body else .repetition .opt greedy body
  else .repetition r greedy body

end Expr

end TableDdl.Automaton

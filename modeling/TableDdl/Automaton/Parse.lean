import TableDdl.Automaton.Expr
import TableDdl.Unicode.Word
import TableDdl.Unicode.Digit
import TableDdl.Unicode.RangeTable

/-!
# Reading a pattern's text

`Expr.ofPattern?` reads the text of a pattern that ignores case into an `Expr`. The text may
hold alternatives, groups (`(?:…)` that do not capture, `(?P<name>…)` and `(…)` that do),
the repetitions `*`, `+` and `?` with their lazy forms, bracketed classes with an optional
`^`, the classes `\w`, `\d`, `\s` and `\S`, the dot, the anchors `^` and `$`, and escaped or
plain characters. Ignoring case, a character with other forms under case folding is the class
of all of them, and a bracketed class is closed under case before it is complemented; the
named classes are closed under case already and are taken as they are.
-/

namespace TableDdl.Automaton

/-- A character of the text, ignoring case. -/
def charExpr (c : Char) : Expr :=
  match caseForms c.toNat with
  | [_] => .literal [c]
  | ns => .ofRanges (canonical (ns.map fun n => (n, n)))

/-- The ranges of a named class: word characters, decimal digits or white space. -/
def namedClass? : Char → Option (List (Nat × Nat))
  | 'w' => some Unicode.word.ranges.toList
  | 'd' => some Unicode.digit.ranges.toList
  | 's' => some Unicode.whiteSpace.ranges.toList
  | _ => none

/-- Every character but the line feed. -/
def dotRanges : List (Nat × Nat) :=
  [(0, 9), (11, 0x10FFFF)]

/-- The members of a bracketed class up to its closing bracket, and the text after it. The
first character is a member even if it is a closing bracket. -/
def classItems : List Char → List (Nat × Nat) → Bool → Option (List (Nat × Nat) × List Char)
  | [], _, _ => none
  | ']' :: rest, acc, false => some (acc, rest)
  | '\\' :: c :: rest, acc, _ =>
    match namedClass? c, c with
    | some rs, _ => classItems rest (acc ++ rs) false
    | none, 'S' => classItems rest (acc ++ complement Unicode.whiteSpace.ranges.toList) false
    | none, _ => classItems rest ((c.toNat, c.toNat) :: acc) false
  | c :: rest, acc, _ => classItems rest ((c.toNat, c.toNat) :: acc) false

/-- A bracketed class after its opening bracket, and the text after it. -/
def bracketClass (s : List Char) : Option (Expr × List Char) :=
  let (negated, s) := match s with
    | '^' :: rest => (true, rest)
    | _ => (false, s)
  (classItems s [] true).map fun (rs, rest) =>
    let closed := caseClosure (canonical rs)
    (.ofRanges (if negated then complement closed else closed), rest)

/-- The name of a capturing group up to its closing angle bracket, and the text after it. -/
def groupName : List Char → Option (List Char)
  | [] => none
  | '>' :: rest => some rest
  | _ :: rest => groupName rest

/-- A repetition operator and its laziness at the front of the text, and the text after it. -/
def repeatOp : List Char → Option (Repeat × Bool × List Char)
  | c :: rest =>
    let r? := match c with
      | '*' => some Repeat.star
      | '+' => some .plus
      | '?' => some .opt
      | _ => none
    r?.map fun r => match rest with
      | '?' :: rest => (r, false, rest)
      | _ => (r, true, rest)
  | [] => none

mutual
/-- An alternative of sequences, and the text after it; `fuel` bounds the depth of the
reading. -/
def readAlt : Nat → List Char → Option (Expr × List Char)
  | 0, _ => none
  | fuel + 1, s => do
    let (first, rest) ← readSeq fuel [] s
    readBranches fuel [first] rest

/-- The further branches of an alternative, each after a bar. -/
def readBranches : Nat → List Expr → List Char → Option (Expr × List Char)
  | 0, _, _ => none
  | fuel + 1, acc, '|' :: s => do
    let (b, rest) ← readSeq fuel [] s
    readBranches fuel (b :: acc) rest
  | _ + 1, acc, s =>
    match acc with
    | [b] => some (b, s)
    | _ => some (.union acc.reverse, s)

/-- A sequence of repeated atoms, up to a bar, a closing parenthesis or the end. -/
def readSeq : Nat → List Expr → List Char → Option (Expr × List Char)
  | 0, _, _ => none
  | fuel + 1, acc, s =>
    match s with
    | [] | '|' :: _ | ')' :: _ => some (.seq acc.reverse, s)
    | _ => do
      let (a, rest) ← readAtom fuel s
      match repeatOp rest with
      | some (r, greedy, rest) => readSeq fuel (.rep r greedy a :: acc) rest
      | none => readSeq fuel (a :: acc) rest

/-- One atom: a group, a class, an anchor, the dot or a character. -/
def readAtom : Nat → List Char → Option (Expr × List Char)
  | 0, _ => none
  | fuel + 1, s =>
    match s with
    | '(' :: '?' :: ':' :: rest => do
      let (e, rest) ← readAlt fuel rest
      match rest with
      | ')' :: rest => some (e, rest)
      | _ => none
    | '(' :: '?' :: 'P' :: '<' :: rest => do
      let rest ← groupName rest
      let (e, rest) ← readAlt fuel rest
      match rest with
      | ')' :: rest => some (.group e, rest)
      | _ => none
    | '(' :: rest => do
      let (e, rest) ← readAlt fuel rest
      match rest with
      | ')' :: rest => some (.group e, rest)
      | _ => none
    | '[' :: rest => bracketClass rest
    | '^' :: rest => some (.anchor .textStart, rest)
    | '$' :: rest => some (.anchor .textEnd, rest)
    | '.' :: rest => some (.chars dotRanges, rest)
    | '\\' :: 'S' :: rest => some (.ofRanges (complement Unicode.whiteSpace.ranges.toList), rest)
    | '\\' :: c :: rest =>
      match namedClass? c with
      | some rs => some (.ofRanges (canonical rs), rest)
      | none => some (charExpr c, rest)
    | c :: rest => some (charExpr c, rest)
    | [] => none
end

namespace Expr

/-- The expression of a pattern's text, ignoring case, if the text is one that this reader
knows. -/
def ofPattern? (text : String) : Option Expr :=
  match readAlt (4 * text.length + 4) text.toList with
  | some (e, []) => some e
  | _ => none

end Expr

end TableDdl.Automaton

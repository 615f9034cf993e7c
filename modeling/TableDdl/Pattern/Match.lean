import TableDdl.Pattern.Basic

/-!
# Leftmost-first matching

`Pattern.run` says what a pattern matches, by backtracking in continuation-passing style: it
tries the choices of the pattern in order of preference and hands each way of matching to the
continuation, which either accepts it or sends the search on to the next choice. The first
accepted way is the leftmost-first match: the one that a backtracking matcher with the same
preferences reports. This is the meaning of a pattern; the search that the library runs,
`Pattern.find?`, finds the same match with a compiled program in time bounded by the size of
the program times the length of the subject.

A `Match` is where a match starts and ends, with the spans of its groups.
-/

namespace TableDdl

/-- A position in a subject of `n` characters: how many characters lie before it, and the
characters after it. -/
structure Cursor (n : Nat) where
  pos : Nat
  rest : List Char
  pos_add : pos + rest.length = n

/-- The cursor at the start of a subject. -/
def Cursor.start (s : List Char) : Cursor s.length := ⟨0, s, by simp⟩

/-- The cursor one character further on, if the subject goes on. -/
def Cursor.next {n : Nat} : Cursor n → Option (Cursor n)
  | ⟨pos, _ :: r, h⟩ => some ⟨pos + 1, r, by simp at h; omega⟩
  | ⟨_, [], _⟩ => none

/-- The cursor `k` characters further on, stopping at the end of the subject. -/
def Cursor.skip {n : Nat} (c : Cursor n) (k : Nat) : Cursor n :=
  ⟨c.pos + min k c.rest.length, c.rest.drop k, by have := c.pos_add; simp; omega⟩

/-- The spans recorded by groups, most recent first: name, start and end position. -/
abbrev Captures := List (String × Nat × Nat)

namespace Pattern

/-- Matches `p` at the cursor and passes every way of matching, in order of preference, with
the cursor after it and the groups recorded so far, to the continuation `k`, until `k` accepts
one. -/
def run {n : Nat} {α : Type} : Pattern → Cursor n → Captures →
    (Cursor n → Captures → Option α) → Option α
  | .empty, c, caps, k => k c caps
  | .chars cls, c, caps, k =>
    match c with
    | ⟨pos, x :: r, h⟩ =>
      if cls.admits x then k ⟨pos + 1, r, by simp at h; omega⟩ caps else none
    | ⟨_, [], _⟩ => none
  | .seq p q, c, caps, k => p.run c caps fun c' caps' => q.run c' caps' k
  | .alt p q, c, caps, k => (p.run c caps k).orElse fun _ => q.run c caps k
  | .star greedy p, c, caps, k =>
    let again := fun (_ : Unit) =>
      p.run c caps fun c' caps' =>
        if c.pos < c'.pos then (Pattern.star greedy p).run c' caps' k else none
    if greedy then (again ()).orElse fun _ => k c caps
    else (k c caps).orElse again
  | .group name p, c, caps, k =>
    p.run c caps fun c' caps' => k c' ((name, c.pos, c'.pos) :: caps')
  | .atStart, c, caps, k => if c.pos = 0 then k c caps else none
  | .atEnd, c, caps, k => if c.rest.isEmpty then k c caps else none
termination_by p c => (sizeOf p, n - c.pos)
decreasing_by
  all_goals first
    | (apply Prod.Lex.left
       simp only [Pattern.seq.sizeOf_spec, Pattern.alt.sizeOf_spec, Pattern.star.sizeOf_spec,
         Pattern.group.sizeOf_spec]
       omega)
    | (apply Prod.Lex.right; have := c'.pos_add; omega)

end Pattern

/-- A match: where it starts and ends, and the spans of its groups. -/
structure Match where
  start : Nat
  stop : Nat
  captures : Captures
  deriving Repr

namespace Match

/-- The characters of the subject from position `i` up to position `j`. -/
def slice (s : List Char) (i j : Nat) : String :=
  String.ofList ((s.drop i).take (j - i))

/-- The text of the whole match. -/
def text (m : Match) (s : List Char) : String :=
  slice s m.start m.stop

/-- The span of the named group in its last iteration, if the group took part in the match. -/
def span? (m : Match) (name : String) : Option (Nat × Nat) :=
  (m.captures.find? (·.1 == name)).map (·.2)

/-- The text of the named group, if the group took part in the match. -/
def group? (m : Match) (s : List Char) (name : String) : Option String :=
  (m.span? name).map fun (i, j) => slice s i j

end Match

end TableDdl

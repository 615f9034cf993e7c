import TableDdl.Pattern.Search

/-!
# Every match of a pattern

`Pattern.findAll` lists the successive leftmost-first matches of a pattern that do not
overlap: each search starts where the previous match ended, or one character later when that
match was empty. `Pattern.deleteAll` removes every such match from the subject.
-/

namespace TableDdl

/-- Where the search for the next match resumes: at the end of the match, or one character
later if the match was empty. -/
def Match.resume (m : Match) : Nat :=
  if m.start < m.stop then m.stop else m.stop + 1

namespace Program

/-- The successive non-overlapping matches of the program from position `pos` on. -/
def matchesFrom (prog : Program) (subject : Array Char) (pos : Nat) : List Match :=
  match prog.searchFrom subject {} pos with
  | none => []
  | some m =>
    if pos < m.resume ∧ m.resume ≤ subject.size then m :: prog.matchesFrom subject m.resume
    else [m]
termination_by subject.size + 1 - pos

end Program

namespace Pattern

/-- The successive non-overlapping matches of `p` in the subject. -/
def findAll (p : Pattern) (s : List Char) : List Match :=
  p.compile.matchesFrom s.toArray 0

/-- The characters of `s` from position `i` on that lie outside the given spans, which are
sorted and start at `i` or later. -/
def gaps (s : List Char) (i : Nat) : List Match → List Char
  | [] => s.drop i
  | m :: ms => (s.drop i).take (m.start - i) ++ gaps s m.stop ms

/-- The subject with every match of `p` removed. -/
def deleteAll (p : Pattern) (s : List Char) : List Char :=
  gaps s 0 (p.findAll s)

end Pattern

end TableDdl

import TableDdl.Proofs.Matching.Leftmost

/-!
# Running patterns by structural recursion

`Pattern.run` recurs on the pattern and, in a repetition, on the characters left. That recursion
is well founded but does not reduce in the kernel. `Pattern.runDirect` is the same matcher by
structural recursion on the pattern, each repetition bounded by the characters left, and it runs
as `run` (`runDirect_eq_run`). The kernel evaluates it, so what a grammar matches in a given
line can be computed (`leftmost_eq_direct`).
-/

namespace TableDdl

namespace Pattern

/-- Repetition of a matcher, with the number of passes bounded by `bound`; each pass must move
the cursor on. -/
def repeatDirect {n : Nat} {α : Type}
    (body : Cursor n → Captures → (Cursor n → Captures → Option α) → Option α) (g : Bool) :
    Nat → Cursor n → Captures → (Cursor n → Captures → Option α) → Option α
  | 0, _, _, _ => none
  | bound + 1, c, caps, k =>
    let again := fun (_ : Unit) =>
      body c caps fun c' caps' => if c.pos < c'.pos then repeatDirect body g bound c' caps' k else none
    if g then (again ()).orElse fun _ => k c caps else (k c caps).orElse again

/-- `run` by structural recursion on the pattern: a repetition at a cursor passes at most as
often as characters are left, plus one. -/
def runDirect {n : Nat} {α : Type} :
    Pattern → Cursor n → Captures → (Cursor n → Captures → Option α) → Option α
  | .empty, c, caps, k => k c caps
  | .chars cls, c, caps, k =>
    match c with
    | ⟨pos, x :: r, h⟩ =>
      if cls.admits x then k ⟨pos + 1, r, succ_add_length_of_cons h⟩ caps else none
    | ⟨_, [], _⟩ => none
  | .seq p q, c, caps, k => p.runDirect c caps fun c' caps' => q.runDirect c' caps' k
  | .alt p q, c, caps, k => (p.runDirect c caps k).orElse fun _ => q.runDirect c caps k
  | .star g p, c, caps, k =>
    repeatDirect (fun c caps k => p.runDirect c caps k) g (n + 1 - c.pos) c caps k
  | .group name p, c, caps, k =>
    p.runDirect c caps fun c' caps' => k c' ((name, c.pos, c'.pos) :: caps')
  | .atStart, c, caps, k => if c.pos = 0 then k c caps else none
  | .atEnd, c, caps, k => if c.rest.isEmpty then k c caps else none

/-- With a bound beyond the characters left, the bounded repetition runs as the repetition. -/
theorem repeatDirect_eq_run {n : Nat} {α : Type} (g : Bool) (p : Pattern) (bound : Nat) :
    ∀ (c : Cursor n) (caps : Captures) (k : Cursor n → Captures → Option α),
      n + 1 - c.pos ≤ bound → repeatDirect (fun c caps k => p.run c caps k) g bound c caps k =
        (p.star g).run c caps k := by
  induction bound with
  | zero =>
    intro c caps k h
    have := c.pos_add
    omega
  | succ bound ih =>
    intro c caps k h
    -- each further pass starts further on, where the smaller bound still suffices
    have hagain : (fun c' caps' => if c.pos < c'.pos then repeatDirect (fun c caps k => p.run c caps k) g bound c' caps' k else none) =
        fun (c' : Cursor n) caps' => if c.pos < c'.pos then (p.star g).run c' caps' k else none := by
      funext c' caps'
      split
      · exact ih c' caps' k (by omega)
      · rfl
    rw [repeatDirect, run_star]
    simp only [hagain]

/-- The structural copy of `run` runs as `run`. -/
theorem runDirect_eq_run {n : Nat} {α : Type} (p : Pattern) :
    ∀ (c : Cursor n) (caps : Captures) (k : Cursor n → Captures → Option α),
      p.runDirect c caps k = p.run c caps k := by
  induction p with
  | empty => intro c caps k; simp [runDirect]
  | chars cls =>
    intro c caps k
    obtain ⟨pos, rest, h⟩ := c
    cases rest <;> simp [runDirect, Pattern.run]
  | seq p q ihp ihq => intro c caps k; simp [runDirect, ihp, ihq]
  | alt p q ihp ihq => intro c caps k; simp [runDirect, ihp, ihq]
  | star g p ih =>
    intro c caps k
    have hbody : (fun c caps k => p.runDirect c caps k) = fun (c : Cursor n) caps (k : Cursor n → Captures → Option α) => p.run c caps k := by
      funext c caps k
      exact ih c caps k
    rw [runDirect, hbody]
    exact repeatDirect_eq_run g p _ c caps k le_rfl
  | group name p ih => intro c caps k; simp [runDirect, ih]
  | atStart => intro c caps k; simp [runDirect]
  | atEnd => intro c caps k; simp [runDirect]

/-- The leftmost-first match, computed with the structural copy of `run`. -/
theorem leftmost_eq_direct (p : Pattern) (s : List Char) :
    p.leftmost s = (List.range (s.length + 1)).findSome? fun i =>
      p.runDirect ((Cursor.start s).skip i) [] fun c' caps =>
        some ⟨((Cursor.start s).skip i).pos, c'.pos, caps⟩ := by
  simp only [leftmost, leftmostFrom, Nat.sub_zero, List.range_eq_range', runDirect_eq_run]
  rfl

end Pattern

end TableDdl

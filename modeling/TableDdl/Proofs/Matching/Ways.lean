import TableDdl.Proofs.Matching.Leftmost

/-!
# The ways of matching a pattern

`Pattern.ways` lists every way of matching a pattern at a cursor, in order of preference: where
the way leaves the cursor and which groups it has recorded by then. Running the pattern hands
these ways to the continuation in that order and gives the first answer (`run_eq_findSome?`).
So the match at a cursor is the first way there (`matchAt_eq_head?`), and a pattern runs to the
continuation's answer at the one way that the continuation accepts, when there is one such way
(`run_eq_of_unique`). The ways of the pieces the grammars are built from follow: a literal reads
its text without regard to case (`ways_literal`), and a greedy repetition of a class reads every
run of the class's characters, the longest first (`ways_many_chars`).
-/

namespace TableDdl

namespace Pattern

/-- Every way of matching the pattern at the cursor, in order of preference: where the way
leaves the cursor, and the groups recorded by then. -/
def ways {n : Nat} : Pattern → Cursor n → Captures → List (Cursor n × Captures)
  | .empty, c, caps => [(c, caps)]
  | .chars cls, c, caps =>
    match c with
    | ⟨pos, x :: r, h⟩ =>
      if cls.admits x then [(⟨pos + 1, r, succ_add_length_of_cons h⟩, caps)] else []
    | ⟨_, [], _⟩ => []
  | .seq p q, c, caps => (p.ways c caps).flatMap fun w => q.ways w.1 w.2
  | .alt p q, c, caps => p.ways c caps ++ q.ways c caps
  | .star greedy p, c, caps =>
    let again := (p.ways c caps).flatMap fun w =>
      if c.pos < w.1.pos then (Pattern.star greedy p).ways w.1 w.2 else []
    if greedy then again ++ [(c, caps)] else (c, caps) :: again
  | .group name p, c, caps => (p.ways c caps).map fun w => (w.1, (name, c.pos, w.1.pos) :: w.2)
  | .atStart, c, caps => if c.pos = 0 then [(c, caps)] else []
  | .atEnd, c, caps => if c.rest.isEmpty then [(c, caps)] else []
termination_by p c => (sizeOf p, n - c.pos)
decreasing_by
  all_goals first
    | (apply Prod.Lex.left
       simp only [Pattern.seq.sizeOf_spec, Pattern.alt.sizeOf_spec, Pattern.star.sizeOf_spec,
         Pattern.group.sizeOf_spec]
       omega)
    | (apply Prod.Lex.right; have := w.1.pos_add; omega)

section Equations

variable {n : Nat} (c : Cursor n) (caps : Captures)

@[simp] theorem ways_empty : Pattern.empty.ways c caps = [(c, caps)] := by rw [ways]

@[simp] theorem ways_seq (p q : Pattern) :
    (p.seq q).ways c caps = (p.ways c caps).flatMap fun w => q.ways w.1 w.2 := by rw [ways]

@[simp] theorem ways_alt (p q : Pattern) :
    (p.alt q).ways c caps = p.ways c caps ++ q.ways c caps := by rw [ways]

theorem ways_star (g : Bool) (p : Pattern) :
    (p.star g).ways c caps =
      let again := (p.ways c caps).flatMap fun w =>
        if c.pos < w.1.pos then (p.star g).ways w.1 w.2 else []
      if g then again ++ [(c, caps)] else (c, caps) :: again := by rw [ways]

@[simp] theorem ways_group (name : String) (p : Pattern) :
    (p.group name).ways c caps = (p.ways c caps).map fun w => (w.1, (name, c.pos, w.1.pos) :: w.2) := by
  rw [ways]

@[simp] theorem ways_atStart : Pattern.atStart.ways c caps = if c.pos = 0 then [(c, caps)] else [] := by
  rw [ways]

@[simp] theorem ways_atEnd : Pattern.atEnd.ways c caps = if c.rest.isEmpty then [(c, caps)] else [] := by
  rw [ways]

@[simp] theorem ways_chars_nil (cls : CharClass) (pos : Nat) (h : pos + [].length = n) :
    (Pattern.chars cls).ways ⟨pos, [], h⟩ caps = [] := by
  rw [ways]

@[simp] theorem ways_chars_cons (cls : CharClass) (pos : Nat) (x : Char) (r : List Char)
    (h : pos + (x :: r).length = n) :
    (Pattern.chars cls).ways ⟨pos, x :: r, h⟩ caps =
      if cls.admits x then [(⟨pos + 1, r, succ_add_length_of_cons h⟩, caps)] else [] := by
  rw [ways]

end Equations

theorem findSome?_flatMap {α β γ : Type} (l : List α) (f : α → List β) (g : β → Option γ) :
    (l.flatMap f).findSome? g = l.findSome? fun a => (f a).findSome? g := by
  induction l with
  | nil => rfl
  | cons a l ih =>
    simp only [List.flatMap_cons, List.findSome?_append, List.findSome?_cons, ih]
    cases (f a).findSome? g <;> rfl

/-- Running a pattern hands its ways to the continuation in order of preference, and gives
what the continuation first accepts. -/
theorem run_eq_findSome? {n : Nat} {α : Type} (p : Pattern) (c : Cursor n) (caps : Captures)
    (k : Cursor n → Captures → Option α) :
    p.run c caps k = (p.ways c caps).findSome? fun w => k w.1 w.2 := by
  induction p generalizing c caps k with
  | empty => simp
  | chars cls =>
    obtain ⟨pos, rest, h⟩ := c
    cases rest with
    | nil => simp [Pattern.run]
    | cons x r =>
      by_cases hx : cls.admits x = true <;> simp [Pattern.run, hx]
  | seq p q ihp ihq =>
    simp only [run_seq, ways_seq, findSome?_flatMap, ihp, ihq]
  | alt p q ihp ihq =>
    simp [ihp, ihq]
  | star g p ih =>
    -- the repetition comes back to itself further on: induction on the characters left
    induction h : n - c.pos using Nat.strong_induction_on generalizing c caps k with
    | _ m ihm =>
      have hagain : (p.run c caps fun c' caps' =>
          if c.pos < c'.pos then (p.star g).run c' caps' k else none) =
          ((p.ways c caps).flatMap fun w =>
            if c.pos < w.1.pos then (p.star g).ways w.1 w.2 else []).findSome? fun w => k w.1 w.2 := by
        rw [ih, findSome?_flatMap]
        congr 1
        funext w
        split
        · rename_i hlt
          exact ihm (n - w.1.pos) (by have := w.1.pos_add; omega) w.1 w.2 k rfl
        · rfl
      rw [run_star, ways_star]
      cases g with
      | true => simp [hagain]
      | false =>
        simp only [hagain, Bool.false_eq_true, if_false, Option.orElse_eq_or, List.findSome?_cons]
        cases k c caps <;> rfl
  | group name p ih =>
    rw [run_group, ih, ways_group, List.findSome?_map]
    rfl
  | atStart => by_cases h : c.pos = 0 <;> simp [h]
  | atEnd => by_cases h : c.rest.isEmpty = true <;> simp [h]

/-- The match at a cursor is the first way of matching there. -/
theorem matchAt_eq_head? {n : Nat} (p : Pattern) (c : Cursor n) :
    p.matchAt c = (p.ways c []).head?.map fun w => ⟨c.pos, w.1.pos, w.2⟩ := by
  rw [matchAt, run_eq_findSome?]
  cases p.ways c [] <;> simp

/-- The first answer of a list is that of its one member with an answer, if it has one. -/
theorem findSome?_eq_of_unique {α β : Type} {l : List α} {g : α → Option β} {a₀ : α}
    (h₀ : a₀ ∈ l) (huniq : ∀ a ∈ l, (g a).isSome → a = a₀) : l.findSome? g = g a₀ := by
  induction l with
  | nil => cases h₀
  | cons a l ih =>
    rw [List.findSome?_cons]
    by_cases ha : a = a₀
    · subst ha
      cases hg : g a with
      | some b => rfl
      | none =>
        -- no member has an answer: any that had one would be `a`
        simp only [List.findSome?_eq_none_iff]
        intro x hx
        cases hgx : g x with
        | none => rfl
        | some b =>
          have := huniq x (List.mem_cons_of_mem _ hx) (by simp [hgx])
          subst this
          simp [hg] at hgx
    · have hnone : g a = none := by
        cases hg : g a with
        | none => rfl
        | some b => exact absurd (huniq a List.mem_cons_self (by simp [hg])) ha
      rw [hnone]
      exact ih (List.mem_of_ne_of_mem (Ne.symm ha) h₀) fun x hx => huniq x (List.mem_cons_of_mem _ hx)

/-- A pattern runs to what the continuation gives at its one way on which the continuation
gives anything. -/
theorem run_eq_of_unique {n : Nat} {α : Type} {p : Pattern} {c : Cursor n} {caps : Captures}
    {k : Cursor n → Captures → Option α} {w₀ : Cursor n × Captures} (h₀ : w₀ ∈ p.ways c caps)
    (huniq : ∀ w ∈ p.ways c caps, (k w.1 w.2).isSome → w = w₀) :
    p.run c caps k = k w₀.1 w₀.2 := by
  rw [run_eq_findSome?]
  exact findSome?_eq_of_unique h₀ huniq

/-- A pattern runs to something exactly when one of its ways is accepted by the continuation. -/
theorem run_isSome_iff {n : Nat} {α : Type} {p : Pattern} {c : Cursor n} {caps : Captures}
    {k : Cursor n → Captures → Option α} :
    (p.run c caps k).isSome ↔ ∃ w ∈ p.ways c caps, (k w.1 w.2).isSome := by
  rw [run_eq_findSome?, List.findSome?_isSome_iff]

end Pattern

namespace Cursor

variable {n : Nat}

theorem ext_pos_rest {c c' : Cursor n} (hpos : c.pos = c'.pos) (hrest : c.rest = c'.rest) :
    c = c' := by
  cases c
  cases c'
  simp_all

@[simp] theorem rest_skip (c : Cursor n) (i : Nat) : (c.skip i).rest = c.rest.drop i := rfl

@[simp] theorem pos_skip (c : Cursor n) (i : Nat) : (c.skip i).pos = c.pos + min i c.rest.length :=
  rfl

@[simp] theorem skip_zero (c : Cursor n) : c.skip 0 = c :=
  ext_pos_rest (by simp) (by simp)

theorem skip_skip (c : Cursor n) (i j : Nat) : (c.skip i).skip j = c.skip (i + j) :=
  ext_pos_rest (by simp; omega) (by simp [List.drop_drop])

end Cursor

namespace Unicode

/-- Whether `xs` matches the start of `ys` without regard to case: each character of `ys` folds
to the same character as the one of `xs` in its place. -/
def foldPrefix : List Char → List Char → Bool
  | [], _ => true
  | _ :: _, [] => false
  | x :: xs, y :: ys => (foldOrbit x).contains y && foldPrefix xs ys

end Unicode

namespace Pattern

variable {n : Nat}

theorem admits_anyOf_char (x y : Char) :
    (CharClass.anyOf [.char x]).admits y = true ↔ y ∈ Unicode.foldOrbit x := by
  simp [CharClass.anyOf, CharClass.admits, ClassItem.admits, List.any_map, Function.comp_def]

/-- A class of one character reads one character of the class, if the subject goes on with
one. -/
theorem ways_chars (cls : CharClass) (c : Cursor n) (caps : Captures) :
    (Pattern.chars cls).ways c caps =
      match c.rest with
      | x :: _ => if cls.admits x then [(c.skip 1, caps)] else []
      | [] => [] := by
  obtain ⟨pos, rest, h⟩ := c
  cases rest with
  | nil => simp
  | cons x r =>
    by_cases hx : cls.admits x = true
    · simp only [ways_chars_cons, hx, if_true]
      exact congrArg (fun c => [(c, caps)]) (Cursor.ext_pos_rest (by simp) (by simp))
    · simp [hx]

@[simp] theorem ways_opt (p : Pattern) (c : Cursor n) (caps : Captures) :
    p.opt.ways c caps = p.ways c caps ++ [(c, caps)] := by
  simp [opt]

/-- A literal reads its characters without regard to case. -/
theorem ways_foldr_literal (xs : List Char) (c : Cursor n) (caps : Captures) :
    (xs.foldr (fun x p => oneOf [.char x] ++ p) .empty).ways c caps =
      if Unicode.foldPrefix xs c.rest then [(c.skip xs.length, caps)] else [] := by
  induction xs generalizing c with
  | nil => simp [Unicode.foldPrefix]
  | cons x xs ih =>
    simp only [List.foldr_cons]
    show ((oneOf [.char x]).seq _).ways c caps = _
    rw [ways_seq, oneOf, ways_chars]
    obtain ⟨pos, rest, h⟩ := c
    cases rest with
    | nil => simp [Unicode.foldPrefix]
    | cons y r =>
      by_cases hy : y ∈ Unicode.foldOrbit x
      · have hadm := (admits_anyOf_char x y).2 hy
        simp only [hadm, if_true, List.flatMap_cons, List.flatMap_nil, List.append_nil, ih,
          Cursor.skip_skip]
        simp [Unicode.foldPrefix, hy, Nat.add_comm]
      · have hadm : (CharClass.anyOf [.char x]).admits y = false :=
          Bool.eq_false_iff.2 fun h => hy ((admits_anyOf_char x y).1 h)
        simp [hadm, Unicode.foldPrefix, hy]

theorem ways_literal (s : String) (c : Cursor n) (caps : Captures) :
    (literal s).ways c caps =
      if Unicode.foldPrefix s.toList c.rest then [(c.skip s.length, caps)] else [] :=
  ways_foldr_literal s.toList c caps

theorem map_reverse_range_succ {α : Type} (m : Nat) (f : Nat → α) :
    (List.range (m + 1)).reverse.map f = (List.range m).reverse.map (fun i => f (i + 1)) ++ [f 0] := by
  rw [List.range_succ_eq_map]
  simp [List.map_reverse, Function.comp_def]

/-- A greedy repetition of a class reads every run of the class's characters from the cursor,
the longest first. -/
theorem ways_many_chars (cls : CharClass) (c : Cursor n) (caps : Captures) :
    (Pattern.star true (.chars cls)).ways c caps =
      ((List.range ((c.rest.takeWhile cls.admits).length + 1)).reverse.map fun i =>
        (c.skip i, caps)) := by
  induction h : c.rest generalizing c with
  | nil =>
    rw [ways_star, ways_chars, h]
    simp
  | cons x r ih =>
    rw [ways_star, ways_chars, h]
    by_cases hx : cls.admits x = true
    · have hpos : c.pos < (c.skip 1).pos := by simp [h]
      simp only [hx, if_true, List.flatMap_cons, List.flatMap_nil, List.append_nil, hpos,
        ih (c.skip 1) (by simp [h]), Cursor.skip_skip, if_true]
      rw [List.takeWhile_cons_of_pos hx, List.length_cons, map_reverse_range_succ _ fun i => (c.skip i, caps)]
      simp [Nat.add_comm]
    · simp [hx]

end Pattern

end TableDdl

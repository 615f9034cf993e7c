import TableDdl.Proofs.Matching.Compile
import TableDdl.Pattern.Iterate

/-!
# The search finds the leftmost-first match

The meaning of a pattern in a subject is its first match, in order of preference, at the first
start position where it has one (`Pattern.leftmost`), and the successive matches that do not
overlap (`Pattern.allFrom`). The library's search walks the compiled program from each start
position instead, sharing what it learns between them, and reports the groups from the slots.
For a pattern whose repetitions all consume and whose group names are distinct the two agree:
the same start and end, and the same span for every name (`find?_agrees`, `findAll_agrees`),
so deleting every match deletes the matches of the meaning (`deleteAll_eq`).
-/

namespace TableDdl

namespace Pattern

/-- The first match of `p` at a start position from `pos` on, the positions tried from left to
right. -/
def leftmostFrom (p : Pattern) (s : List Char) (pos : Nat) : Option Match :=
  (List.range' pos (s.length + 1 - pos)).findSome? fun i => p.matchAt ((Cursor.start s).skip i)

/-- The leftmost-first match of `p` in the subject. -/
def leftmost (p : Pattern) (s : List Char) : Option Match :=
  p.leftmostFrom s 0

/-- The successive leftmost-first matches of `p` that do not overlap, from position `pos` on. -/
def allFrom (p : Pattern) (s : List Char) (pos : Nat) : List Match :=
  match p.leftmostFrom s pos with
  | none => []
  | some m => if pos < m.resume ∧ m.resume ≤ s.length then m :: p.allFrom s m.resume else [m]
termination_by s.length + 1 - pos

theorem pos_skip_start {s : List Char} {i : Nat} (h : i ≤ s.length) :
    ((Cursor.start s).skip i).pos = i := by
  simp [Cursor.skip, Cursor.start, h]

@[simp] theorem rest_skip_start (s : List Char) (i : Nat) :
    ((Cursor.start s).skip i).rest = s.drop i := by
  simp [Cursor.skip, Cursor.start]

/-- Past the first character of the rest, a cursor still adds up to the subject's length. -/
theorem succ_add_length_of_cons {n pos : Nat} {x : Char} {r : List Char}
    (h : pos + (x :: r).length = n) : pos + 1 + r.length = n := by
  simp at h; omega

theorem leftmostFrom_eq {p : Pattern} {s : List Char} {pos : Nat} (h : pos ≤ s.length) :
    p.leftmostFrom s pos =
      (p.matchAt ((Cursor.start s).skip pos)).orElse fun _ => p.leftmostFrom s (pos + 1) := by
  unfold leftmostFrom
  rw [show s.length + 1 - pos = (s.length + 1 - (pos + 1)) + 1 by omega, List.range'_succ,
    List.findSome?_cons]
  cases p.matchAt ((Cursor.start s).skip pos) <;> rfl

theorem leftmostFrom_of_lt {p : Pattern} {s : List Char} {pos : Nat} (h : s.length < pos) :
    p.leftmostFrom s pos = none := by
  simp [leftmostFrom, show s.length + 1 - pos = 0 by omega]

end Pattern

namespace Match

/-- Two matches agree when they start and end at the same positions and give every group the
same span. -/
def Agrees (m m' : Match) : Prop :=
  m.start = m'.start ∧ m.stop = m'.stop ∧ ∀ name, m.span? name = m'.span? name

theorem Agrees.group? {m m' : Match} (h : Agrees m m') (s : List Char) (name : String) :
    m.group? s name = m'.group? s name := by
  simp [Match.group?, h.2.2 name]

theorem Agrees.resume {m m' : Match} (h : Agrees m m') : m.resume = m'.resume := by
  simp [Match.resume, h.1, h.2.1]

theorem span?_eq_capsSpan (m : Match) (name : String) :
    m.span? name = Program.capsSpan m.captures name := rfl

end Match

namespace Program

/-- The span that a list of captures gives a name is `v` when every capture of the name holds
`v` and `v`, when it is a span, is captured under the name. -/
theorem capsSpan_eq {L : Captures} {name : String} {v : Option (Nat × Nat)}
    (h₁ : ∀ x ∈ L, x.1 = name → v = some x.2) (h₂ : ∀ ij, v = some ij → (name, ij) ∈ L) :
    capsSpan L name = v := by
  unfold capsSpan
  cases hf : L.find? (·.1 == name) with
  | none =>
    cases v with
    | none => rfl
    | some ij =>
      have := List.find?_eq_none.1 hf _ (h₂ ij rfl)
      simp at this
  | some x =>
    have hn : x.1 = name := by simpa using List.find?_some hf
    simp [h₁ x (List.mem_of_find?_eq_some hf) hn]

theorem mem_captures {P : Program} {σ : Slots} {x : String × Nat × Nat} :
    x ∈ P.captures σ ↔ ∃ g, P.groups[g]? = some x.1 ∧ slotSpan σ g = some x.2 := by
  obtain ⟨name, ij⟩ := x
  unfold captures slotSpan
  simp only [List.mem_reverse, List.mem_filterMap, List.mem_range]
  constructor
  · rintro ⟨g, -, hx⟩
    refine ⟨g, ?_⟩
    split at hx
    · cases hx
      simp_all
    · cases hx
  · rintro ⟨g, hg, hs⟩
    refine ⟨g, (Array.getElem?_eq_some_iff.1 hg).1, ?_⟩
    split at hs
    · rename_i i j hi hj
      cases hs
      simp [hg, hi, hj]
    · cases hs

/-- The captures that a program reports for slots that agree with the captures of a run give
every name the span that the run's captures give it, when the group names are distinct. -/
theorem span?_captures {P : Program} (hnodup : P.groups.toList.Nodup) {σ : Slots}
    {caps : Captures} (h : SlotsAgree P (fun _ => none) σ caps) (a b : Nat) (name : String) :
    (Match.mk a b (P.captures σ)).span? name = capsSpan caps name := by
  rw [Match.span?_eq_capsSpan]
  by_cases hname : ∃ g : Nat, P.groups[g]? = some name
  · obtain ⟨g, hg⟩ := hname
    obtain ⟨hlt, hgn⟩ := Array.getElem?_eq_some_iff.1 hg
    -- the group of the name is the only one that can report it
    have huniq : ∀ g' : Nat, P.groups[g']? = some name → g' = g := by
      intro g' hg'
      have hlt' := (Array.getElem?_eq_some_iff.1 hg').1
      have heq : P.groups.toList[g']? = P.groups.toList[g]? := by simp [hg, hg']
      exact (List.getElem?_inj (by simpa using hlt') hnodup).1 heq
    have hclosed := h.closed g hlt rfl
    rw [hgn] at hclosed
    rw [← hclosed]
    apply capsSpan_eq
    · intro x hx hn
      obtain ⟨g', hg', hs⟩ := mem_captures.1 hx
      rw [← huniq g' (hn ▸ hg'), hs]
    · intro ij hij
      exact mem_captures.2 ⟨g, hg, hij⟩
  · -- a name that no group has is reported by neither side
    have hnot : ∀ g : Nat, P.groups[g]? ≠ some name := fun g hg => hname ⟨g, hg⟩
    have hcaps : capsSpan caps name = none := by
      apply capsSpan_eq
      · intro x hx hn
        obtain ⟨g, hg⟩ := Array.getElem?_of_mem (hn ▸ h.names x hx)
        exact absurd hg (hnot g)
      · intro ij hij
        cases hij
    rw [hcaps]
    apply capsSpan_eq
    · intro x hx hn
      obtain ⟨g, hg, -⟩ := mem_captures.1 hx
      exact absurd (hn ▸ hg) (hnot g)
    · intro ij hij
      cases hij

variable {p : Pattern} {s : List Char}

/-- The compiled program, walked from its start at a position of the subject, finds the match of
the pattern that starts there. -/
theorem finds_compile_at (hp : p.Progressive) (hn : p.groupNames.Nodup) (s : List Char)
    {pos : Nat} (hpos : pos ≤ s.length) :
    ∃ r, Finds p.compile s.toArray (p.compile.start, pos) p.compile.initialSlots r ∧
      Option.Rel (fun (x : Slots × Nat) (m : Match) => m.start = pos ∧ x.2 = m.stop ∧
        SlotsAgree p.compile (fun _ => none) x.1 m.captures)
        r (p.matchAt ((Cursor.start s).skip pos)) := by
  have h := finds_compile hp hn s ((Cursor.start s).skip pos)
    (by simp [Pattern.pos_skip_start hpos])
  rwa [Pattern.pos_skip_start hpos] at h

/-- What the search over start positions finds is the leftmost-first match of the pattern. -/
theorem searches_leftmostFrom (hp : p.Progressive) (hn : p.groupNames.Nodup) {pos : Nat}
    {r : Option Match} (h : Searches p.compile s.toArray pos r) (hpos : pos ≤ s.length) :
    Option.Rel Match.Agrees r (p.leftmostFrom s pos) := by
  induction h with
  | @found pos σ stop hf =>
    obtain ⟨r, hr, hrel⟩ := finds_compile_at hp hn s hpos
    rw [hr.det hf] at hrel
    obtain ⟨m, hm, hstart, hstop, hagree⟩ : ∃ m, p.matchAt ((Cursor.start s).skip pos) = some m ∧
        m.start = pos ∧ stop = m.stop ∧ SlotsAgree p.compile (fun _ => none) σ m.captures := by
      cases hm : p.matchAt ((Cursor.start s).skip pos) with
      | none => rw [hm] at hrel; simp at hrel
      | some m => rw [hm] at hrel; exact ⟨m, rfl, by simpa using hrel⟩
    rw [Pattern.leftmostFrom_eq hpos, hm]
    exact .some ⟨hstart.symm, hstop, fun name =>
      (span?_captures (compile_groups_nodup hn) hagree _ _ name).trans (Match.span?_eq_capsSpan _ _).symm⟩
  | @next pos r hf hlt _ ih =>
    obtain ⟨r', hr, hrel⟩ := finds_compile_at hp hn s hpos
    rw [hr.det hf] at hrel
    have hm : p.matchAt ((Cursor.start s).skip pos) = none := by
      cases hm : p.matchAt ((Cursor.start s).skip pos) with
      | none => rfl
      | some m => rw [hm] at hrel; simp at hrel
    rw [Pattern.leftmostFrom_eq hpos, hm]
    exact ih (by simp at hlt; omega)
  | @last pos hf hlt =>
    obtain ⟨r', hr, hrel⟩ := finds_compile_at hp hn s hpos
    rw [hr.det hf] at hrel
    have hm : p.matchAt ((Cursor.start s).skip pos) = none := by
      cases hm : p.matchAt ((Cursor.start s).skip pos) with
      | none => rfl
      | some m => rw [hm] at hrel; simp at hrel
    rw [Pattern.leftmostFrom_eq hpos, hm, Pattern.leftmostFrom_of_lt (by simp at hlt; omega)]
    exact .none

/-- The search from a start position finds the leftmost-first match from there on. -/
theorem searchFrom_agrees (hp : p.Progressive) (hn : p.groupNames.Nodup) {pos : Nat}
    (hpos : pos ≤ s.length) :
    Option.Rel Match.Agrees (p.compile.searchFrom s.toArray {} pos) (p.leftmostFrom s pos) := by
  refine searches_leftmostFrom hp hn (searchFrom_searches _ pos (by simpa using hpos) ?_ ?_) hpos
  · intro i q _ hq
    simp at hq
  · intro q hq
    obtain ⟨r, hr, -⟩ := finds_compile_at hp hn s (by simpa using hq)
    exact ⟨_, _, hr⟩

/-- The search of a pattern whose repetitions all consume and whose group names are distinct
finds the leftmost-first match that the pattern's meaning gives. -/
theorem find?_agrees (hp : p.Progressive) (hn : p.groupNames.Nodup) (s : List Char) :
    Option.Rel Match.Agrees (p.find? s) (p.leftmost s) :=
  searchFrom_agrees hp hn (Nat.zero_le _)

/-- The successive matches from a position are those of the pattern's meaning. -/
theorem matchesFrom_agrees (hp : p.Progressive) (hn : p.groupNames.Nodup) (pos : Nat)
    (hpos : pos ≤ s.length) :
    List.Forall₂ Match.Agrees (p.compile.matchesFrom s.toArray pos) (p.allFrom s pos) := by
  have h := searchFrom_agrees hp hn hpos
  rw [matchesFrom, Pattern.allFrom]
  generalize p.compile.searchFrom s.toArray {} pos = a at h ⊢
  generalize p.leftmostFrom s pos = b at h ⊢
  cases h with
  | none => exact .nil
  | @some m m' hm =>
    simp only [List.size_toArray, hm.resume]
    split
    · rename_i hlt
      exact .cons hm (matchesFrom_agrees hp hn m'.resume hlt.2)
    · exact .cons hm .nil
termination_by s.length + 1 - pos

/-- The matches that `findAll` lists are those of the pattern's meaning. -/
theorem findAll_agrees (hp : p.Progressive) (hn : p.groupNames.Nodup) (s : List Char) :
    List.Forall₂ Match.Agrees (p.findAll s) (p.allFrom s 0) :=
  matchesFrom_agrees hp hn 0 (Nat.zero_le _)

end Program

namespace Pattern

theorem gaps_congr {s : List Char} {i : Nat} {ms ms' : List Match}
    (h : List.Forall₂ Match.Agrees ms ms') : gaps s i ms = gaps s i ms' := by
  induction h generalizing i with
  | nil => rfl
  | cons hm _ ih => simp [gaps, hm.1, hm.2.1, ih]

/-- Deleting every match of a pattern deletes the successive matches of its meaning. -/
theorem deleteAll_eq {p : Pattern} (hp : p.Progressive) (hn : p.groupNames.Nodup) (s : List Char) :
    p.deleteAll s = gaps s 0 (p.allFrom s 0) :=
  gaps_congr (Program.findAll_agrees hp hn s)

end Pattern

end TableDdl

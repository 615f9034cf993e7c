import Mathlib.Logic.Relation
import Mathlib.Data.Finset.Card
import TableDdl.Pattern.Search

/-!
# The walk of a program finds the first way to the accepting step

A program is walked from a step at a position: reading a character moves one position on, a
branch tries its first step and then its second, a save records the position in a slot and puts
the slot back when the walk leaves that way, an anchor lets the walk on where it holds.
`Program.Finds` says what exploring every way on finds when nothing is remembered: the slots
and the position of the first way, in order of preference, that reaches the accepting step. It
is a relation, and it holds exactly where the ways on from a step are finite, so where the
program has no loop that comes back to a step without reading a character.

`Program.walk` explores the same ways with an explicit stack of tasks and never goes on from a
step at a position it has visited before. On the ways that `Finds` describes, that changes
nothing: a visited pair either failed already, or it is still being explored, and then it cannot
be reached again without a loop. `walk_finds` states this for any stack of tasks whose visits
are finite, with enough fuel; `searchFrom_searches` lifts it to the search over start positions,
which shares its visited pairs between them.
-/

namespace TableDdl

namespace Program

/-- The capture slots that the walk carries. -/
abbrev Slots := Array (Option Nat)

variable (prog : Program) (subject : Array Char)

/-- The pairs of step and position that the walk moves on to from a step at a position, the
preferred first: past a character the step admits, to both steps of a branch, and on in place
from a save or from an anchor that holds. -/
def succs (x : Nat × Nat) : List (Nat × Nat) :=
  match prog.steps[x.1]? with
  | some (.chars k next) =>
    match subject[x.2]? with
    | some c => if k.admits c then [(next, x.2 + 1)] else []
    | none => []
  | some (.branch a b) => [(a, x.2), (b, x.2)]
  | some (.save _ next) => [(next, x.2)]
  | some (.atStart next) => if x.2 = 0 then [(next, x.2)] else []
  | some (.atEnd next) => if x.2 = subject.size then [(next, x.2)] else []
  | some .accept | none => []

/-- A move of the walk. -/
def Moves (x y : Nat × Nat) : Prop := y ∈ succs prog subject x

/-- What exploring every way on from a step at a position finds, the preferred ways first and
nothing remembered: the slots and the position where the accepting step is first reached. -/
inductive Finds : Nat × Nat → Slots → Option (Slots × Nat) → Prop
  | chars {i pos σ k next c r} : prog.steps[i]? = some (.chars k next) →
      subject[pos]? = some c → k.admits c = true → Finds (next, pos + 1) σ r → Finds (i, pos) σ r
  | charsFail {i pos σ k next} : prog.steps[i]? = some (.chars k next) →
      (∀ c, subject[pos]? = some c → k.admits c = false) → Finds (i, pos) σ none
  | branch {i pos σ a b ra rb} : prog.steps[i]? = some (.branch a b) → Finds (a, pos) σ ra →
      Finds (b, pos) σ rb → Finds (i, pos) σ (ra.orElse fun _ => rb)
  | save {i pos σ slot next r} : prog.steps[i]? = some (.save slot next) →
      Finds (next, pos) (σ.set! slot (some pos)) r → Finds (i, pos) σ r
  | atStart {i pos σ next r} : prog.steps[i]? = some (.atStart next) → pos = 0 →
      Finds (next, pos) σ r → Finds (i, pos) σ r
  | atStartFail {i pos σ next} : prog.steps[i]? = some (.atStart next) → pos ≠ 0 →
      Finds (i, pos) σ none
  | atEnd {i pos σ next r} : prog.steps[i]? = some (.atEnd next) → pos = subject.size →
      Finds (next, pos) σ r → Finds (i, pos) σ r
  | atEndFail {i pos σ next} : prog.steps[i]? = some (.atEnd next) → pos ≠ subject.size →
      Finds (i, pos) σ none
  | accept {i pos σ} : prog.steps[i]? = some .accept → Finds (i, pos) σ (some (σ, pos))
  | missing {i pos σ} : prog.steps[i]? = none → Finds (i, pos) σ none

/-- What doing a stack of tasks finds: the first visit that finds something, with the slots
as the tasks before it left them. -/
inductive FindsAll : List Task → Slots → Option (Slots × Nat) → Prop
  | nil {σ} : FindsAll [] σ none
  | restore {slot v rest σ r} : FindsAll rest (σ.set! slot v) r →
      FindsAll (.restore slot v :: rest) σ r
  | visit {i pos rest σ ri rr} : Finds prog subject (i, pos) σ ri → FindsAll rest σ rr →
      FindsAll (.visit i pos :: rest) σ (ri.orElse fun _ => rr)

/-- A pair of step and position from which no way reaches the accepting step. -/
def Dead (x : Nat × Nat) : Prop := ∀ σ r, Finds prog subject x σ r → r = none

/-- A pair of step and position whose ways on are finite. -/
def Finite (x : Nat × Nat) : Prop := ∃ σ r, Finds prog subject x σ r

variable {prog subject}

namespace Finds

/-! ## One inversion lemma per kind of step -/

section Inversion

variable {i pos : Nat} {σ : Slots} {r : Option (Slots × Nat)}

theorem chars_iff {k : CharClass} {next : Nat} (hs : prog.steps[i]? = some (.chars k next)) :
    Finds prog subject (i, pos) σ r ↔
      match subject[pos]? with
      | some c => if k.admits c then Finds prog subject (next, pos + 1) σ r else r = none
      | none => r = none := by
  constructor
  · intro h
    cases h <;> simp_all
    rename_i hc
    cases hsub : subject[pos]? <;> simp_all
  · intro h
    split at h
    · rename_i c hc
      split at h
      · exact .chars hs hc ‹_› h
      · subst h
        exact .charsFail hs fun c' hc' => by simp_all
    · subst h
      exact .charsFail hs fun c' hc' => by simp_all

theorem branch_iff {a b : Nat} (hs : prog.steps[i]? = some (.branch a b)) :
    Finds prog subject (i, pos) σ r ↔ ∃ ra rb, Finds prog subject (a, pos) σ ra ∧
      Finds prog subject (b, pos) σ rb ∧ r = ra.orElse fun _ => rb := by
  constructor
  · intro h
    cases h with
    | branch hs' ha hb =>
      rw [hs] at hs'
      cases hs'
      exact ⟨_, _, ha, hb, rfl⟩
    | _ => simp_all
  · rintro ⟨ra, rb, ha, hb, rfl⟩
    exact .branch hs ha hb

theorem save_iff {slot next : Nat} (hs : prog.steps[i]? = some (.save slot next)) :
    Finds prog subject (i, pos) σ r ↔ Finds prog subject (next, pos) (σ.set! slot (some pos)) r := by
  constructor
  · intro h
    cases h <;> simp_all
  · exact .save hs

theorem atStart_iff {next : Nat} (hs : prog.steps[i]? = some (.atStart next)) :
    Finds prog subject (i, pos) σ r ↔ if pos = 0 then Finds prog subject (next, pos) σ r else r = none := by
  constructor
  · intro h
    cases h <;> simp_all
  · intro h
    split at h
    · exact .atStart hs ‹_› h
    · subst h
      exact .atStartFail hs ‹_›

theorem atEnd_iff {next : Nat} (hs : prog.steps[i]? = some (.atEnd next)) :
    Finds prog subject (i, pos) σ r ↔
      if pos = subject.size then Finds prog subject (next, pos) σ r else r = none := by
  constructor
  · intro h
    cases h <;> simp_all
  · intro h
    split at h
    · exact .atEnd hs ‹_› h
    · subst h
      exact .atEndFail hs ‹_›

theorem accept_iff (hs : prog.steps[i]? = some .accept) :
    Finds prog subject (i, pos) σ r ↔ r = some (σ, pos) := by
  constructor
  · intro h
    cases h <;> simp_all
  · rintro rfl
    exact .accept hs

theorem missing_iff (hs : prog.steps[i]? = none) : Finds prog subject (i, pos) σ r ↔ r = none := by
  constructor
  · intro h
    cases h <;> simp_all
  · rintro rfl
    exact .missing hs

end Inversion

/-- Exploring the ways on finds one thing. -/
theorem det {x : Nat × Nat} {σ : Slots} {r₁ r₂ : Option (Slots × Nat)}
    (h₁ : Finds prog subject x σ r₁) (h₂ : Finds prog subject x σ r₂) : r₁ = r₂ := by
  induction h₁ generalizing r₂ with
  | chars hs hc hk _ ih => exact ih (by simpa [hc, hk] using (chars_iff hs).1 h₂)
  | charsFail hs hc =>
    have := (chars_iff hs).1 h₂
    split at this
    · simp_all
    · exact this.symm
  | branch hs _ _ iha ihb =>
    obtain ⟨ra, rb, ha, hb, rfl⟩ := (branch_iff hs).1 h₂
    rw [iha ha, ihb hb]
  | save hs _ ih => exact ih ((save_iff hs).1 h₂)
  | atStart hs hp _ ih => exact ih (by simpa [hp] using (atStart_iff hs).1 h₂)
  | atStartFail hs hp => exact (by simpa [hp] using (atStart_iff hs).1 h₂ : r₂ = none).symm
  | atEnd hs hp _ ih => exact ih (by simpa [hp] using (atEnd_iff hs).1 h₂)
  | atEndFail hs hp => exact (by simpa [hp] using (atEnd_iff hs).1 h₂ : r₂ = none).symm
  | accept hs => exact ((accept_iff hs).1 h₂).symm
  | missing hs => exact ((missing_iff hs).1 h₂).symm

/-- Whether a way reaches the accepting step does not depend on the slots. -/
theorem eq_none_iff {x : Nat × Nat} {σ σ' : Slots} {r r' : Option (Slots × Nat)}
    (h : Finds prog subject x σ r) (h' : Finds prog subject x σ' r') : r = none ↔ r' = none := by
  induction h generalizing σ' r' with
  | chars hs hc hk _ ih => exact ih (by simpa [hc, hk] using (chars_iff hs).1 h')
  | charsFail hs hc =>
    have := (chars_iff hs).1 h'
    split at this
    · simp_all
    · simp [this]
  | branch hs _ _ iha ihb =>
    obtain ⟨ra, rb, ha, hb, rfl⟩ := (branch_iff hs).1 h'
    simp [iha ha, ihb hb]
  | save hs _ ih => exact ih ((save_iff hs).1 h')
  | atStart hs hp _ ih => exact ih (by simpa [hp] using (atStart_iff hs).1 h')
  | atStartFail hs hp => simp [(by simpa [hp] using (atStart_iff hs).1 h' : r' = none)]
  | atEnd hs hp _ ih => exact ih (by simpa [hp] using (atEnd_iff hs).1 h')
  | atEndFail hs hp => simp [(by simpa [hp] using (atEnd_iff hs).1 h' : r' = none)]
  | accept hs => simp [(accept_iff hs).1 h']
  | missing hs => simp [(missing_iff hs).1 h']

/-- The ways on from a pair are finite whatever the slots. -/
theorem exists_of {x : Nat × Nat} {σ : Slots} {r : Option (Slots × Nat)}
    (h : Finds prog subject x σ r) (σ' : Slots) : ∃ r', Finds prog subject x σ' r' := by
  induction h generalizing σ' with
  | chars hs hc hk _ ih => exact (ih σ').imp fun _ h => .chars hs hc hk h
  | charsFail hs hc => exact ⟨_, .charsFail hs hc⟩
  | branch hs _ _ iha ihb =>
    obtain ⟨ra, ha⟩ := iha σ'
    obtain ⟨rb, hb⟩ := ihb σ'
    exact ⟨_, .branch hs ha hb⟩
  | save hs _ ih => exact (ih _).imp fun _ h => .save hs h
  | atStart hs hp _ ih => exact (ih σ').imp fun _ h => .atStart hs hp h
  | atStartFail hs hp => exact ⟨_, .atStartFail hs hp⟩
  | atEnd hs hp _ ih => exact (ih σ').imp fun _ h => .atEnd hs hp h
  | atEndFail hs hp => exact ⟨_, .atEndFail hs hp⟩
  | accept hs => exact ⟨_, .accept hs⟩
  | missing hs => exact ⟨_, .missing hs⟩

private theorem acc_intro {x : Nat × Nat}
    (h : ∀ y ∈ succs prog subject x,
      Finite prog subject y ∧ Acc (fun y x => Moves prog subject x y) y) :
    (∀ y, Moves prog subject x y → Finite prog subject y) ∧
      Acc (fun y x => Moves prog subject x y) x :=
  ⟨fun y hm => (h y hm).1, ⟨_, fun y hm => (h y hm).2⟩⟩

/-- The pairs a move reaches from a pair with finite ways on have finite ways on, and the
moves from it are well founded: no way from it comes back to it. -/
theorem acc {x : Nat × Nat} {σ : Slots} {r : Option (Slots × Nat)}
    (h : Finds prog subject x σ r) :
    (∀ y, Moves prog subject x y → Finite prog subject y) ∧
      Acc (fun y x => Moves prog subject x y) x := by
  induction h with
  | chars hs hc hk hn ih =>
    refine acc_intro fun y hy => ?_
    simp only [succs, hs, hc, hk, if_true, List.mem_singleton] at hy
    exact hy ▸ ⟨⟨_, _, hn⟩, ih.2⟩
  | branch hs ha hb iha ihb =>
    refine acc_intro fun y hy => ?_
    simp only [succs, hs, List.mem_cons, List.not_mem_nil, or_false] at hy
    rcases hy with rfl | rfl
    · exact ⟨⟨_, _, ha⟩, iha.2⟩
    · exact ⟨⟨_, _, hb⟩, ihb.2⟩
  | save hs hn ih =>
    refine acc_intro fun y hy => ?_
    simp only [succs, hs, List.mem_singleton] at hy
    exact hy ▸ ⟨⟨_, _, hn⟩, ih.2⟩
  | atStart hs hp hn ih =>
    subst hp
    refine acc_intro fun y hy => ?_
    simp only [succs, hs, if_true, List.mem_singleton] at hy
    exact hy ▸ ⟨⟨_, _, hn⟩, ih.2⟩
  | atEnd hs hp hn ih =>
    subst hp
    refine acc_intro fun y hy => ?_
    simp only [succs, hs, if_true, List.mem_singleton] at hy
    exact hy ▸ ⟨⟨_, _, hn⟩, ih.2⟩
  | @charsFail i pos σ k next hs hc =>
    refine acc_intro fun y hy => ?_
    cases hsub : subject[pos]? <;> simp_all [succs]
  | atStartFail hs hp | atEndFail hs hp | accept hs | missing hs =>
    exact acc_intro fun y hy => by simp_all [succs]

end Finds

/-! ## Finite pairs -/

namespace Finite

variable {x y : Nat × Nat}

theorem of_moves (hx : Finite prog subject x) (hm : Moves prog subject x y) :
    Finite prog subject y :=
  let ⟨_, _, h⟩ := hx
  h.acc.1 y hm

theorem of_reach (hx : Finite prog subject x) (h : Relation.ReflTransGen (Moves prog subject) x y) :
    Finite prog subject y := by
  induction h with
  | refl => exact hx
  | tail _ hm ih => exact ih.of_moves hm

theorem finds (hx : Finite prog subject x) (σ : Slots) : ∃ r, Finds prog subject x σ r :=
  let ⟨_, _, h⟩ := hx
  h.exists_of σ

/-- No way from a pair with finite ways on comes back to it. -/
theorem not_reach_of_moves (hx : Finite prog subject x) (hm : Moves prog subject x y) :
    ¬ Relation.ReflTransGen (Moves prog subject) y x := by
  intro hback
  obtain ⟨_, _, h⟩ := hx
  have hcycle : Relation.TransGen (fun a b => Moves prog subject b a) x x :=
    Relation.TransGen.swap x x (Relation.TransGen.head' hm hback)
  -- a relation accessible at a point is irreflexive there
  have hirr : ∀ {a}, Acc (Relation.TransGen fun a b => Moves prog subject b a) a →
      ¬ Relation.TransGen (fun a b => Moves prog subject b a) a a := by
    intro a ha
    induction ha with
    | intro a _ ih => exact fun haa => ih a haa haa
  exact hirr h.acc.2.transGen hcycle

end Finite

/-- A pair from which the accepting step is not reached, whatever the slots. -/
theorem dead_of_finds_none {x : Nat × Nat} {σ : Slots} (h : Finds prog subject x σ none) :
    Dead prog subject x :=
  fun _ _ h' => (h.eq_none_iff h').1 rfl

/-! ## Stacks of tasks -/

namespace FindsAll

theorem det {T : List Task} {σ : Slots} {r₁ r₂ : Option (Slots × Nat)}
    (h₁ : FindsAll prog subject T σ r₁) (h₂ : FindsAll prog subject T σ r₂) : r₁ = r₂ := by
  induction h₁ generalizing r₂ with
  | nil => cases h₂; rfl
  | restore _ ih => cases h₂ with | restore h => exact ih h
  | visit hi _ ih => cases h₂ with | visit hi' hr => rw [hi.det hi', ih hr]

/-- A stack whose visits are all finite finds something, or nothing, from any slots. -/
theorem exists_of_finite {T : List Task}
    (hT : ∀ i pos, Task.visit i pos ∈ T → Finite prog subject (i, pos)) (σ : Slots) :
    ∃ r, FindsAll prog subject T σ r := by
  induction T generalizing σ with
  | nil => exact ⟨_, .nil⟩
  | cons t rest ih =>
    have hrest : ∀ i pos, Task.visit i pos ∈ rest → Finite prog subject (i, pos) :=
      fun i pos h => hT i pos (List.mem_cons_of_mem _ h)
    cases t with
    | restore slot v => exact (ih hrest _).imp fun _ h => .restore h
    | visit i pos =>
      obtain ⟨ri, hi⟩ := (hT i pos List.mem_cons_self).finds σ
      obtain ⟨rr, hr⟩ := ih hrest σ
      exact ⟨_, .visit hi hr⟩

theorem restore_iff {slot : Nat} {v : Option Nat} {T : List Task} {σ : Slots}
    {r : Option (Slots × Nat)} :
    FindsAll prog subject (.restore slot v :: T) σ r ↔ FindsAll prog subject T (σ.set! slot v) r :=
  ⟨fun h => by cases h with | restore h => exact h, .restore⟩

theorem visit_iff {i pos : Nat} {T : List Task} {σ : Slots} {r : Option (Slots × Nat)} :
    FindsAll prog subject (.visit i pos :: T) σ r ↔ ∃ ri rr, Finds prog subject (i, pos) σ ri ∧
      FindsAll prog subject T σ rr ∧ r = ri.orElse fun _ => rr :=
  ⟨fun h => by cases h with | visit hi hr => exact ⟨_, _, hi, hr, rfl⟩,
    fun ⟨_, _, hi, hr, h⟩ => h ▸ .visit hi hr⟩

/-- A visit to a pair from which the accepting step is not reached finds nothing. -/
theorem visit_dead_iff {i pos : Nat} {T : List Task} {σ : Slots} {r : Option (Slots × Nat)}
    (hd : Dead prog subject (i, pos)) (hf : Finite prog subject (i, pos)) :
    FindsAll prog subject (.visit i pos :: T) σ r ↔ FindsAll prog subject T σ r := by
  obtain ⟨ri, hi⟩ := hf.finds σ
  cases hd σ ri hi
  rw [visit_iff]
  constructor
  · rintro ⟨ri', rr, hi', hr, rfl⟩
    cases hi.det hi'
    simpa using hr
  · exact fun hr => ⟨none, r, hi, hr, rfl⟩

end FindsAll

/-! ## A first visit -/

variable (prog subject) in
/-- What a first visit to a step at a position puts on the stack in its place, and the slots
after it; nothing when the step accepts. -/
def expand (i pos : Nat) (σ : Slots) : Option (List Task × Slots) :=
  match prog.steps[i]? with
  | some (.chars k next) =>
    match subject[pos]? with
    | some c => if k.admits c then some ([.visit next (pos + 1)], σ) else some ([], σ)
    | none => some ([], σ)
  | some (.branch a b) => some ([.visit a pos, .visit b pos], σ)
  | some (.save slot next) =>
    some ([.visit next pos, .restore slot (σ[slot]?.join)], σ.set! slot (some pos))
  | some (.atStart next) => some (if pos = 0 then [.visit next pos] else [], σ)
  | some (.atEnd next) => some (if pos = subject.size then [.visit next pos] else [], σ)
  | some .accept => none
  | none => some ([], σ)

section Expand

variable {i pos : Nat} {σ σ' : Slots} {E : List Task}

/-- Only the accepting step puts nothing on the stack. -/
theorem finds_of_expand_eq_none (h : expand prog subject i pos σ = none) :
    Finds prog subject (i, pos) σ (some (σ, pos)) := by
  unfold expand at h
  split at h
  · split at h
    · split at h <;> simp at h
    · simp at h
  · simp at h
  · simp at h
  · simp at h
  · simp at h
  · rename_i hs
    exact .accept hs
  · simp at h

/-- Setting a slot and putting back what it held gives the slots back. -/
theorem set!_set!_getElem? (σ : Slots) (slot : Nat) (v : Option Nat) :
    (σ.set! slot v).set! slot (σ[slot]?.join) = σ := by
  apply Array.ext_getElem?
  intro j
  simp only [Array.set!_eq_setIfInBounds, Array.getElem?_setIfInBounds, Array.size_setIfInBounds]
  by_cases hj : slot = j
  · subst hj
    by_cases hs : slot < σ.size <;> simp [hs]
  · simp [hj]

/-- A first visit finds what the tasks it puts on the stack find. -/
theorem findsAll_expand (h : expand prog subject i pos σ = some (E, σ')) (T : List Task)
    (r : Option (Slots × Nat)) :
    FindsAll prog subject (.visit i pos :: T) σ r ↔ FindsAll prog subject (E ++ T) σ' r := by
  unfold expand at h
  rw [FindsAll.visit_iff]
  split at h
  · rename_i k next hs
    split at h
    · rename_i c hc
      split at h <;> simp only [Option.some.injEq, Prod.mk.injEq] at h <;> obtain ⟨rfl, rfl⟩ := h
      · rename_i hk
        simp only [Finds.chars_iff hs, hc, hk, if_true, List.singleton_append,
          FindsAll.visit_iff]
      · rename_i hk
        simp [Finds.chars_iff hs, hc, hk]
    · rename_i hc
      simp only [Option.some.injEq, Prod.mk.injEq] at h
      obtain ⟨rfl, rfl⟩ := h
      simp [Finds.chars_iff hs, hc]
  · rename_i a b hs
    simp only [Option.some.injEq, Prod.mk.injEq] at h
    obtain ⟨rfl, rfl⟩ := h
    simp only [Finds.branch_iff hs, List.cons_append, List.nil_append, FindsAll.visit_iff]
    constructor
    · rintro ⟨_, rr, ⟨ra, rb, ha, hb, rfl⟩, hr, rfl⟩
      exact ⟨ra, _, ha, ⟨rb, rr, hb, hr, rfl⟩, by cases ra <;> rfl⟩
    · rintro ⟨ra, _, ha, ⟨rb, rr, hb, hr, rfl⟩, rfl⟩
      exact ⟨_, rr, ⟨ra, rb, ha, hb, rfl⟩, hr, by cases ra <;> rfl⟩
  · rename_i slot next hs
    simp only [Option.some.injEq, Prod.mk.injEq] at h
    obtain ⟨rfl, rfl⟩ := h
    simp only [Finds.save_iff hs, List.cons_append, List.nil_append, FindsAll.visit_iff,
      FindsAll.restore_iff, set!_set!_getElem?]
  · rename_i next hs
    simp only [Option.some.injEq, Prod.mk.injEq] at h
    obtain ⟨rfl, rfl⟩ := h
    by_cases hp : pos = 0
    · simp [Finds.atStart_iff hs, hp, FindsAll.visit_iff]
    · simp [Finds.atStart_iff hs, hp]
  · rename_i next hs
    simp only [Option.some.injEq, Prod.mk.injEq] at h
    obtain ⟨rfl, rfl⟩ := h
    by_cases hp : pos = subject.size
    · simp [Finds.atEnd_iff hs, hp, FindsAll.visit_iff]
    · simp [Finds.atEnd_iff hs, hp]
  · simp at h
  · rename_i hs
    simp only [Option.some.injEq, Prod.mk.injEq] at h
    obtain ⟨rfl, rfl⟩ := h
    simp [Finds.missing_iff hs]

/-- The visits a first visit puts on the stack are its moves. -/
theorem moves_of_expand (h : expand prog subject i pos σ = some (E, σ')) {j p : Nat}
    (hv : Task.visit j p ∈ E) : Moves prog subject (i, pos) (j, p) := by
  unfold expand at h
  split at h
  · rename_i k next hs
    split at h
    · rename_i c hc
      split at h <;> simp only [Option.some.injEq, Prod.mk.injEq] at h <;> obtain ⟨rfl, rfl⟩ := h
      · rename_i hk
        simp only [List.mem_singleton, Task.visit.injEq] at hv
        obtain ⟨rfl, rfl⟩ := hv
        simp [Moves, succs, hs, hc, hk]
      · simp at hv
    · simp only [Option.some.injEq, Prod.mk.injEq] at h
      obtain ⟨rfl, rfl⟩ := h
      simp at hv
  · rename_i a b hs
    simp only [Option.some.injEq, Prod.mk.injEq] at h
    obtain ⟨rfl, rfl⟩ := h
    simp only [List.mem_cons, Task.visit.injEq, List.not_mem_nil, or_false] at hv
    rcases hv with ⟨rfl, rfl⟩ | ⟨rfl, rfl⟩ <;> simp [Moves, succs, hs]
  · rename_i slot next hs
    simp only [Option.some.injEq, Prod.mk.injEq] at h
    obtain ⟨rfl, rfl⟩ := h
    simp only [List.mem_cons, Task.visit.injEq, reduceCtorEq, List.not_mem_nil, or_false] at hv
    obtain ⟨rfl, rfl⟩ := hv
    simp [Moves, succs, hs]
  · rename_i next hs
    simp only [Option.some.injEq, Prod.mk.injEq] at h
    obtain ⟨rfl, rfl⟩ := h
    split at hv
    · simp only [List.mem_singleton, Task.visit.injEq] at hv
      obtain ⟨rfl, rfl⟩ := hv
      simp_all [Moves, succs]
    · simp at hv
  · rename_i next hs
    simp only [Option.some.injEq, Prod.mk.injEq] at h
    obtain ⟨rfl, rfl⟩ := h
    split at hv
    · simp only [List.mem_singleton, Task.visit.injEq] at hv
      obtain ⟨rfl, rfl⟩ := hv
      simp_all [Moves, succs]
    · simp at hv
  · simp at h
  · simp only [Option.some.injEq, Prod.mk.injEq] at h
    obtain ⟨rfl, rfl⟩ := h
    simp at hv

end Expand

/-- A move never leaves the subject. -/
theorem Moves.le_size {i pos j p : Nat} (hm : Moves prog subject (i, pos) (j, p))
    (hpos : pos ≤ subject.size) : p ≤ subject.size := by
  unfold Moves succs at hm
  split at hm
  · split at hm
    · rename_i c hc
      split at hm
      · simp only [List.mem_singleton, Prod.mk.injEq] at hm
        obtain ⟨rfl, rfl⟩ := hm
        exact (Array.getElem?_eq_some_iff.1 hc).1
      · simp at hm
    · simp at hm
  · simp only [List.mem_cons, Prod.mk.injEq, List.not_mem_nil, or_false] at hm
    rcases hm with ⟨-, rfl⟩ | ⟨-, rfl⟩ <;> exact hpos
  · simp only [List.mem_singleton, Prod.mk.injEq] at hm
    exact hm.2 ▸ hpos
  · split at hm
    · simp only [List.mem_singleton, Prod.mk.injEq] at hm
      exact hm.2 ▸ hpos
    · simp at hm
  · split at hm
    · simp only [List.mem_singleton, Prod.mk.injEq] at hm
      exact hm.2 ▸ hpos
    · simp at hm
  · simp at hm
  · simp at hm

/-- A first visit puts at most two tasks on the stack, and none for a step the program lacks. -/
theorem length_of_expand {i pos : Nat} {σ σ' : Slots} {E : List Task}
    (h : expand prog subject i pos σ = some (E, σ')) :
    E.length ≤ 2 ∧ (prog.steps.size ≤ i → E = []) := by
  unfold expand at h
  split at h
  · rename_i hs
    refine ⟨?_, fun hi => absurd hs (by simp [Array.getElem?_eq_none hi])⟩
    split at h
    · split at h <;> simp only [Option.some.injEq, Prod.mk.injEq] at h <;> simp [← h.1]
    · simp only [Option.some.injEq, Prod.mk.injEq] at h
      simp [← h.1]
  all_goals rename_i hs
  · refine ⟨?_, fun hi => absurd hs (by simp [Array.getElem?_eq_none hi])⟩
    simp only [Option.some.injEq, Prod.mk.injEq] at h
    simp [← h.1]
  · refine ⟨?_, fun hi => absurd hs (by simp [Array.getElem?_eq_none hi])⟩
    simp only [Option.some.injEq, Prod.mk.injEq] at h
    simp [← h.1]
  · refine ⟨?_, fun hi => absurd hs (by simp [Array.getElem?_eq_none hi])⟩
    simp only [Option.some.injEq, Prod.mk.injEq] at h
    split at h <;> simp [← h.1]
  · refine ⟨?_, fun hi => absurd hs (by simp [Array.getElem?_eq_none hi])⟩
    simp only [Option.some.injEq, Prod.mk.injEq] at h
    split at h <;> simp [← h.1]
  · simp at h
  · simp only [Option.some.injEq, Prod.mk.injEq] at h
    simp [← h.1]

/-! ## The walk, one task at a time -/

section WalkSteps

variable {f : Nat} {rest : List Task} {σ : Slots} {S : Std.HashSet Nat}

theorem walk_nil : prog.walk subject (f + 1) ⟨[], σ, S⟩ = (none, S) := by
  simp [walk]

theorem walk_restore {slot : Nat} {v : Option Nat} :
    prog.walk subject (f + 1) ⟨.restore slot v :: rest, σ, S⟩ =
      prog.walk subject f ⟨rest, σ.set! slot v, S⟩ := by
  simp [walk]

theorem walk_visit_seen {i pos : Nat} (h : S.contains (visitKey subject i pos) = true) :
    prog.walk subject (f + 1) ⟨.visit i pos :: rest, σ, S⟩ = prog.walk subject f ⟨rest, σ, S⟩ := by
  simp [walk, h]

theorem walk_visit_new {i pos : Nat} (h : S.contains (visitKey subject i pos) = false) :
    prog.walk subject (f + 1) ⟨.visit i pos :: rest, σ, S⟩ =
      match expand prog subject i pos σ with
      | none => (some (σ, pos), S.insert (visitKey subject i pos))
      | some (E, σ') => prog.walk subject f ⟨E ++ rest, σ', S.insert (visitKey subject i pos)⟩ := by
  simp only [walk, h, Bool.false_eq_true, if_false, expand]
  cases hs : prog.steps[i]? with
  | none => rfl
  | some step =>
    cases step with
    | chars k next =>
      cases hc : subject[pos]? with
      | none => rfl
      | some c => by_cases hk : k.admits c = true <;> simp [hk]
    | atStart next => by_cases hp : pos = 0 <;> simp [hp]
    | atEnd next => by_cases hp : pos = subject.size <;> simp [hp]
    | _ => rfl

end WalkSteps

/-! ## What the walk remembers -/

variable (prog subject) in
/-- The keys of the pairs that a walk can visit: every step at every position of the subject. -/
def keyBound : Nat := prog.steps.size * (subject.size + 1)

variable (prog subject) in
/-- How many of those keys the walk has not visited yet. -/
def unvisited (S : Std.HashSet Nat) : Nat :=
  ((Finset.range (keyBound prog subject)).filter fun k => S.contains k = false).card

variable (prog subject) in
/-- A bound on the tasks the walk still does: each task is done once, and a first visit, which
happens once per key, puts at most two tasks on the stack. -/
def workLeft (w : Walk) : Nat := w.tasks.length + 2 * unvisited prog subject w.seen

theorem unvisited_insert_le (S : Std.HashSet Nat) (k : Nat) :
    unvisited prog subject (S.insert k) ≤ unvisited prog subject S := by
  apply Finset.card_le_card
  intro j
  simp only [Finset.mem_filter, Std.HashSet.contains_insert, Bool.or_eq_false_iff]
  exact fun ⟨hj, _, hS⟩ => ⟨hj, hS⟩

theorem unvisited_insert_lt {S : Std.HashSet Nat} {k : Nat} (hk : k < keyBound prog subject)
    (hS : S.contains k = false) : unvisited prog subject (S.insert k) < unvisited prog subject S := by
  apply Finset.card_lt_card
  refine Finset.ssubset_iff_of_subset (fun j => ?_) |>.2 ⟨k, ?_, ?_⟩
  · simp only [Finset.mem_filter, Std.HashSet.contains_insert, Bool.or_eq_false_iff]
    exact fun ⟨hj, _, hS⟩ => ⟨hj, hS⟩
  · exact Finset.mem_filter.2 ⟨Finset.mem_range.2 hk, hS⟩
  · simp

theorem visitKey_lt {i pos : Nat} (hi : i < prog.steps.size) (hpos : pos ≤ subject.size) :
    visitKey subject i pos < keyBound prog subject := by
  unfold visitKey keyBound
  calc i * (subject.size + 1) + pos < (i + 1) * (subject.size + 1) := by
        rw [Nat.succ_mul]
        omega
    _ ≤ prog.steps.size * (subject.size + 1) := Nat.mul_le_mul_right _ hi

theorem visitKey_inj {i pos j p : Nat} (hpos : pos ≤ subject.size) (hp : p ≤ subject.size)
    (h : visitKey subject i pos = visitKey subject j p) : i = j ∧ pos = p := by
  unfold visitKey at h
  have hn : 0 < subject.size + 1 := Nat.succ_pos _
  have hdiv := congrArg (· / (subject.size + 1)) h
  have hmod := congrArg (· % (subject.size + 1)) h
  simp only [Nat.add_comm _ pos, Nat.add_comm _ p, Nat.add_mul_div_right _ _ hn,
    Nat.add_mul_mod_self_right, Nat.div_eq_of_lt (Nat.lt_succ_of_le hpos),
    Nat.div_eq_of_lt (Nat.lt_succ_of_le hp), Nat.mod_eq_of_lt (Nat.lt_succ_of_le hpos),
    Nat.mod_eq_of_lt (Nat.lt_succ_of_le hp), Nat.zero_add] at hdiv hmod
  exact ⟨hdiv, hmod⟩

variable (prog subject) in
/-- What the walk keeps true. Every visit still to do is inside the subject and has finite ways
on. Every pair visited so far either finds nothing, or is still being explored: then some first
tasks of the stack are what is left of its exploration, none of them leads back to it, and if
they find nothing, neither does the pair. -/
structure WalkInv (w : Walk) : Prop where
  visits : ∀ i pos, Task.visit i pos ∈ w.tasks → pos ≤ subject.size ∧ Finite prog subject (i, pos)
  seen : ∀ i pos, pos ≤ subject.size → w.seen.contains (visitKey subject i pos) = true →
    ∃ k, (∀ j p, Task.visit j p ∈ w.tasks.take k →
        ¬ Relation.ReflTransGen (Moves prog subject) (j, p) (i, pos)) ∧
      (FindsAll prog subject (w.tasks.take k) w.slots none → Dead prog subject (i, pos))

namespace WalkInv

variable {rest : List Task} {σ : Slots} {S : Std.HashSet Nat}

/-- Once the stack is empty, every visited pair finds nothing. -/
theorem dead_of_nil (h : WalkInv prog subject ⟨[], σ, S⟩) {i pos : Nat} (hpos : pos ≤ subject.size)
    (hS : S.contains (visitKey subject i pos) = true) : Dead prog subject (i, pos) :=
  let ⟨_, _, hd⟩ := h.seen i pos hpos hS
  hd (by simpa using FindsAll.nil)

theorem restore {slot : Nat} {v : Option Nat} (h : WalkInv prog subject ⟨.restore slot v :: rest, σ, S⟩) :
    WalkInv prog subject ⟨rest, σ.set! slot v, S⟩ where
  visits i pos hv := h.visits i pos (List.mem_cons_of_mem _ hv)
  seen i pos hpos hS := by
    obtain ⟨k, hno, hd⟩ := h.seen i pos hpos hS
    cases k with
    | zero => exact ⟨0, by simp, fun _ => hd (by simpa using FindsAll.nil)⟩
    | succ k =>
      refine ⟨k, fun j p hv => hno j p (by simp [hv]), fun hf => hd ?_⟩
      simpa using FindsAll.restore hf

/-- A visited pair whose visit comes up again finds nothing: it is not still being explored,
since no way from it comes back to it. -/
theorem skip {i pos : Nat} (h : WalkInv prog subject ⟨.visit i pos :: rest, σ, S⟩)
    (hS : S.contains (visitKey subject i pos) = true) :
    Dead prog subject (i, pos) ∧ WalkInv prog subject ⟨rest, σ, S⟩ := by
  obtain ⟨hpos, hfin⟩ := h.visits i pos List.mem_cons_self
  have hdead : Dead prog subject (i, pos) := by
    obtain ⟨k, hno, hd⟩ := h.seen i pos hpos hS
    cases k with
    | zero => exact hd (by simpa using FindsAll.nil)
    | succ k => exact absurd .refl (hno i pos (by simp))
  refine ⟨hdead, fun j p hv => h.visits j p (List.mem_cons_of_mem _ hv), fun j p hp hS' => ?_⟩
  obtain ⟨k, hno, hd⟩ := h.seen j p hp hS'
  cases k with
  | zero => exact ⟨0, by simp, fun _ => hd (by simpa using FindsAll.nil)⟩
  | succ k =>
    refine ⟨k, fun j' p' hv => hno j' p' (by simp [hv]), fun hf => hd ?_⟩
    simpa [FindsAll.visit_dead_iff hdead hfin] using hf

/-- A first visit keeps the invariant: the pair is being explored by the tasks it puts on the
stack, and the pairs being explored before it are explored by those tasks and what was left. -/
theorem expand {i pos : Nat} {E : List Task} {σ' : Slots}
    (h : WalkInv prog subject ⟨.visit i pos :: rest, σ, S⟩)
    (hE : expand prog subject i pos σ = some (E, σ')) :
    WalkInv prog subject ⟨E ++ rest, σ', S.insert (visitKey subject i pos)⟩ := by
  obtain ⟨hpos, hfin⟩ := h.visits i pos List.mem_cons_self
  have hmoves := fun j p (hv : Task.visit j p ∈ E) => moves_of_expand hE hv
  refine ⟨fun j p hv => ?_, fun j p hp hS' => ?_⟩
  · rcases List.mem_append.1 hv with hv | hv
    · exact ⟨(hmoves j p hv).le_size hpos, hfin.of_moves (hmoves j p hv)⟩
    · exact h.visits j p (List.mem_cons_of_mem _ hv)
  · simp only [Std.HashSet.contains_insert, Bool.or_eq_true, beq_iff_eq] at hS'
    rcases hS' with hkey | hS'
    · -- the pair visited now: its exploration is the tasks just put on the stack
      obtain ⟨rfl, rfl⟩ := visitKey_inj hpos hp hkey
      refine ⟨E.length, fun j' p' hv => ?_, fun hf => ?_⟩
      · rw [List.take_append_length] at hv
        exact hfin.not_reach_of_moves (hmoves j' p' hv)
      · rw [List.take_append_length, ← List.append_nil E, ← findsAll_expand hE] at hf
        obtain ⟨ri, rr, hi, hr, hnone⟩ := FindsAll.visit_iff.1 hf
        cases hr
        cases ri with
        | none => exact dead_of_finds_none hi
        | some _ => simp at hnone
    · obtain ⟨k, hno, hd⟩ := h.seen j p hp hS'
      cases k with
      | zero => exact ⟨0, by simp, fun _ => hd (by simpa using FindsAll.nil)⟩
      | succ k =>
        have hhead : ¬ Relation.ReflTransGen (Moves prog subject) (i, pos) (j, p) :=
          hno i pos (by simp)
        refine ⟨E.length + k, fun j' p' hv => ?_, fun hf => hd ?_⟩
        · rw [List.take_length_add_append] at hv
          rcases List.mem_append.1 hv with hv | hv
          · exact fun hr => hhead (.head (hmoves j' p' hv) hr)
          · exact hno j' p' (by simp [hv])
        · rw [List.take_length_add_append, ← findsAll_expand hE] at hf
          simpa using hf

end WalkInv

/-- The work left shrinks with every task the walk does. -/
theorem workLeft_expand {i pos : Nat} {rest E : List Task} {σ σ' : Slots} {S : Std.HashSet Nat}
    (hpos : pos ≤ subject.size) (hS : S.contains (visitKey subject i pos) = false)
    (hE : expand prog subject i pos σ = some (E, σ')) :
    workLeft prog subject ⟨E ++ rest, σ', S.insert (visitKey subject i pos)⟩ <
      workLeft prog subject ⟨.visit i pos :: rest, σ, S⟩ := by
  obtain ⟨hlen, hmissing⟩ := length_of_expand hE
  have hle : unvisited prog subject (S.insert (visitKey subject i pos)) ≤
      unvisited prog subject S := unvisited_insert_le S _
  unfold workLeft
  simp only [List.length_append, List.length_cons]
  by_cases hi : i < prog.steps.size
  · have hlt : unvisited prog subject (S.insert (visitKey subject i pos)) <
        unvisited prog subject S := unvisited_insert_lt (visitKey_lt hi hpos) hS
    omega
  · simp [hmissing (Nat.le_of_not_lt hi)]
    omega

/-- With fuel beyond the work left, the walk finds what its stack of tasks finds, and when it
finds nothing, every pair it visited finds nothing. -/
theorem walk_finds (fuel : Nat) (w : Walk) (hinv : WalkInv prog subject w)
    (hfuel : workLeft prog subject w < fuel) :
    FindsAll prog subject w.tasks w.slots (prog.walk subject fuel w).1 ∧
      ((prog.walk subject fuel w).1 = none → ∀ i pos, pos ≤ subject.size →
        (prog.walk subject fuel w).2.contains (visitKey subject i pos) = true →
        Dead prog subject (i, pos)) := by
  induction fuel generalizing w with
  | zero => exact absurd hfuel (Nat.not_lt_zero _)
  | succ f ih =>
    obtain ⟨T, σ, S⟩ := w
    cases T with
    | nil =>
      rw [walk_nil]
      exact ⟨.nil, fun _ i pos hpos hS => hinv.dead_of_nil hpos hS⟩
    | cons t rest =>
      cases t with
      | restore slot v =>
        rw [walk_restore]
        have hlt : workLeft prog subject ⟨rest, σ.set! slot v, S⟩ < f := by
          simp only [workLeft, List.length_cons] at hfuel ⊢
          omega
        obtain ⟨hf, hd⟩ := ih _ hinv.restore hlt
        exact ⟨.restore hf, hd⟩
      | visit i pos =>
        obtain ⟨hpos, hfin⟩ := hinv.visits i pos List.mem_cons_self
        cases hS : S.contains (visitKey subject i pos) with
        | true =>
          -- a pair visited before finds nothing now
          rw [walk_visit_seen hS]
          obtain ⟨hdead, hinv'⟩ := hinv.skip hS
          have hlt : workLeft prog subject ⟨rest, σ, S⟩ < f := by
            simp only [workLeft, List.length_cons] at hfuel ⊢
            omega
          obtain ⟨hf, hd⟩ := ih _ hinv' hlt
          exact ⟨(FindsAll.visit_dead_iff hdead hfin).2 hf, hd⟩
        | false =>
          rw [walk_visit_new hS]
          cases hE : expand prog subject i pos σ with
          | none =>
            -- the accepting step: what the rest of the stack finds does not matter
            obtain ⟨rr, hr⟩ := FindsAll.exists_of_finite
              (fun j p hv => (hinv.visits j p (List.mem_cons_of_mem _ hv)).2) σ
            exact ⟨.visit (finds_of_expand_eq_none hE) hr, fun h => by simp at h⟩
          | some Eσ =>
            obtain ⟨E, σ'⟩ := Eσ
            have hlt : workLeft prog subject ⟨E ++ rest, σ', S.insert (visitKey subject i pos)⟩ <
                workLeft prog subject ⟨.visit i pos :: rest, σ, S⟩ := workLeft_expand hpos hS hE
            obtain ⟨hf, hd⟩ := ih _ (hinv.expand hE) (by omega)
            exact ⟨(findsAll_expand hE rest _).2 hf, hd⟩

/-! ## The search over start positions -/

variable (prog) in
/-- The slots a search starts with: none recorded. -/
def initialSlots : Slots := Array.replicate (2 * prog.groups.size) none

variable (prog subject) in
/-- What searching from a start position finds: the first start position, from there to the end
of the subject, from which the ways on from the program's start reach the accepting step, with
the captures of the slots of the first such way. -/
inductive Searches : Nat → Option Match → Prop
  | found {pos σ stop} : Finds prog subject (prog.start, pos) (initialSlots prog) (some (σ, stop)) →
      Searches pos (some ⟨pos, stop, prog.captures σ⟩)
  | next {pos r} : Finds prog subject (prog.start, pos) (initialSlots prog) none →
      pos < subject.size → Searches (pos + 1) r → Searches pos r
  | last {pos} : Finds prog subject (prog.start, pos) (initialSlots prog) none →
      ¬ pos < subject.size → Searches pos none

/-- The search finds the first start position from which the program's start reaches the
accepting step, when the ways on from the start are finite at every position and the pairs it
is told were visited find nothing. -/
theorem searchFrom_searches (S : Std.HashSet Nat) (pos : Nat) (hpos : pos ≤ subject.size)
    (hS : ∀ i p, p ≤ subject.size → S.contains (visitKey subject i p) = true → Dead prog subject (i, p))
    (hfin : ∀ p, p ≤ subject.size → Finite prog subject (prog.start, p)) :
    Searches prog subject pos (prog.searchFrom subject S pos) := by
  rw [searchFrom]
  -- the walk from one start position
  have hinv : WalkInv prog subject ⟨[.visit prog.start pos], initialSlots prog, S⟩ :=
    ⟨fun i p hv => by
      simp only [List.mem_singleton, Task.visit.injEq] at hv
      obtain ⟨rfl, rfl⟩ := hv
      exact ⟨hpos, hfin _ hpos⟩,
    fun i p hp hSp => ⟨0, by simp, fun _ => hS i p hp hSp⟩⟩
  have hwork : workLeft prog subject ⟨[.visit prog.start pos], initialSlots prog, S⟩ <
      2 * (prog.steps.size * (subject.size + 1)) + 2 := by
    have : unvisited prog subject S ≤ keyBound prog subject :=
      (Finset.card_filter_le _ _).trans (Finset.card_range _).le
    simp only [workLeft, List.length_singleton, keyBound] at this ⊢
    omega
  obtain ⟨hf, hd⟩ := walk_finds _ _ hinv hwork
  simp only [initialSlots] at hf hd
  rcases hw : prog.walk subject (2 * (prog.steps.size * (subject.size + 1)) + 2)
      ⟨[.visit prog.start pos], Array.replicate (2 * prog.groups.size) none, S⟩ with ⟨_ | ⟨σ, stop⟩, S'⟩
  · rw [hw] at hf hd
    obtain ⟨ri, rr, hi, hr, hnone⟩ := FindsAll.visit_iff.1 hf
    cases hr
    have hri : ri = none := by cases ri <;> simp_all
    subst hri
    simp only
    split
    · rename_i hlt
      exact .next hi hlt (searchFrom_searches S' (pos + 1) hlt (fun i p hp hS' => hd rfl i p hp hS') hfin)
    · exact .last hi ‹_›
  · rw [hw] at hf
    obtain ⟨ri, rr, hi, hr, hsome⟩ := FindsAll.visit_iff.1 hf
    cases hr
    have hri : ri = some (σ, stop) := by cases ri <;> simp_all
    subst hri
    exact .found hi
termination_by subject.size - pos

end Program

end TableDdl

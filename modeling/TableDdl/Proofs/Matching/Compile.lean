import TableDdl.Proofs.Matching.Walk

/-!
# Compiled patterns walk as they run

`Pattern.compileTo` turns a pattern into steps of a program, and `Program.Finds` says what
walking the steps finds. The walk finds what `Pattern.run` gives, for every pattern whose
repetitions read a character on each pass (`Pattern.Progressive`) and whose groups have distinct
names. The proof follows the pattern: the steps of each constructor walk as the constructor runs
once the steps after them walk as the continuation answers (`CompilesAgree`), with the slots of
the walk agreeing with the captures of the run (`SlotsAgree`): the slots hold the span of every
group that has been left and the start of every group still open. The loop of a repetition is
the one place where the walk comes back to a step; there the proof is by induction on the
characters left, as each pass reads one. `finds_compile` puts the cases together for a compiled
pattern walked from its start.
-/

namespace TableDdl

namespace Pattern

/-- Whether every way of matching the pattern reads at least one character, judged from its
shape alone. -/
def Consuming : Pattern → Bool
  | .chars _ => true
  | .seq p q => p.Consuming || q.Consuming
  | .alt p q => p.Consuming && q.Consuming
  | .group _ p => p.Consuming
  | .empty | .star _ _ | .atStart | .atEnd => false

/-- Whether every repetition in the pattern repeats a consuming pattern. -/
def Progressive : Pattern → Bool
  | .seq p q | .alt p q => p.Progressive && q.Progressive
  | .star _ p => p.Consuming && p.Progressive
  | .group _ p => p.Progressive
  | .empty | .chars _ | .atStart | .atEnd => true

/-- The number of characters that every way of matching the pattern reads at least, as far as
`Consuming` sees: one or none. -/
def minLength (p : Pattern) : Nat := if p.Consuming then 1 else 0

@[simp] theorem minLength_empty : Pattern.empty.minLength = 0 := rfl

@[simp] theorem minLength_chars (k : CharClass) : (Pattern.chars k).minLength = 1 := rfl

@[simp] theorem minLength_star (g : Bool) (p : Pattern) : (p.star g).minLength = 0 := rfl

@[simp] theorem minLength_group (name : String) (p : Pattern) :
    (p.group name).minLength = p.minLength := rfl

@[simp] theorem minLength_atStart : Pattern.atStart.minLength = 0 := rfl

@[simp] theorem minLength_atEnd : Pattern.atEnd.minLength = 0 := rfl

theorem minLength_seq_le (p q : Pattern) :
    (p.seq q).minLength ≤ p.minLength + q.minLength := by
  cases hp : p.Consuming <;> cases hq : q.Consuming <;> simp [minLength, Consuming, hp, hq]

theorem minLength_alt_le_left (p q : Pattern) : (p.alt q).minLength ≤ p.minLength := by
  cases hp : p.Consuming <;> cases hq : q.Consuming <;> simp [minLength, Consuming, hp, hq]

theorem minLength_alt_le_right (p q : Pattern) : (p.alt q).minLength ≤ q.minLength := by
  cases hp : p.Consuming <;> cases hq : q.Consuming <;> simp [minLength, Consuming, hp, hq]

/-- The names of the pattern's groups, from left to right. -/
def groupNames : Pattern → List String
  | .seq p q | .alt p q => p.groupNames ++ q.groupNames
  | .star _ p => p.groupNames
  | .group name p => name :: p.groupNames
  | .empty | .chars _ | .atStart | .atEnd => []

section Inversion

/-! The steps that `compileTo` adds for each constructor. -/

variable {nx e : Nat} {b b' : Builder}

theorem compileTo_empty_inv (h : (Pattern.empty.compileTo nx).run b = (e, b')) :
    e = nx ∧ b' = b := by
  obtain ⟨rfl, rfl⟩ := Prod.ext_iff.1 h.symm
  exact ⟨rfl, rfl⟩

theorem compileTo_chars_inv {k : CharClass} (h : ((Pattern.chars k).compileTo nx).run b = (e, b')) :
    e = b.steps.size ∧ b' = { b with steps := b.steps.push (.chars k nx) } := by
  obtain ⟨rfl, rfl⟩ := Prod.ext_iff.1 h.symm
  exact ⟨rfl, rfl⟩

theorem compileTo_seq_inv {p q : Pattern} (h : ((p.seq q).compileTo nx).run b = (e, b')) :
    ∃ eq bq, (q.compileTo nx).run b = (eq, bq) ∧ (p.compileTo eq).run bq = (e, b') :=
  ⟨_, _, rfl, h⟩

theorem compileTo_alt_inv {p q : Pattern} (h : ((p.alt q).compileTo nx).run b = (e, b')) :
    ∃ ep bp eq bq, (p.compileTo nx).run b = (ep, bp) ∧ (q.compileTo nx).run bp = (eq, bq) ∧
      e = bq.steps.size ∧ b' = { bq with steps := bq.steps.push (.branch ep eq) } := by
  obtain ⟨rfl, rfl⟩ := Prod.ext_iff.1 h.symm
  exact ⟨_, _, _, _, rfl, rfl, rfl, rfl⟩

theorem compileTo_star_inv {g : Bool} {p : Pattern} (h : ((p.star g).compileTo nx).run b = (e, b')) :
    ∃ ep bp, (p.compileTo b.steps.size).run { b with steps := b.steps.push .accept } = (ep, bp) ∧
      e = b.steps.size ∧
      b' = { bp with steps := bp.steps.set! b.steps.size (if g then .branch ep nx else .branch nx ep) } := by
  obtain ⟨rfl, rfl⟩ := Prod.ext_iff.1 h.symm
  exact ⟨_, _, rfl, rfl, rfl⟩

theorem compileTo_group_inv {name : String} {p : Pattern}
    (h : ((p.group name).compileTo nx).run b = (e, b')) :
    ∃ ep bp, (p.compileTo b.steps.size).run
        ⟨b.steps.push (.save (2 * b.groups.size + 1) nx), b.groups.push name⟩ = (ep, bp) ∧
      e = bp.steps.size ∧ b' = { bp with steps := bp.steps.push (.save (2 * b.groups.size) ep) } := by
  obtain ⟨rfl, rfl⟩ := Prod.ext_iff.1 h.symm
  exact ⟨_, _, rfl, rfl, rfl⟩

theorem compileTo_atStart_inv (h : (Pattern.atStart.compileTo nx).run b = (e, b')) :
    e = b.steps.size ∧ b' = { b with steps := b.steps.push (.atStart nx) } := by
  obtain ⟨rfl, rfl⟩ := Prod.ext_iff.1 h.symm
  exact ⟨rfl, rfl⟩

theorem compileTo_atEnd_inv (h : (Pattern.atEnd.compileTo nx).run b = (e, b')) :
    e = b.steps.size ∧ b' = { b with steps := b.steps.push (.atEnd nx) } := by
  obtain ⟨rfl, rfl⟩ := Prod.ext_iff.1 h.symm
  exact ⟨rfl, rfl⟩

end Inversion

end Pattern

namespace Builder

/-- The builder `b'` keeps the steps and the groups of `b`, at their indices. -/
structure Keeps (b b' : Builder) : Prop where
  steps_size : b.steps.size ≤ b'.steps.size
  steps : ∀ i < b.steps.size, b'.steps[i]? = b.steps[i]?
  groups_size : b.groups.size ≤ b'.groups.size
  groups : ∀ g < b.groups.size, b'.groups[g]? = b.groups[g]?

namespace Keeps

variable {b b₁ b₂ b₃ : Builder}

theorem refl (b : Builder) : Keeps b b := ⟨le_rfl, fun _ _ => rfl, le_rfl, fun _ _ => rfl⟩

theorem trans (h₁ : Keeps b₁ b₂) (h₂ : Keeps b₂ b₃) : Keeps b₁ b₃ where
  steps_size := h₁.steps_size.trans h₂.steps_size
  steps i hi := (h₂.steps i (lt_of_lt_of_le hi h₁.steps_size)).trans (h₁.steps i hi)
  groups_size := h₁.groups_size.trans h₂.groups_size
  groups g hg := (h₂.groups g (lt_of_lt_of_le hg h₁.groups_size)).trans (h₁.groups g hg)

theorem push_step (h : Keeps b₁ b₂) (s : Step) : Keeps b₁ { b₂ with steps := b₂.steps.push s } where
  steps_size := by simpa using Nat.le_succ_of_le h.steps_size
  steps i hi := by
    have : i < b₂.steps.size := lt_of_lt_of_le hi h.steps_size
    simpa [Array.getElem?_push, Nat.ne_of_lt this] using h.steps i hi
  groups_size := h.groups_size
  groups := h.groups

theorem push_group (h : Keeps b₁ b₂) (name : String) :
    Keeps b₁ { b₂ with groups := b₂.groups.push name } where
  steps_size := h.steps_size
  steps := h.steps
  groups_size := by simpa using Nat.le_succ_of_le h.groups_size
  groups g hg := by
    have : g < b₂.groups.size := lt_of_lt_of_le hg h.groups_size
    simpa [Array.getElem?_push, Nat.ne_of_lt this] using h.groups g hg

theorem set_step (h : Keeps b₁ b₂) {i : Nat} (hi : b₁.steps.size ≤ i) (s : Step) :
    Keeps b₁ { b₂ with steps := b₂.steps.set! i s } where
  steps_size := by simpa using h.steps_size
  steps j hj := by
    simpa [Array.set!_eq_setIfInBounds, Array.getElem?_setIfInBounds, Nat.ne_of_gt (lt_of_lt_of_le hj hi)]
      using h.steps j hj
  groups_size := h.groups_size
  groups := h.groups

end Keeps

open Pattern in
/-- Compiling a pattern adds steps and groups and changes none of those already built; it only
puts a repetition's loop in place of the placeholder that it added itself. -/
theorem keeps_compileTo (p : Pattern) {nx e : Nat} {b b' : Builder}
    (h : (p.compileTo nx).run b = (e, b')) : Keeps b b' := by
  induction p generalizing nx e b b' with
  | empty => rw [(compileTo_empty_inv h).2]; exact .refl b
  | chars k => rw [(compileTo_chars_inv h).2]; exact (Keeps.refl b).push_step _
  | seq p q ihp ihq =>
    obtain ⟨_, _, hq, hp⟩ := compileTo_seq_inv h
    exact (ihq hq).trans (ihp hp)
  | alt p q ihp ihq =>
    obtain ⟨_, _, _, _, hp, hq, -, rfl⟩ := compileTo_alt_inv h
    exact ((ihp hp).trans (ihq hq)).push_step _
  | star g p ih =>
    obtain ⟨_, _, hp, -, rfl⟩ := compileTo_star_inv h
    exact (((Keeps.refl b).push_step _).trans (ih hp)).set_step le_rfl _
  | group name p ih =>
    obtain ⟨_, _, hp, -, rfl⟩ := compileTo_group_inv h
    exact ((((Keeps.refl b).push_group name).push_step _).trans (ih hp)).push_step _
  | atStart => rw [(compileTo_atStart_inv h).2]; exact (Keeps.refl b).push_step _
  | atEnd => rw [(compileTo_atEnd_inv h).2]; exact (Keeps.refl b).push_step _

open Pattern List in
/-- Compiling a pattern adds the names of its groups to the builder's, in some order. -/
theorem groups_compileTo (p : Pattern) {nx e : Nat} {b b' : Builder}
    (h : (p.compileTo nx).run b = (e, b')) :
    b'.groups.toList.Perm (b.groups.toList ++ p.groupNames) := by
  induction p generalizing nx e b b' with
  | empty => simp [(compileTo_empty_inv h).2, groupNames]
  | chars k => simp [(compileTo_chars_inv h).2, groupNames]
  | seq p q ihp ihq =>
    obtain ⟨_, _, hq, hp⟩ := compileTo_seq_inv h
    -- the second pattern is compiled first
    calc b'.groups.toList ~ _ ++ p.groupNames := ihp hp
      _ ~ (b.groups.toList ++ q.groupNames) ++ p.groupNames := (ihq hq).append_right _
      _ ~ b.groups.toList ++ (p.seq q).groupNames := by
        have hcomm : (q.groupNames ++ p.groupNames) ~ (p.groupNames ++ q.groupNames) :=
          List.perm_append_comm
        simpa [groupNames] using hcomm.append_left b.groups.toList
  | alt p q ihp ihq =>
    obtain ⟨_, _, _, bq, hp, hq, -, rfl⟩ := compileTo_alt_inv h
    calc bq.groups.toList ~ _ ++ q.groupNames := ihq hq
      _ ~ (b.groups.toList ++ p.groupNames) ++ q.groupNames := (ihp hp).append_right _
      _ = _ := by simp [groupNames]
  | star g p ih =>
    obtain ⟨_, _, hp, -, rfl⟩ := compileTo_star_inv h
    simpa [groupNames] using ih hp
  | group name p ih =>
    obtain ⟨_, _, hp, -, rfl⟩ := compileTo_group_inv h
    simpa [groupNames] using ih hp
  | atStart => simp [(compileTo_atStart_inv h).2, groupNames]
  | atEnd => simp [(compileTo_atEnd_inv h).2, groupNames]

end Builder

namespace Pattern

section Run

/-! How `run` takes each pattern apart. -/

variable {n : Nat} {α : Type} (c : Cursor n) (caps : Captures) (k : Cursor n → Captures → Option α)

@[simp] theorem run_empty : Pattern.empty.run c caps k = k c caps := by rw [Pattern.run]

@[simp] theorem run_seq (p q : Pattern) :
    (p.seq q).run c caps k = p.run c caps fun c' caps' => q.run c' caps' k := by rw [Pattern.run]

@[simp] theorem run_alt (p q : Pattern) :
    (p.alt q).run c caps k = (p.run c caps k).orElse fun _ => q.run c caps k := by rw [Pattern.run]

theorem run_star (g : Bool) (p : Pattern) :
    (p.star g).run c caps k =
      let again := fun (_ : Unit) =>
        p.run c caps fun c' caps' => if c.pos < c'.pos then (p.star g).run c' caps' k else none
      if g then (again ()).orElse fun _ => k c caps else (k c caps).orElse again := by
  rw [Pattern.run]

@[simp] theorem run_group (name : String) (p : Pattern) :
    (p.group name).run c caps k =
      p.run c caps fun c' caps' => k c' ((name, c.pos, c'.pos) :: caps') := by rw [Pattern.run]

@[simp] theorem run_atStart : Pattern.atStart.run c caps k = if c.pos = 0 then k c caps else none := by
  rw [Pattern.run]

@[simp] theorem run_atEnd : Pattern.atEnd.run c caps k = if c.rest.isEmpty then k c caps else none := by
  rw [Pattern.run]

end Run

end Pattern

theorem Option.rel_orElse {α β : Type} {V : α → β → Prop} {ra rb : Option α} {x y : Option β}
    (ha : Option.Rel V ra x) (hb : Option.Rel V rb y) :
    Option.Rel V (ra.orElse fun _ => rb) (x.orElse fun _ => y) := by
  cases ha with
  | some h => simpa using h
  | none => simpa using hb

namespace Program

/-- The program holds the steps and the groups that the builder `b'` has beyond `b`. -/
structure Covers (P : Program) (b b' : Builder) : Prop where
  steps : ∀ i, b.steps.size ≤ i → i < b'.steps.size → P.steps[i]? = b'.steps[i]?
  groups : ∀ g, b.groups.size ≤ g → g < b'.groups.size → P.groups[g]? = b'.groups[g]?

namespace Covers

variable {P : Program} {b b₁ b₂ : Builder}

theorem left (h : Covers P b b₂) (hk : Builder.Keeps b₁ b₂) : Covers P b b₁ where
  steps i hi hi₁ := (h.steps i hi (lt_of_lt_of_le hi₁ hk.steps_size)).trans (hk.steps i hi₁)
  groups g hg hg₁ := (h.groups g hg (lt_of_lt_of_le hg₁ hk.groups_size)).trans (hk.groups g hg₁)

theorem right (h : Covers P b b₂) (hk : Builder.Keeps b b₁) : Covers P b₁ b₂ where
  steps i hi hi₂ := h.steps i (hk.steps_size.trans hi) hi₂
  groups g hg hg₂ := h.groups g (hk.groups_size.trans hg) hg₂

/-- A step that the later builder has beyond the earlier one is a step of the program. -/
theorem step (h : Covers P b b₂) {i : Nat} (hi : b.steps.size ≤ i) {s : Step}
    (hs : b₂.steps[i]? = some s) : P.steps[i]? = some s := by
  obtain ⟨hlt, -⟩ := Array.getElem?_eq_some_iff.1 hs
  rw [h.steps i hi hlt, hs]

/-- A group that the later builder has beyond the earlier one is a group of the program. -/
theorem group (h : Covers P b b₂) {g : Nat} (hg : b.groups.size ≤ g) {name : String}
    (hs : b₂.groups[g]? = some name) : P.groups[g]? = some name := by
  obtain ⟨hlt, -⟩ := Array.getElem?_eq_some_iff.1 hs
  rw [h.groups g hg hlt, hs]

theorem of_set {i : Nat} {s : Step} (h : Covers P b { b₂ with steps := b₂.steps.set! i s })
    (hi : i < b₁.steps.size) (hs : b.steps.size ≤ b₁.steps.size)
    (hg : b.groups.size ≤ b₁.groups.size) : Covers P b₁ b₂ where
  steps j hj hj₂ := by
    rw [h.steps j (hs.trans hj) (by simpa using hj₂)]
    simp [Array.set!_eq_setIfInBounds, Nat.ne_of_lt (lt_of_lt_of_le hi hj)]
  groups g hg₁ hg₂ := h.groups g (hg.trans hg₁) hg₂

end Covers

/-- The span that the slots record for group `g`, when both its ends are set. -/
def slotSpan (σ : Slots) (g : Nat) : Option (Nat × Nat) :=
  match σ[2 * g]?.join, σ[2 * g + 1]?.join with
  | some i, some j => some (i, j)
  | _, _ => none

/-- The span that the captures record last for a name. -/
def capsSpan (caps : Captures) (name : String) : Option (Nat × Nat) :=
  (caps.find? (·.1 == name)).map (·.2)

theorem slotSpan_set_of_ne {σ : Slots} {g slot : Nat} (v : Option Nat) (h₁ : slot ≠ 2 * g)
    (h₂ : slot ≠ 2 * g + 1) : slotSpan (σ.set! slot v) g = slotSpan σ g := by
  simp [slotSpan, Array.set!_eq_setIfInBounds, h₁, h₂]

theorem capsSpan_cons_of_ne {caps : Captures} {name name' : String} (i j : Nat)
    (h : name ≠ name') : capsSpan ((name, i, j) :: caps) name' = capsSpan caps name' := by
  simp [capsSpan, h]

@[simp] theorem capsSpan_cons_self (caps : Captures) (name : String) (i j : Nat) :
    capsSpan ((name, i, j) :: caps) name = some (i, j) := by
  simp [capsSpan]

variable (P : Program)

/-- The slots agree with the captures: each group in `opened` was entered at the position
given and has not been left since, and each other group spans in the slots what its name spans
last in the captures. -/
structure SlotsAgree (opened : Nat → Option Nat) (σ : Slots) (caps : Captures) : Prop where
  size : σ.size = 2 * P.groups.size
  names : ∀ x ∈ caps, x.1 ∈ P.groups
  entered : ∀ g i, opened g = some i → σ[2 * g]? = some (some i)
  closed : ∀ g (hg : g < P.groups.size), opened g = none →
    slotSpan σ g = capsSpan caps P.groups[g]

namespace SlotsAgree

variable {P} {opened : Nat → Option Nat} {σ : Slots} {caps : Captures} {g : Nat}

/-- Entering a group records where it starts. -/
theorem enter (h : SlotsAgree P opened σ caps) (hg : g < P.groups.size) (hnone : opened g = none)
    (pos : Nat) :
    SlotsAgree P (Function.update opened g (some pos)) (σ.set! (2 * g) (some pos)) caps where
  size := by simp [h.size]
  names := h.names
  entered g' i hi := by
    by_cases hg' : g' = g
    · subst hg'
      simp at hi
      simp [Array.set!_eq_setIfInBounds, h.size, hi, hg]
    · rw [Function.update_of_ne hg'] at hi
      simpa [Array.set!_eq_setIfInBounds, show 2 * g ≠ 2 * g' by omega] using h.entered g' i hi
  closed g' hg' hn := by
    have hne : g' ≠ g := by rintro rfl; simp at hn
    rw [Function.update_of_ne hne] at hn
    rw [slotSpan_set_of_ne _ (by omega) (by omega)]
    exact h.closed g' hg' hn

/-- Leaving a group records where it ends, in the slots and in the captures alike. -/
theorem leave {name : String} {i : Nat} (h : SlotsAgree P (Function.update opened g (some i)) σ caps)
    (hnodup : P.groups.toList.Nodup) (hg : P.groups[g]? = some name) (hnone : opened g = none)
    (j : Nat) : SlotsAgree P opened (σ.set! (2 * g + 1) (some j)) ((name, i, j) :: caps) where
  size := by simp [h.size]
  names x hx := by
    rcases List.mem_cons.1 hx with rfl | hx
    · exact Array.mem_of_getElem? hg
    · exact h.names x hx
  entered g' i' hi' := by
    have hne : g' ≠ g := by rintro rfl; simp [hnone] at hi'
    have := h.entered g' i' (by rwa [Function.update_of_ne hne])
    simpa [Array.set!_eq_setIfInBounds, show 2 * g + 1 ≠ 2 * g' by omega]
      using this
  closed g' hg' hn := by
    by_cases hne : g' = g
    · subst hne
      have hstart := h.entered g' i (by simp)
      have hname : P.groups[g'] = name := by simpa [hg'] using hg
      have hlt : 2 * g' + 1 < σ.size := by rw [h.size]; omega
      simp [slotSpan, Array.set!_eq_setIfInBounds, hstart, hlt, hname]
    · have hname : name ≠ P.groups[g'] := by
        intro heq
        have : P.groups.toList[g']? = P.groups.toList[g]? := by simp [hg, heq]
        exact hne ((List.getElem?_inj (by simpa using hg') hnodup).1 this)
      rw [slotSpan_set_of_ne _ (by omega) (by omega), capsSpan_cons_of_ne _ _ hname]
      exact h.closed g' hg' (by rw [Function.update_of_ne hne]; exact hn)

end SlotsAgree

variable (s : List Char)

/-- Walking the program from step `e` at position `pos` finds what `answer` gives: from any
slots that agree with the captures, the walk finds a result that `V` relates to the answer for
those captures. -/
def WalksAs {α : Type} (V : Slots × Nat → α → Prop) (opened : Nat → Option Nat) (e pos : Nat)
    (answer : Captures → Option α) : Prop :=
  ∀ σ caps, SlotsAgree P opened σ caps →
    ∃ r, Finds P s.toArray (e, pos) σ r ∧ Option.Rel V r (answer caps)

/-- From step `nx` on, the program walks as the continuation `k` answers, at every cursor from
position `lo` on. -/
def ContAgrees {α : Type} (V : Slots × Nat → α → Prop) (opened : Nat → Option Nat) (nx : Nat)
    (k : Cursor s.length → Captures → Option α) (lo : Nat) : Prop :=
  ∀ c : Cursor s.length, c.rest = s.drop c.pos → lo ≤ c.pos → WalksAs P s V opened nx c.pos (k c)

/-- The steps that compiling `p` adds walk as `p` runs, whatever follows them: when the steps
after them walk as a continuation answers, the first of them walks as `p` run with that
continuation. The groups that compiling `p` adds must not be open. -/
def CompilesAgree (p : Pattern) : Prop :=
  ∀ {nx e : Nat} {b b' : Builder}, (p.compileTo nx).run b = (e, b') → Covers P b b' →
    ∀ {α : Type} (V : Slots × Nat → α → Prop) (opened : Nat → Option Nat),
    (∀ g, b.groups.size ≤ g → opened g = none) →
    ∀ (k : Cursor s.length → Captures → Option α) (c : Cursor s.length), c.rest = s.drop c.pos →
    ContAgrees P s V opened nx k (c.pos + p.minLength) →
    WalksAs P s V opened e c.pos fun caps => p.run c caps k

variable {P s}

theorem ContAgrees.mono {α : Type} {V : Slots × Nat → α → Prop} {opened : Nat → Option Nat}
    {nx : Nat} {k : Cursor s.length → Captures → Option α} {lo lo' : Nat}
    (h : ContAgrees P s V opened nx k lo) (hle : lo ≤ lo') : ContAgrees P s V opened nx k lo' :=
  fun c hc hlo => h c hc (hle.trans hlo)

open Pattern Builder

section Compile

theorem compilesAgree_empty : CompilesAgree P s .empty := by
  intro nx e b b' hrun _ α V opened _ k c hc hk
  obtain ⟨rfl, -⟩ := compileTo_empty_inv hrun
  simp only [run_empty]
  exact hk c hc (by simp)

theorem compilesAgree_chars (cls : CharClass) : CompilesAgree P s (.chars cls) := by
  intro nx e b b' hrun hcov α V opened _ k c hc hk σ caps hσ
  obtain ⟨rfl, rfl⟩ := compileTo_chars_inv hrun
  have hstep : P.steps[b.steps.size]? = some (.chars cls nx) := hcov.step le_rfl (by simp)
  obtain ⟨pos, rest, hlen⟩ := c
  dsimp only at hc
  cases rest with
  | nil =>
    refine ⟨none, .charsFail hstep fun x hx => ?_, by simp [Pattern.run]⟩
    rw [List.getElem?_toArray, ← List.head?_drop, ← hc] at hx
    cases hx
  | cons x r =>
    have hx : s.toArray[pos]? = some x := by rw [List.getElem?_toArray, ← List.head?_drop, ← hc]; rfl
    have hr : r = s.drop (pos + 1) := by rw [← List.drop_drop, ← hc]; rfl
    by_cases hadm : cls.admits x = true
    · obtain ⟨r', hf, hrel⟩ := hk ⟨pos + 1, r, by simp at hlen; omega⟩ hr
        (by simp) σ caps hσ
      exact ⟨r', .chars hstep hx hadm hf, by simpa [Pattern.run, hadm] using hrel⟩
    · refine ⟨none, .charsFail hstep fun y hy => ?_, by simp [Pattern.run, hadm]⟩
      rw [hx] at hy
      cases hy
      simpa using hadm

theorem compilesAgree_seq {p q : Pattern} (hp : CompilesAgree P s p) (hq : CompilesAgree P s q) :
    CompilesAgree P s (p.seq q) := by
  intro nx e b b' hrun hcov α V opened hopen k c hc hk
  obtain ⟨eq, bq, hrq, hrp⟩ := compileTo_seq_inv hrun
  have hkq := keeps_compileTo q hrq
  have hkp := keeps_compileTo p hrp
  -- the steps of the first pattern go on into those of the second
  have hcont : ContAgrees P s V opened eq (fun c' caps' => q.run c' caps' k)
      (c.pos + p.minLength) := by
    intro c' hc' hle
    exact hq hrq (hcov.left hkp) V opened hopen k c' hc'
      (hk.mono (by have := minLength_seq_le p q; omega))
  simp only [run_seq]
  exact hp hrp (hcov.right hkq) V opened (fun g hg => hopen g (hkq.groups_size.trans hg)) _ c hc
    hcont

theorem compilesAgree_alt {p q : Pattern} (hp : CompilesAgree P s p) (hq : CompilesAgree P s q) :
    CompilesAgree P s (p.alt q) := by
  intro nx e b b' hrun hcov α V opened hopen k c hc hk σ caps hσ
  obtain ⟨ep, bp, eq, bq, hrp, hrq, rfl, rfl⟩ := compileTo_alt_inv hrun
  have hkp := keeps_compileTo p hrp
  have hkq := keeps_compileTo q hrq
  have hstep : P.steps[bq.steps.size]? = some (.branch ep eq) :=
    hcov.step (hkp.trans hkq).steps_size (by simp)
  obtain ⟨ra, hfa, hrela⟩ := hp hrp (hcov.left (hkq.push_step _)) V opened hopen k c hc
    (hk.mono (by have := minLength_alt_le_left p q; omega)) σ caps hσ
  obtain ⟨rb, hfb, hrelb⟩ := hq hrq ((hcov.left ((Keeps.refl bq).push_step _)).right hkp) V opened
    (fun g hg => hopen g (hkp.groups_size.trans hg)) k c hc
    (hk.mono (by have := minLength_alt_le_right p q; omega)) σ caps hσ
  exact ⟨_, .branch hstep hfa hfb, by simpa using Option.rel_orElse hrela hrelb⟩

/-- The loop of a repetition walks as the repetition runs, from every cursor on. The induction
is on the characters left: each pass through the body reads one before it comes back. -/
theorem walksAs_loop {g : Bool} {p : Pattern} (hcons : p.Consuming) (hp : CompilesAgree P s p)
    {nx ep L : Nat} {b₁ bp : Builder} (hrun : (p.compileTo L).run b₁ = (ep, bp))
    (hcov : Covers P b₁ bp) (hloop : P.steps[L]? = some (if g then .branch ep nx else .branch nx ep))
    {α : Type} {V : Slots × Nat → α → Prop} {opened : Nat → Option Nat}
    (hopen : ∀ g, b₁.groups.size ≤ g → opened g = none)
    {k : Cursor s.length → Captures → Option α} {lo : Nat} (hk : ContAgrees P s V opened nx k lo)
    (c : Cursor s.length) (hc : c.rest = s.drop c.pos) (hlo : lo ≤ c.pos) :
    WalksAs P s V opened L c.pos fun caps => (p.star g).run c caps k := by
  intro σ caps hσ
  have hagain : ContAgrees P s V opened L
      (fun c' caps' => if c.pos < c'.pos then (p.star g).run c' caps' k else none)
      (c.pos + p.minLength) := by
    intro c' hc' hle
    have hlt : c.pos < c'.pos := by simp [minLength, hcons] at hle; omega
    simpa only [if_pos hlt] using walksAs_loop hcons hp hrun hcov hloop hopen hk c' hc' (hlo.trans hlt.le)
  obtain ⟨ra, hfa, hrela⟩ := hp hrun hcov V opened hopen _ c hc hagain σ caps hσ
  obtain ⟨rb, hfb, hrelb⟩ := hk c hc hlo σ caps hσ
  beta_reduce
  rw [run_star]
  cases g with
  | true => exact ⟨_, .branch hloop hfa hfb, by simpa using Option.rel_orElse hrela hrelb⟩
  | false => exact ⟨_, .branch hloop hfb hfa, by simpa using Option.rel_orElse hrelb hrela⟩
termination_by s.length - c.pos
decreasing_by have := c'.pos_add; omega

theorem compilesAgree_star {g : Bool} {p : Pattern} (hcons : p.Consuming)
    (hp : CompilesAgree P s p) : CompilesAgree P s (p.star g) := by
  intro nx e b b' hrun hcov α V opened hopen k c hc hk
  obtain ⟨ep, bp, hrp, rfl, rfl⟩ := compileTo_star_inv hrun
  have hkp := keeps_compileTo p hrp
  have hL : b.steps.size < bp.steps.size := by
    have := hkp.steps_size
    simp at this
    omega
  have hloop : P.steps[b.steps.size]? = some (if g then .branch ep nx else .branch nx ep) :=
    hcov.step le_rfl (by simp [Array.set!_eq_setIfInBounds, hL])
  exact walksAs_loop hcons hp hrp (hcov.of_set (by simp) (by simp) le_rfl) hloop hopen hk c hc
    (by simp)

theorem compilesAgree_group {name : String} {p : Pattern} (hnodup : P.groups.toList.Nodup)
    (hp : CompilesAgree P s p) : CompilesAgree P s (p.group name) := by
  intro nx e b b' hrun hcov α V opened hopen k c hc hk σ caps hσ
  obtain ⟨ep, bp, hrp, rfl, rfl⟩ := compileTo_group_inv hrun
  have hkp := keeps_compileTo p hrp
  have hk₁ : Keeps b ⟨b.steps.push (.save (2 * b.groups.size + 1) nx), b.groups.push name⟩ :=
    ((Keeps.refl b).push_group name).push_step _
  have hk₂ := hkp.push_step (.save (2 * b.groups.size) ep)
  have hentry : P.steps[bp.steps.size]? = some (.save (2 * b.groups.size) ep) :=
    hcov.step (hk₁.trans hkp).steps_size (by simp)
  have hclose : P.steps[b.steps.size]? = some (.save (2 * b.groups.size + 1) nx) :=
    hcov.step le_rfl ((hk₂.steps _ (by simp)).trans (by simp))
  have hname : P.groups[b.groups.size]? = some name :=
    hcov.group le_rfl ((hk₂.groups _ (by simp)).trans (by simp))
  have hlt : b.groups.size < P.groups.size := (Array.getElem?_eq_some_iff.1 hname).1
  have hnone := hopen b.groups.size le_rfl
  -- inside the group, the group is open from the cursor's position
  have hcont : ContAgrees P s V (Function.update opened b.groups.size (some c.pos)) b.steps.size
      (fun c' caps' => k c' ((name, c.pos, c'.pos) :: caps')) (c.pos + p.minLength) := by
    intro c' hc' hle σ' caps' hσ'
    obtain ⟨r, hf, hrel⟩ := hk c' hc' (by simpa using hle) _ _
      (hσ'.leave hnodup hname hnone c'.pos)
    exact ⟨r, .save hclose hf, hrel⟩
  have hopen' : ∀ g, b.groups.size + 1 ≤ g →
      Function.update opened b.groups.size (some c.pos) g = none := by
    intro g hg
    rw [Function.update_of_ne (by omega)]
    exact hopen g (by omega)
  obtain ⟨r, hf, hrel⟩ := hp hrp ((hcov.left ((Keeps.refl bp).push_step _)).right hk₁) V _
    (by simpa using hopen') _ c hc hcont _ caps (hσ.enter hlt hnone c.pos)
  exact ⟨r, .save hentry hf, by simpa using hrel⟩

theorem compilesAgree_atStart : CompilesAgree P s .atStart := by
  intro nx e b b' hrun hcov α V opened _ k c hc hk σ caps hσ
  obtain ⟨rfl, rfl⟩ := compileTo_atStart_inv hrun
  have hstep : P.steps[b.steps.size]? = some (.atStart nx) := hcov.step le_rfl (by simp)
  by_cases h0 : c.pos = 0
  · obtain ⟨r, hf, hrel⟩ := hk c hc (by simp) σ caps hσ
    exact ⟨r, .atStart hstep h0 hf, by simpa [h0] using hrel⟩
  · exact ⟨none, .atStartFail hstep h0, by simp [h0]⟩

theorem compilesAgree_atEnd : CompilesAgree P s .atEnd := by
  intro nx e b b' hrun hcov α V opened _ k c hc hk σ caps hσ
  obtain ⟨rfl, rfl⟩ := compileTo_atEnd_inv hrun
  have hstep : P.steps[b.steps.size]? = some (.atEnd nx) := hcov.step le_rfl (by simp)
  -- the cursor is at the end exactly when nothing is left after it
  have hend : c.rest.isEmpty = true ↔ c.pos = s.toArray.size := by
    have := c.pos_add
    rw [hc] at this ⊢
    simp [List.isEmpty_iff]
    omega
  by_cases he : c.pos = s.toArray.size
  · obtain ⟨r, hf, hrel⟩ := hk c hc (by simp) σ caps hσ
    exact ⟨r, .atEnd hstep he hf, by simpa [hend.2 he] using hrel⟩
  · exact ⟨none, .atEndFail hstep he, by simp [mt hend.1 he]⟩

/-- Compiling a pattern whose repetitions all consume gives steps that walk as it runs. -/
theorem compilesAgree (hnodup : P.groups.toList.Nodup) (p : Pattern) (hp : p.Progressive) :
    CompilesAgree P s p := by
  induction p with
  | empty => exact compilesAgree_empty
  | chars cls => exact compilesAgree_chars cls
  | seq p q ihp ihq =>
    simp only [Progressive, Bool.and_eq_true] at hp
    exact compilesAgree_seq (ihp hp.1) (ihq hp.2)
  | alt p q ihp ihq =>
    simp only [Progressive, Bool.and_eq_true] at hp
    exact compilesAgree_alt (ihp hp.1) (ihq hp.2)
  | star g p ih =>
    simp only [Progressive, Bool.and_eq_true] at hp
    exact compilesAgree_star hp.1 (ih hp.2)
  | group name p ih => exact compilesAgree_group hnodup (ih hp)
  | atStart => exact compilesAgree_atStart
  | atEnd => exact compilesAgree_atEnd

end Compile

/-- Compiling from the builder that holds only the accepting step gives the program. -/
theorem compile_run (p : Pattern) :
    (p.compileTo 0).run ⟨#[.accept], #[]⟩ = (p.compile.start, ⟨p.compile.steps, p.compile.groups⟩) :=
  rfl

theorem compile_groups_nodup {p : Pattern} (hn : p.groupNames.Nodup) :
    p.compile.groups.toList.Nodup :=
  (groups_compileTo p (compile_run p)).nodup_iff.2 (by simpa using hn)

theorem join_initialSlots (P : Program) (i : Nat) : P.initialSlots[i]?.join = none := by
  unfold initialSlots
  rw [Array.getElem?_replicate]
  split <;> rfl

/-- The slots at the start of a walk agree with no captures. -/
theorem slotsAgree_initialSlots (P : Program) : SlotsAgree P (fun _ => none) P.initialSlots [] where
  size := by simp [initialSlots]
  names := by simp
  entered := by simp
  closed g _ _ := by simp [slotSpan, capsSpan, join_initialSlots]

end Program

namespace Pattern

/-- The match of `p` that starts at the cursor: the first way of matching it there, in order of
preference, with the spans of the groups it went through. -/
def matchAt (p : Pattern) {n : Nat} (c : Cursor n) : Option Match :=
  p.run c [] fun c' caps => some ⟨c.pos, c'.pos, caps⟩

end Pattern

namespace Program

open Pattern Builder

/-- The compiled program, walked from its start at a position, finds the match of the pattern
that starts there: one with the same end, and slots that record the spans of its groups. -/
theorem finds_compile {p : Pattern} (hp : p.Progressive) (hn : p.groupNames.Nodup) (s : List Char)
    (c : Cursor s.length) (hc : c.rest = s.drop c.pos) :
    ∃ r, Finds p.compile s.toArray (p.compile.start, c.pos) p.compile.initialSlots r ∧
      Option.Rel (fun (x : Slots × Nat) (m : Match) => m.start = c.pos ∧ x.2 = m.stop ∧
        SlotsAgree p.compile (fun _ => none) x.1 m.captures) r (p.matchAt c) := by
  have hacc : p.compile.steps[0]? = some .accept := by
    simpa using (keeps_compileTo p (compile_run p)).steps 0 (by simp)
  have hk : ContAgrees p.compile s (fun (x : Slots × Nat) (m : Match) => m.start = c.pos ∧ x.2 = m.stop ∧
      SlotsAgree p.compile (fun _ => none) x.1 m.captures) (fun _ => none) 0
      (fun c' caps => some ⟨c.pos, c'.pos, caps⟩) 0 := by
    intro c' _ _ σ caps hσ
    exact ⟨_, .accept hacc, by simpa using hσ⟩
  exact compilesAgree (compile_groups_nodup hn) p hp (compile_run p)
    ⟨fun _ _ _ => rfl, fun _ _ _ => rfl⟩ _ _ (by simp) _ c hc (hk.mono (Nat.zero_le _)) _ []
    (slotsAgree_initialSlots _)

end Program

end TableDdl

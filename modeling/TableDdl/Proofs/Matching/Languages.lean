import Mathlib.Computability.Language
import TableDdl.Proofs.Matching.Ways

/-!
# The languages that patterns read

Leaving the order of preference aside, a pattern without anchors reads a language: every way of
matching it consumes a word of the language from the cursor, and every word of the language that
the text goes on with is consumed by some way (`Pattern.Reads`). The language of a concatenation
is the product of the languages, that of an alternative their sum and that of a repetition the
Kleene star (`Reads.seq`, `Reads.alt`, `Reads.star`), and a literal of characters that have no
other case reads itself (`Reads.literal`). A group reads what its pattern reads; it only adds its
span to the captures, and every way adds only captures of the pattern's own groups
(`ways_captures`).

Grammars are put together from such pieces and from anchors, and what a grammar's ways do is
followed piece by piece with two kinds of triples over the ways: `AllWays P p Q`, every way from
a state in `P` ends in `Q`, and `SomeWay P p Q`, some way from each state in `P` ends in `Q`. A
pattern that starts with `atStart` has no way away from the start of the subject, so its
leftmost-first match is its first way there (`leftmost_of_anchored`).
-/

namespace TableDdl

open Computability

namespace Cursor

variable {n : Nat}

theorem pos_eq (c : Cursor n) : c.pos = n - c.rest.length := by
  have := c.pos_add
  omega

/-- A cursor of a subject that is a text followed by the cursor's rest stands after that text. -/
theorem pos_of_eq {s a : List Char} (c : Cursor s.length) (h : s = a ++ c.rest) :
    c.pos = a.length := by
  have hlen : s.length = a.length + c.rest.length := by
    simpa using congrArg List.length h
  have := c.pos_add
  omega

/-- A cursor is fixed by the text after it. -/
theorem ext_rest {c c' : Cursor n} (h : c.rest = c'.rest) : c = c' :=
  ext_pos_rest (by rw [pos_eq c, pos_eq c', h]) h

end Cursor

namespace Unicode

/-- A character whose case-fold orbit is the character alone. -/
def Caseless (x : Char) : Prop := foldOrbit x = [x]

instance : DecidablePred Caseless := fun x => inferInstanceAs (Decidable (foldOrbit x = [x]))

/-- A text of characters without other cases matches the start of another exactly when it is a
prefix of it. -/
theorem foldPrefix_iff {xs : List Char} (h : ∀ x ∈ xs, Caseless x) (ys : List Char) :
    foldPrefix xs ys = true ↔ xs <+: ys := by
  induction xs generalizing ys with
  | nil => simp [foldPrefix]
  | cons x xs ih =>
    have hx : foldOrbit x = [x] := h x List.mem_cons_self
    cases ys with
    | nil => simp [foldPrefix]
    | cons y ys =>
      simp only [foldPrefix, hx, Bool.and_eq_true, ih (fun z hz => h z (List.mem_cons_of_mem x hz)),
        List.cons_prefix_cons]
      simp [eq_comm]

end Unicode

namespace Pattern

variable {n : Nat}

@[simp] theorem ways_append (p q : Pattern) (c : Cursor n) (caps : Captures) :
    (p ++ q).ways c caps = (p.ways c caps).flatMap fun w => q.ways w.1 w.2 :=
  ways_seq c caps p q

theorem mem_ways_append {p q : Pattern} {c : Cursor n} {caps : Captures}
    {w : Cursor n × Captures} :
    w ∈ (p ++ q).ways c caps ↔ ∃ v ∈ p.ways c caps, w ∈ q.ways v.1 v.2 := by
  rw [ways_append, List.mem_flatMap]

/-- The words of one character that satisfy `P`. -/
def charsWith (P : Char → Prop) : Language Char := {u | ∃ x, P x ∧ u = [x]}

theorem mem_charsWith {P : Char → Prop} {u : List Char} : u ∈ charsWith P ↔ ∃ x, P x ∧ u = [x] :=
  Iff.rfl

/-! ## Every way consumes a prefix and adds its own groups -/

/-- A way of a repetition is a way back to the start or a way of the pattern followed by a way
of the repetition from further on. -/
theorem mem_ways_star {g : Bool} {p : Pattern} {c : Cursor n} {caps : Captures}
    {w : Cursor n × Captures} :
    w ∈ (p.star g).ways c caps ↔
      w = (c, caps) ∨ ∃ v ∈ p.ways c caps, c.pos < v.1.pos ∧ w ∈ (p.star g).ways v.1 v.2 := by
  rw [ways_star]
  cases g <;> simp [List.mem_flatMap, or_comm]

/-- What every way of `p` keeps, every way of a repetition of `p` keeps. -/
theorem ways_star_of_step {I : Cursor n × Captures → Prop} (g : Bool) (p : Pattern)
    (hstep : ∀ c caps, I (c, caps) → ∀ v ∈ p.ways c caps, I v) :
    ∀ c caps, I (c, caps) → ∀ w ∈ (p.star g).ways c caps, I w := by
  intro c caps
  -- each pass of the repetition moves the cursor on: induction on the characters left
  induction h : n - c.pos using Nat.strong_induction_on generalizing c caps with
  | _ m ih =>
    intro hI w hw
    rcases mem_ways_star.1 hw with rfl | ⟨v, hv, hlt, hw⟩
    · exact hI
    · have := v.1.pos_add
      exact ih (n - v.1.pos) (by omega) v.1 v.2 rfl (hstep c caps hI v hv) w hw

/-- Every way of matching leaves a suffix of the text after the cursor. -/
theorem ways_suffix (p : Pattern) (c : Cursor n) (caps : Captures) :
    ∀ w ∈ p.ways c caps, ∃ u, c.rest = u ++ w.1.rest := by
  induction p generalizing c caps with
  | empty => simp
  | chars cls =>
    rw [ways_chars]
    split
    · rename_i x r hr
      split
      · simp only [List.mem_singleton, forall_eq]
        exact ⟨[x], by simp [hr]⟩
      · simp
    · simp
  | seq p q ihp ihq =>
    simp only [ways_seq, List.mem_flatMap]
    rintro w ⟨v, hv, hw⟩
    obtain ⟨a, ha⟩ := ihp c caps v hv
    obtain ⟨b, hb⟩ := ihq v.1 v.2 w hw
    exact ⟨a ++ b, by rw [ha, hb, List.append_assoc]⟩
  | alt p q ihp ihq =>
    simp only [ways_alt, List.mem_append]
    rintro w (hw | hw)
    · exact ihp c caps w hw
    · exact ihq c caps w hw
  | star g p ih =>
    refine ways_star_of_step (I := fun w => ∃ u, c.rest = u ++ w.1.rest) g p ?_ c caps ⟨[], rfl⟩
    rintro c' caps' ⟨u, hu⟩ v hv
    obtain ⟨a, ha⟩ := ih c' caps' v hv
    exact ⟨u ++ a, by rw [hu, ha, List.append_assoc]⟩
  | group name p ih =>
    simp only [ways_group, List.mem_map]
    rintro w ⟨v, hv, rfl⟩
    exact ih c caps v hv
  | atStart => by_cases h : c.pos = 0 <;> simp [h]
  | atEnd => by_cases h : c.rest.isEmpty = true <;> simp [h]

/-- Every way of matching adds captures of the pattern's own groups in front of those it
started with. -/
theorem ways_captures (p : Pattern) (c : Cursor n) (caps : Captures) :
    ∀ w ∈ p.ways c caps, ∃ new, w.2 = new ++ caps ∧ ∀ x ∈ new, x.1 ∈ p.groupNames := by
  induction p generalizing c caps with
  | empty => simp
  | chars cls =>
    rw [ways_chars]
    split
    · split <;> simp
    · simp
  | seq p q ihp ihq =>
    simp only [ways_seq, List.mem_flatMap]
    rintro w ⟨v, hv, hw⟩
    obtain ⟨a, ha, hna⟩ := ihp c caps v hv
    obtain ⟨b, hb, hnb⟩ := ihq v.1 v.2 w hw
    refine ⟨b ++ a, by rw [hb, ha, List.append_assoc], ?_⟩
    intro x hx
    rcases List.mem_append.1 hx with hx | hx
    · exact List.mem_append_right _ (hnb x hx)
    · exact List.mem_append_left _ (hna x hx)
  | alt p q ihp ihq =>
    simp only [ways_alt, List.mem_append]
    rintro w (hw | hw)
    · obtain ⟨a, ha, hna⟩ := ihp c caps w hw
      exact ⟨a, ha, fun x hx => List.mem_append_left _ (hna x hx)⟩
    · obtain ⟨a, ha, hna⟩ := ihq c caps w hw
      exact ⟨a, ha, fun x hx => List.mem_append_right _ (hna x hx)⟩
  | star g p ih =>
    refine ways_star_of_step
      (I := fun w => ∃ new, w.2 = new ++ caps ∧ ∀ x ∈ new, x.1 ∈ p.groupNames) g p ?_ c caps
      ⟨[], rfl, by simp⟩
    rintro c' caps' ⟨a, ha, hna⟩ v hv
    obtain ⟨b, hb, hnb⟩ := ih c' caps' v hv
    refine ⟨b ++ a, by rw [hb, show caps' = a ++ caps from ha, List.append_assoc], ?_⟩
    intro x hx
    rcases List.mem_append.1 hx with hx | hx
    · exact hnb x hx
    · exact hna x hx
  | group name p ih =>
    simp only [ways_group, List.mem_map]
    rintro w ⟨v, hv, rfl⟩
    obtain ⟨a, ha, hna⟩ := ih c caps v hv
    refine ⟨(name, c.pos, v.1.pos) :: a, by simp [ha], ?_⟩
    intro x hx
    rcases List.mem_cons.1 hx with rfl | hx
    · exact List.mem_cons_self
    · exact List.mem_cons_of_mem _ (hna x hx)
  | atStart => by_cases h : c.pos = 0 <;> simp [h]
  | atEnd => by_cases h : c.rest.isEmpty = true <;> simp [h]

/-- A pattern without groups leaves the captures as they were. -/
theorem ways_captures_of_nil {p : Pattern} (hp : p.groupNames = []) {c : Cursor n}
    {caps : Captures} {w : Cursor n × Captures} (hw : w ∈ p.ways c caps) : w.2 = caps := by
  obtain ⟨new, hnew, hnames⟩ := ways_captures p c caps w hw
  cases new with
  | nil => exact hnew
  | cons x _ => simpa [hp] using hnames x List.mem_cons_self

@[simp] theorem groupNames_append (p q : Pattern) :
    (p ++ q).groupNames = p.groupNames ++ q.groupNames := rfl

@[simp] theorem groupNames_literal (s : String) : (literal s).groupNames = [] := by
  unfold literal
  induction s.toList with
  | nil => rfl
  | cons x xs ih => simpa [oneOf, groupNames] using ih

/-! ## Languages -/

/-- The pattern reads the language: every way of matching it consumes a word of the language,
and every word of the language that the text after the cursor starts with is consumed by some
way. -/
structure Reads (p : Pattern) (L : Language Char) : Prop where
  sound : ∀ {n} (c : Cursor n) caps, ∀ w ∈ p.ways c caps, ∃ u ∈ L, c.rest = u ++ w.1.rest
  complete : ∀ {n} (c : Cursor n) caps, ∀ u ∈ L, ∀ r, c.rest = u ++ r →
    ∃ w ∈ p.ways c caps, w.1.rest = r

namespace Reads

variable {p q : Pattern} {L M : Language Char}

theorem congr (h : Reads p L) (hL : L = M) : Reads p M := hL ▸ h

theorem empty : Reads .empty 1 where
  sound c caps w hw := by
    simp only [ways_empty, List.mem_singleton] at hw
    exact ⟨[], rfl, by simp [hw]⟩
  complete c caps u hu r hr := by
    rw [Language.mem_one] at hu
    subst hu
    exact ⟨(c, caps), by simp, by simpa using hr⟩

theorem chars (cls : CharClass) : Reads (.chars cls) (charsWith fun x => cls.admits x = true) where
  sound c caps w hw := by
    rw [ways_chars] at hw
    split at hw
    · rename_i x r hr
      split at hw
      · rename_i hx
        simp only [List.mem_singleton] at hw
        exact ⟨[x], ⟨x, hx, rfl⟩, by simp [hw, hr]⟩
      · simp at hw
    · simp at hw
  complete c caps u hu r hr := by
    obtain ⟨x, hx, rfl⟩ := hu
    refine ⟨(c.skip 1, caps), ?_, by simp [hr]⟩
    rw [ways_chars]
    simp [hr, hx]

theorem seq (hp : Reads p L) (hq : Reads q M) : Reads (p ++ q) (L * M) where
  sound c caps w hw := by
    obtain ⟨v, hv, hw⟩ := List.mem_flatMap.1 ((ways_append p q c caps) ▸ hw)
    obtain ⟨a, ha, hca⟩ := hp.sound c caps v hv
    obtain ⟨b, hb, hvb⟩ := hq.sound v.1 v.2 w hw
    exact ⟨a ++ b, Language.append_mem_mul ha hb, by rw [hca, hvb, List.append_assoc]⟩
  complete c caps u hu r hr := by
    obtain ⟨a, ha, b, hb, rfl⟩ := Language.mem_mul.1 hu
    obtain ⟨v, hv, hvr⟩ := hp.complete c caps a ha (b ++ r) (by rw [hr, List.append_assoc])
    obtain ⟨w, hw, hwr⟩ := hq.complete v.1 v.2 b hb r hvr
    refine ⟨w, ?_, hwr⟩
    rw [ways_append]
    exact List.mem_flatMap.2 ⟨v, hv, hw⟩

theorem alt (hp : Reads p L) (hq : Reads q M) : Reads (.alt p q) (L + M) where
  sound c caps w hw := by
    rw [ways_alt] at hw
    rcases List.mem_append.1 hw with hw | hw
    · obtain ⟨u, hu, h⟩ := hp.sound c caps w hw
      exact ⟨u, Or.inl hu, h⟩
    · obtain ⟨u, hu, h⟩ := hq.sound c caps w hw
      exact ⟨u, Or.inr hu, h⟩
  complete c caps u hu r hr := by
    rcases (Language.mem_add L M u).1 hu with hu | hu
    · obtain ⟨w, hw, h⟩ := hp.complete c caps u hu r hr
      exact ⟨w, by simp [hw], h⟩
    · obtain ⟨w, hw, h⟩ := hq.complete c caps u hu r hr
      exact ⟨w, by simp [hw], h⟩

theorem group (hp : Reads p L) (name : String) : Reads (.group name p) L where
  sound c caps w hw := by
    rw [ways_group] at hw
    obtain ⟨v, hv, rfl⟩ := List.mem_map.1 hw
    exact hp.sound c caps v hv
  complete c caps u hu r hr := by
    obtain ⟨v, hv, hvr⟩ := hp.complete c caps u hu r hr
    refine ⟨(v.1, (name, c.pos, v.1.pos) :: v.2), ?_, hvr⟩
    rw [ways_group]
    exact List.mem_map.2 ⟨v, hv, rfl⟩

theorem star (hp : Reads p L) (g : Bool) : Reads (.star g p) L∗ where
  sound c caps := by
    refine ways_star_of_step (I := fun w => ∃ u ∈ L∗, c.rest = u ++ w.1.rest) g p ?_ c caps
      ⟨[], Language.nil_mem_kstar L, rfl⟩
    rintro c' caps' ⟨u, hu, hcu⟩ v hv
    obtain ⟨a, ha, hca⟩ := hp.sound c' caps' v hv
    refine ⟨u ++ a, ?_, by rw [hcu, hca, List.append_assoc]⟩
    obtain ⟨S, rfl, hS⟩ := Language.mem_kstar.1 hu
    exact Language.mem_kstar.2 ⟨S ++ [a], by simp, by simpa [or_imp, forall_and] using ⟨hS, ha⟩⟩
  complete {n} c caps u hu r hr := by
    obtain ⟨S, rfl, hS⟩ := Language.mem_kstar_iff_exists_nonempty.1 hu
    -- one pass of the pattern for each nonempty part of the word
    have key : ∀ S : List (List Char), (∀ y ∈ S, y ∈ L ∧ y ≠ []) → ∀ (c : Cursor n) caps,
        c.rest = S.flatten ++ r → ∃ w ∈ (p.star g).ways c caps, w.1.rest = r := by
      intro S
      induction S with
      | nil =>
        intro _ c caps hr
        exact ⟨(c, caps), mem_ways_star.2 (Or.inl rfl), by simpa using hr⟩
      | cons y S ih =>
        intro hS c caps hr
        obtain ⟨hy, hyne⟩ := hS y List.mem_cons_self
        obtain ⟨v, hv, hvr⟩ := hp.complete c caps y hy (S.flatten ++ r) (by simpa using hr)
        have hlt : c.pos < v.1.pos := by
          have hlen : v.1.rest.length < c.rest.length := by
            rw [hr, hvr]
            simpa using List.length_pos_iff.2 hyne
          rw [Cursor.pos_eq c, Cursor.pos_eq v.1]
          have := c.pos_add
          omega
        obtain ⟨w, hw, hwr⟩ := ih (fun z hz => hS z (List.mem_cons_of_mem y hz)) v.1 v.2 hvr
        exact ⟨w, mem_ways_star.2 (Or.inr ⟨v, hv, hlt, hw⟩), hwr⟩
    exact key S hS c caps hr

theorem opt (hp : Reads p L) : Reads p.opt (L + 1) := hp.alt empty

theorem plus (hp : Reads p L) : Reads p.plus (L * L∗) := hp.seq (hp.star true)

/-- A literal of characters without other cases reads itself. The condition is stated as a
check that evaluates, so that it is decided on the literal's characters and not over all
characters. -/
theorem literal (s : String) (hs : s.toList.all (fun x => decide (Unicode.Caseless x)) = true) :
    Reads (Pattern.literal s) {s.toList} where
  sound c caps w hw := by
    have h : ∀ x ∈ s.toList, Unicode.Caseless x := by simpa using hs
    rw [ways_literal] at hw
    split at hw
    · rename_i hpre
      simp only [List.mem_singleton] at hw
      obtain ⟨r, hr⟩ := (Unicode.foldPrefix_iff h c.rest).1 hpre
      refine ⟨s.toList, rfl, ?_⟩
      rw [hw]
      simp [← hr, ← String.length_toList]
    · simp at hw
  complete c caps u hu r hr := by
    have h : ∀ x ∈ s.toList, Unicode.Caseless x := by simpa using hs
    change u = s.toList at hu
    subst hu
    have hpre : Unicode.foldPrefix s.toList c.rest = true :=
      (Unicode.foldPrefix_iff h c.rest).2 ⟨r, hr.symm⟩
    refine ⟨(c.skip s.length, caps), by simp [ways_literal, hpre], ?_⟩
    simp [hr, ← String.length_toList]

/-- A class of characters without other cases, negated, reads the other characters. -/
theorem noneOf_chars (xs : List Char) (hs : xs.all (fun x => decide (Unicode.Caseless x)) = true) :
    Reads (noneOf (xs.map .char)) (charsWith (· ∉ xs)) := by
  have h : ∀ x ∈ xs, Unicode.Caseless x := by simpa using hs
  have hadm : ∀ y, (CharClass.noneOf (xs.map .char)).admits y = true ↔ y ∉ xs := by
    intro y
    have key : (∀ x ∈ xs, y ∉ Unicode.foldOrbit x) ↔ y ∉ xs := by
      constructor
      · intro hall hy
        exact hall y hy (by rw [h y hy]; exact List.mem_singleton_self y)
      · intro hy x hx hyx
        rw [h x hx, List.mem_singleton] at hyx
        exact hy (hyx ▸ hx)
    simpa [CharClass.noneOf, CharClass.anyOf, CharClass.admits, ClassItem.admits, List.any_map,
      Function.comp_def] using key
  refine (chars _).congr ?_
  ext u
  simp only [mem_charsWith, hadm]

end Reads

/-- A word of a language followed by words of its Kleene star is a nonempty word of the star,
when the language has no empty word. -/
theorem mem_mul_kstar_iff {L : Language Char} (hL : [] ∉ L) {u : List Char} :
    u ∈ L * L∗ ↔ u ∈ L∗ ∧ u ≠ [] := by
  constructor
  · rintro ⟨a, ha, b, hb, rfl⟩
    obtain ⟨S, rfl, hS⟩ := Language.mem_kstar.1 hb
    have hane : a ≠ [] := fun h => hL (h ▸ ha)
    refine ⟨Language.mem_kstar.2 ⟨a :: S, by simp, ?_⟩, by simp [hane]⟩
    simpa using ⟨ha, hS⟩
  · rintro ⟨hu, hne⟩
    obtain ⟨S, rfl, hS⟩ := Language.mem_kstar_iff_exists_nonempty.1 hu
    cases S with
    | nil => simp at hne
    | cons y S =>
      refine ⟨y, (hS y List.mem_cons_self).1, S.flatten, ?_, by simp⟩
      exact Language.mem_kstar.2 ⟨S, rfl, fun z hz => (hS z (List.mem_cons_of_mem y hz)).1⟩

/-- The words of the star of one-character words are the texts of such characters. -/
theorem mem_kstar_charsWith {P : Char → Prop} {u : List Char} :
    u ∈ (charsWith P)∗ ↔ ∀ x ∈ u, P x := by
  constructor
  · rintro ⟨S, rfl, hS⟩ x hx
    obtain ⟨y, hy, hxy⟩ := List.mem_flatten.1 hx
    obtain ⟨z, hz, rfl⟩ := hS y hy
    simp only [List.mem_singleton] at hxy
    exact hxy ▸ hz
  · intro h
    have hflat : ∀ v : List Char, (v.map fun x => [x]).flatten = v := by
      intro v
      induction v with
      | nil => rfl
      | cons x v ih => simp [ih]
    refine ⟨u.map fun x => [x], (hflat u).symm, ?_⟩
    simp only [List.mem_map]
    rintro y ⟨x, hx, rfl⟩
    exact ⟨x, h x hx, rfl⟩

/-- A repetition, at least once, of a pattern that reads one character of a kind reads the
nonempty texts of such characters. -/
theorem Reads.plus_chars {p : Pattern} {P : Char → Prop} (h : Reads p (charsWith P)) :
    Reads p.plus {u | u ≠ [] ∧ ∀ x ∈ u, P x} := by
  refine h.plus.congr ?_
  ext u
  have hnil : [] ∉ charsWith P := by
    rintro ⟨x, -, hx⟩
    simp at hx
  rw [mem_mul_kstar_iff hnil, mem_kstar_charsWith]
  exact and_comm

/-- A way of a pattern without groups consumes a word of its language and keeps the captures. -/
theorem Reads.mem_ways {p : Pattern} {L : Language Char} (h : Reads p L) (hp : p.groupNames = [])
    {c : Cursor n} {caps : Captures} {w : Cursor n × Captures} (hw : w ∈ p.ways c caps) :
    (∃ u ∈ L, c.rest = u ++ w.1.rest) ∧ w.2 = caps :=
  ⟨h.sound c caps w hw, ways_captures_of_nil hp hw⟩

/-- For a pattern without groups, every word of its language that the text starts with is
consumed by a way that keeps the captures. -/
theorem Reads.complete' {p : Pattern} {L : Language Char} (h : Reads p L) (hp : p.groupNames = [])
    (c : Cursor n) (caps : Captures) {u : List Char} (hu : u ∈ L) {r : List Char}
    (hr : c.rest = u ++ r) : ∃ c', (c', caps) ∈ p.ways c caps ∧ c'.rest = r := by
  obtain ⟨w, hw, hwr⟩ := h.complete c caps u hu r hr
  have hw' : w = (w.1, caps) := Prod.ext rfl (ways_captures_of_nil hp hw)
  exact ⟨w.1, hw' ▸ hw, hwr⟩

/-- A pattern whose every way starts with the character `x`. -/
def Leads (p : Pattern) (x : Char) : Prop :=
  ∀ {n} (c : Cursor n) caps, ∀ w ∈ p.ways c caps, ∃ u, c.rest = x :: u ++ w.1.rest

theorem Leads.seq {p : Pattern} {x : Char} (hp : Leads p x) (q : Pattern) : Leads (p ++ q) x := by
  intro n c caps w hw
  rw [ways_append] at hw
  obtain ⟨v, hv, hw⟩ := List.mem_flatMap.1 hw
  obtain ⟨a, ha⟩ := hp c caps v hv
  obtain ⟨b, hb⟩ := ways_suffix q v.1 v.2 w hw
  exact ⟨a ++ b, by rw [ha, hb]; simp⟩

theorem Reads.leads {p : Pattern} {L : Language Char} {x : Char} (h : Reads p L)
    (hL : ∀ u ∈ L, u.head? = some x) : Leads p x := by
  intro n c caps w hw
  obtain ⟨u, hu, hcu⟩ := h.sound c caps w hw
  obtain ⟨u', rfl⟩ : ∃ u', u = x :: u' := by
    have := hL u hu
    cases u with
    | nil => simp at this
    | cons y u' => exact ⟨u', by simpa using this⟩
  exact ⟨u', by simpa using hcu⟩

/-! ## Captures kept -/

/-- `caps` is `caps₀` with captures in front whose names are not among `names`: the spans of
those names are as in `caps₀`. -/
def KeepsSpans (names : List String) (caps₀ caps : Captures) : Prop :=
  ∃ new, caps = new ++ caps₀ ∧ ∀ x ∈ new, x.1 ∉ names

theorem KeepsSpans.refl (names : List String) (caps : Captures) : KeepsSpans names caps caps :=
  ⟨[], rfl, by simp⟩

theorem KeepsSpans.trans {names : List String} {a b c : Captures} (hab : KeepsSpans names a b)
    (hbc : KeepsSpans names b c) : KeepsSpans names a c := by
  obtain ⟨x, rfl, hx⟩ := hab
  obtain ⟨y, rfl, hy⟩ := hbc
  refine ⟨y ++ x, by simp, ?_⟩
  intro z hz
  rcases List.mem_append.1 hz with hz | hz
  · exact hy z hz
  · exact hx z hz

/-- A way of a pattern whose groups avoid `names` keeps the spans of `names`. -/
theorem keepsSpans_ways {names : List String} {p : Pattern} (hp : ∀ x ∈ p.groupNames, x ∉ names)
    {c : Cursor n} {caps : Captures} {w : Cursor n × Captures} (hw : w ∈ p.ways c caps) :
    KeepsSpans names caps w.2 := by
  obtain ⟨new, hnew, hnames⟩ := ways_captures p c caps w hw
  exact ⟨new, hnew, fun x hx => hp x.1 (hnames x hx)⟩

theorem KeepsSpans.find? {names : List String} {caps₀ caps : Captures}
    (h : KeepsSpans names caps₀ caps) {name : String} (hn : name ∈ names) :
    caps.find? (·.1 == name) = caps₀.find? (·.1 == name) := by
  obtain ⟨new, rfl, hnew⟩ := h
  rw [List.find?_append, List.find?_eq_none.2]
  · rfl
  · intro x hx
    simp only [beq_iff_eq]
    rintro rfl
    exact hnew x hx hn

/-! ## First ways -/

/-- The first of the answers of a list whose every member has one is that of its first
member. -/
theorem findSome?_of_isSome {α β : Type} {l : List α} {g : α → Option β}
    (h : ∀ a, (g a).isSome) : l.findSome? g = l.head?.bind g := by
  cases l with
  | nil => rfl
  | cons a l =>
    obtain ⟨b, hb⟩ := Option.isSome_iff_exists.1 (h a)
    simp [hb]

/-- The first way of a sequence whose second part always has a way goes through the first way
of its first part. -/
theorem head?_ways_append {p q : Pattern} (hq : ∀ {n} (c : Cursor n) caps, q.ways c caps ≠ [])
    (c : Cursor n) (caps : Captures) :
    ((p ++ q).ways c caps).head? = (p.ways c caps).head?.bind fun v => (q.ways v.1 v.2).head? := by
  rw [ways_append, List.head?_flatMap, findSome?_of_isSome]
  intro v
  cases h : q.ways v.1 v.2 with
  | nil => exact absurd h (hq v.1 v.2)
  | cons w ws => rfl

theorem ways_opt_ne_nil (p : Pattern) (c : Cursor n) (caps : Captures) : p.opt.ways c caps ≠ [] := by
  simp

/-! ## Triples over the ways -/

/-- Every way of matching `p` from a state in `P` ends in a state in `Q`. -/
def AllWays (P : Cursor n → Captures → Prop) (p : Pattern) (Q : Cursor n → Captures → Prop) :
    Prop :=
  ∀ c caps, P c caps → ∀ w ∈ p.ways c caps, Q w.1 w.2

/-- From every state in `P`, some way of matching `p` ends in a state in `Q`. -/
def SomeWay (P : Cursor n → Captures → Prop) (p : Pattern) (Q : Cursor n → Captures → Prop) :
    Prop :=
  ∀ c caps, P c caps → ∃ w ∈ p.ways c caps, Q w.1 w.2

variable {P Q R : Cursor n → Captures → Prop} {p q : Pattern}

theorem AllWays.seq (hp : AllWays P p Q) (hq : AllWays Q q R) : AllWays P (p ++ q) R := by
  intro c caps hP w hw
  obtain ⟨v, hv, hw⟩ := List.mem_flatMap.1 ((ways_append p q c caps) ▸ hw)
  exact hq v.1 v.2 (hp c caps hP v hv) w hw

/-- An optional pattern keeps what the pattern keeps, when skipping it keeps it too. -/
theorem AllWays.opt (hp : AllWays P p Q) (hskip : ∀ c caps, P c caps → Q c caps) :
    AllWays P p.opt Q := by
  intro c caps hP w hw
  rcases List.mem_append.1 ((ways_opt p c caps) ▸ hw) with hw | hw
  · exact hp c caps hP w hw
  · simp only [List.mem_singleton] at hw
    subst hw
    exact hskip c caps hP

theorem AllWays.atEnd : AllWays P .atEnd fun c caps => P c caps ∧ c.rest = [] := by
  intro c caps hP w hw
  by_cases h : c.rest.isEmpty = true
  · simp only [ways_atEnd, h, if_true, List.mem_singleton] at hw
    subst hw
    exact ⟨hP, List.isEmpty_iff.1 h⟩
  · simp [h] at hw

theorem SomeWay.seq (hp : SomeWay P p Q) (hq : SomeWay Q q R) : SomeWay P (p ++ q) R := by
  intro c caps hP
  obtain ⟨v, hv, hQ⟩ := hp c caps hP
  obtain ⟨w, hw, hR⟩ := hq v.1 v.2 hQ
  refine ⟨w, ?_, hR⟩
  rw [ways_append]
  exact List.mem_flatMap.2 ⟨v, hv, hw⟩

/-- An optional pattern can always be skipped. -/
theorem SomeWay.skip (hskip : ∀ c caps, P c caps → Q c caps) : SomeWay P p.opt Q :=
  fun c caps hP => ⟨(c, caps), by simp, hskip c caps hP⟩

/-- An optional pattern can be taken. -/
theorem SomeWay.take (hp : SomeWay P p Q) : SomeWay P p.opt Q := by
  intro c caps hP
  obtain ⟨w, hw, hQ⟩ := hp c caps hP
  exact ⟨w, by simp [hw], hQ⟩

theorem SomeWay.atEnd : SomeWay (fun c _ => c.rest = []) .atEnd fun (_ : Cursor n) _ => True := by
  intro c caps hr
  exact ⟨(c, caps), by simp [hr], trivial⟩

/-! ## Anchored patterns -/

/-- The pattern has no way away from the start of the subject. -/
def Anchored (p : Pattern) : Prop := ∀ {n} (c : Cursor n) caps, c.pos ≠ 0 → p.ways c caps = []

theorem anchored_atStart : Anchored .atStart := by
  intro n c caps h
  simp [h]

theorem Anchored.seq (hp : Anchored p) (q : Pattern) : Anchored (p ++ q) := by
  intro n c caps h
  rw [ways_append, hp c caps h, List.flatMap_nil]

/-- The leftmost-first match of an anchored pattern is its first way from the start. -/
theorem leftmost_of_anchored (hp : Anchored p) (s : List Char) :
    p.leftmost s = (p.ways (Cursor.start s) []).head?.map fun w => ⟨0, w.1.pos, w.2⟩ := by
  have hlater : ∀ i ∈ List.range' 1 s.length, p.matchAt ((Cursor.start s).skip i) = none := by
    intro i hi
    obtain ⟨hi1, hi2⟩ : 1 ≤ i ∧ i < 1 + s.length := by simpa using hi
    have hpos : ((Cursor.start s).skip i).pos = i := by
      simp only [Cursor.pos_skip, Cursor.start]
      omega
    rw [matchAt_eq_head?, hp _ _ (by omega)]
    rfl
  rw [leftmost, leftmostFrom, show s.length + 1 - 0 = 1 + s.length by omega, ← List.range'_append,
    List.findSome?_append, List.findSome?_eq_none_iff.2 hlater]
  simp [matchAt_eq_head?, Cursor.start]

end Pattern

end TableDdl

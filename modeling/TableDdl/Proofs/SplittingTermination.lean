import TableDdl.Config.Basic

/-!
# Why reading qualified names terminates

A quoting convention is built from three tokens by `Quoting.make?`, which accepts them exactly
when neither quote is empty, the escaped final quote is not empty, and it is not the final quote
itself; it keeps the tokens as given. A configuration's convention is one of the two presets or
what `make?` builds from the configured tokens, so every convention carries these rules.

Under them both loops of reading a qualified name stop. The loop that reads a quoted body reads
an escaped final quote or one character per pass, and the escaped final quote is not empty, so
each pass that goes on leaves a shorter text (`scanPass_shortens`); with an empty escape a pass
would read nothing and go on (`scanPass_empty_escape`). The loop of `splitNames` reads a quoted
name or the text up to a dot per pass, each leaving a shorter text (`splitPass_shortens`), so a
text of length `n` is read in at most `n` passes (`splitNames_eq_passes`).
-/

namespace TableDdl

namespace Quoting

/-- Two conventions with the same tokens are the same convention. -/
@[ext] theorem ext {a b : Quoting} (hi : a.initial = b.initial) (hf : a.final = b.final)
    (he : a.escaped = b.escaped) : a = b := by
  cases a
  cases b
  simp_all

/-! ## Building conventions -/

/-- The rules three tokens must follow to form a quoting convention. -/
def Admissible (initial final escaped : String) : Prop :=
  initial ≠ "" ∧ final ≠ "" ∧ escaped ≠ "" ∧ escaped ≠ final

/-- `make?` builds a convention exactly from tokens that follow the rules, and keeps them. -/
theorem make?_eq_ok_iff {i f e : String} {q : Quoting} :
    make? i f e = .ok q ↔ Admissible i f e ∧ q.initial = i ∧ q.final = f ∧ q.escaped = e := by
  unfold make?
  split
  · rename_i h
    simp only [reduceCtorEq, false_iff]
    rintro ⟨⟨hi, hf, -⟩, -⟩
    rcases h with h | h
    · exact hi h
    · exact hf h
  · split
    · rename_i h
      simp only [reduceCtorEq, false_iff]
      rintro ⟨⟨-, -, he, -⟩, -⟩
      exact he h
    · split
      · rename_i h
        simp only [reduceCtorEq, false_iff]
        rintro ⟨⟨-, -, -, hef⟩, -⟩
        exact hef h
      · rename_i h₁ h₂ h₃
        simp only [Except.ok.injEq]
        constructor
        · rintro rfl
          exact ⟨⟨fun h => h₁ (.inl h), fun h => h₁ (.inr h), h₂, h₃⟩, rfl, rfl, rfl⟩
        · rintro ⟨-, hi, hf, he⟩
          exact Quoting.ext hi.symm hf.symm he.symm

end Quoting

/-- The convention of a configuration is a preset or the one `make?` builds from the configured
tokens. -/
theorem Config.quotingConvention_eq_ok {c : Config} {q : Quoting} (h : c.quotingConvention = .ok q) :
    q = .backtick ∨ q = .ansi ∨ ∃ i f e, c.quoting.initial = some i ∧ c.quoting.final = some f ∧
      c.quoting.escapedFinal = some e ∧ Quoting.make? i f e = .ok q := by
  unfold Config.quotingConvention at h
  split at h
  · exact .inl (Except.ok.inj h).symm
  · exact .inr (.inl (Except.ok.inj h).symm)
  · split at h
    · rename_i i f e hi hf he
      exact .inr (.inr ⟨i, f, e, hi, hf, he, h⟩)
    · cases h

namespace Quoting

/-! ## The loop that reads a quoted body -/

/-- What one pass of the loop that reads a quoted body does: it reads a piece and goes on with
the rest, or it stops with its answer. -/
inductive ScanPass where
  | read (piece rest : List Char)
  | stop (answer : Option (List Char × List Char))

/-- One pass of the loop that reads a quoted body, for the final quote `f` and its escaped form
`e`: an escaped final quote is read as it stands; a final quote ends the body, where it ends the
text or stands before a dot; any other character is read. -/
def scanPass (f e rest : List Char) : ScanPass :=
  if e.isPrefixOf rest then .read e (rest.drop e.length)
  else if f.isPrefixOf rest then
    let after := rest.drop f.length
    .stop (if after.head? = none || after.head? = some '.' then some ([], after) else none)
  else
    match rest with
    | [] => .stop none
    | c :: r => .read [c] r

/-- `scanBody` is the loop of these passes: a pass that reads a piece puts it before what the
passes after it read. -/
theorem scanBody_eq_pass (q : Quoting) (rest : List Char) :
    q.scanBody rest =
      match scanPass q.final.toList q.escaped.toList rest with
      | .read piece r => (q.scanBody r).map fun (b, a) => (piece ++ b, a)
      | .stop answer => answer := by
  rw [scanBody]
  unfold scanPass
  by_cases he : q.escaped.toList.isPrefixOf rest
  · simp [he, String.length_toList]
  · by_cases hf : q.final.toList.isPrefixOf rest
    · simp [he, hf, String.length_toList]
    · cases rest <;> simp [he, hf]

/-- A pass that goes on leaves a shorter text, when the escaped form is not empty. -/
theorem scanPass_shortens {f e rest piece r : List Char} (he : e ≠ [])
    (h : scanPass f e rest = .read piece r) : r.length < rest.length := by
  unfold scanPass at h
  split at h
  · rename_i hpre
    obtain ⟨-, rfl⟩ := ScanPass.read.inj h
    have hle := (List.isPrefixOf_iff_prefix.1 hpre).length_le
    have hpos : 0 < e.length := List.length_pos_iff.2 he
    simp only [List.length_drop]
    omega
  · split at h
    · cases h
    · split at h
      · cases h
      · obtain ⟨-, rfl⟩ := ScanPass.read.inj h
        simp

/-- With an empty escaped form a pass reads nothing and goes on: the loop would never stop. -/
theorem scanPass_empty_escape (f rest : List Char) : scanPass f [] rest = .read [] rest := by
  simp [scanPass]

/-! ## The loop of `splitNames` -/

/-- One pass of the loop of `splitNames`: the part it reads, a quoted body or the text up to a
dot, and the text left for the next pass. -/
def splitPass (q : Quoting) (s : List Char) : List Char × List Char :=
  match q.takeQuoted s with
  | some (body, after) => (body, dropDot after)
  | none => cutAtDot s

/-- The names a part adds: none for an empty part, else the part unescaped. -/
def partNames (q : Quoting) (part : List Char) : List String :=
  if part.isEmpty then [] else [q.unescape (String.ofList part)]

/-- The text left after `k` passes. -/
def restAfter (q : Quoting) : Nat → List Char → List Char
  | 0, s => s
  | k + 1, s => q.restAfter k (q.splitPass s).2

theorem splitNames_nil (q : Quoting) : q.splitNames [] = [] := by
  rw [splitNames, dif_pos rfl]

/-- Over a non-empty text, `splitNames` reads the part of one pass and goes on with the text
that pass leaves. -/
theorem splitNames_eq_pass (q : Quoting) {s : List Char} (hs : s ≠ []) :
    q.splitNames s = q.partNames (q.splitPass s).1 ++ q.splitNames (q.splitPass s).2 := by
  rw [splitNames, dif_neg hs]
  unfold splitPass partNames
  split <;> rename_i heq <;> simp only [heq]

/-- Each pass over a non-empty text leaves a shorter text. -/
theorem splitPass_shortens (q : Quoting) {s : List Char} (hs : s ≠ []) :
    (q.splitPass s).2.length < s.length := by
  unfold splitPass
  split
  · rename_i body after h
    have := q.takeQuoted_shortens s body after h
    have := dropDot_length_le after
    dsimp only
    omega
  · exact cutAtDot_shortens s hs

/-- A pass over the empty text reads nothing and leaves nothing. -/
theorem splitPass_nil (q : Quoting) : q.splitPass [] = ([], []) := by
  have hi : q.initial.toList.isPrefixOf [] = false := by
    cases h : q.initial.toList with
    | nil => exact absurd (String.toList_eq_nil_iff.1 h) q.initial_ne
    | cons x xs => rfl
  simp [splitPass, takeQuoted, hi, cutAtDot]

/-- After as many passes as the text is long, nothing is left. -/
theorem restAfter_length (q : Quoting) (s : List Char) : q.restAfter s.length s = [] := by
  -- each pass shortens a non-empty text, and the empty text stays empty
  suffices h : ∀ k s, s.length ≤ k → q.restAfter k s = [] from h _ s (Nat.le_refl _)
  intro k
  induction k with
  | zero => intro s hs; simpa [restAfter] using hs
  | succ k ih =>
    intro s hs
    rw [restAfter]
    by_cases hs' : s = []
    · subst hs'
      rw [splitPass_nil]
      exact ih [] (Nat.zero_le _)
    · exact ih _ (by have := q.splitPass_shortens hs'; omega)

/-- `splitNames` reads a text in at most as many passes as the text is long: its names are those
of the parts its first `n` passes read, for any `n` at least the text's length. -/
theorem splitNames_eq_passes (q : Quoting) (s : List Char) :
    ∀ n, s.length ≤ n →
      q.splitNames s = (List.range n).flatMap fun k => q.partNames (q.splitPass (q.restAfter k s)).1 := by
  intro n
  -- induction on the number of passes, the text shrinking by the first of them
  induction n generalizing s with
  | zero =>
    intro hs
    rw [List.eq_nil_of_length_eq_zero (Nat.le_zero.1 hs), splitNames_nil]
    rfl
  | succ n ih =>
    intro hs
    have hshift : ∀ k, q.restAfter (k + 1) s = q.restAfter k (q.splitPass s).2 := fun _ => rfl
    have hzero : q.restAfter 0 s = s := rfl
    rw [List.range_succ_eq_map, List.flatMap_cons, List.flatMap_map, hzero]
    simp only [Nat.succ_eq_add_one, hshift]
    by_cases hs' : s = []
    · subst hs'
      rw [splitPass_nil, ← ih [] (Nat.zero_le _), splitNames_nil]
      rfl
    · rw [splitNames_eq_pass q hs', ih _ (by have := q.splitPass_shortens hs'; omega)]

/-! ## Conventions and the two loops -/

/-- Every convention follows the rules that make reading names stop, and under them it does:
`make?` builds a convention exactly from tokens that follow the rules and keeps them, and a
configuration's convention is a preset or built so; `scanBody` is the loop of its passes, and
each pass that goes on leaves a shorter text; each pass of `splitNames` leaves a shorter text,
and a text is read in at most as many passes as it is long. -/
theorem admissible_conventions_split_in_bounded_passes :
    (∀ i f e q, make? i f e = .ok q ↔ Admissible i f e ∧ q.initial = i ∧ q.final = f ∧ q.escaped = e) ∧
    (∀ (c : Config) q, c.quotingConvention = .ok q → q = .backtick ∨ q = .ansi ∨
      ∃ i f e, c.quoting.initial = some i ∧ c.quoting.final = some f ∧
        c.quoting.escapedFinal = some e ∧ make? i f e = .ok q) ∧
    (∀ (q : Quoting) rest,
      (q.scanBody rest =
        match scanPass q.final.toList q.escaped.toList rest with
        | .read piece r => (q.scanBody r).map fun (b, a) => (piece ++ b, a)
        | .stop answer => answer) ∧
      ∀ piece r, scanPass q.final.toList q.escaped.toList rest = .read piece r →
        r.length < rest.length) ∧
    (∀ (q : Quoting) s, s ≠ [] → (q.splitPass s).2.length < s.length) ∧
    ∀ (q : Quoting) s, q.restAfter s.length s = [] ∧
      q.splitNames s = (List.range s.length).flatMap fun k =>
        q.partNames (q.splitPass (q.restAfter k s)).1 :=
  ⟨fun _ _ _ _ => make?_eq_ok_iff, fun _ _ h => Config.quotingConvention_eq_ok h,
    fun q rest => ⟨scanBody_eq_pass q rest, fun _ _ h => scanPass_shortens q.escaped_toList_ne h⟩,
    fun q _ hs => q.splitPass_shortens hs,
    fun q s => ⟨q.restAfter_length s, q.splitNames_eq_passes s s.length (Nat.le_refl _)⟩⟩

end Quoting

end TableDdl

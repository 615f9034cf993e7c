import TableDdl.Proofs.Matching.Alphabet
import TableDdl.Grammar.Options
import TableDdl.Unicode.Word
import TableDdl.Unicode.RangeTable

/-!
# The directive names of table options

The scanner of table options finds each directive by its name, compared without regard to case,
anywhere in what is left of the line. That the options of a well-formed line are read back rests
on facts about the names themselves, stated here once:

* the names are written in capital letters, the underscore and the space, and each of these
  characters folds onto no other character of an option line's frame, so that among them
  matching without regard to case is plain matching (`foldPrefix_iff_prefix_of_alphabet`);
* a name is found inside a directive that a line may hold only as that directive itself, at its
  start (`eq_of_foldPrefix_directive`): `TYPE` inside `RAID_TYPE` is the one exception, and no
  line holds `RAID_TYPE`;
* a name that runs past the end of a text does not go on over the blanks that separate two
  options (`foldPrefix_drop_spaces`): the word after the space of a two-word name starts no
  directive.

A name occurs in a text (`Unicode.OccursFolded`) when it matches, without regard to case, at
some position; doubling a character that no name folds onto adds no occurrence
(`OccursFolded.of_flatMap_double`). Word characters are not white space
(`whiteSpace_contains_of_word`), so the blanks before a word value stop at the value.
-/

namespace TableDdl

namespace Unicode

/-! ## Searching a range table -/

/-- The interval that the search returns holds the code point and is one of the table's. -/
theorem findInterval_go_sound {α : Type} {entries : Array α} {lo hi : α → Nat} {n : Nat} {e : α}
    (a b : Nat) (h : findInterval.go entries lo hi n a b = some e) :
    e ∈ entries.toList ∧ lo e ≤ n ∧ n ≤ hi e := by
  induction a, b using findInterval.go.induct entries lo hi n with
  | case1 a b hab hnone =>
    rw [findInterval.go] at h
    simp [hab, hnone] at h
  | case2 a b hab e' he' hlt ih =>
    rw [findInterval.go] at h
    simp only [hab, he', hlt, dite_true, if_true] at h
    exact ih h
  | case3 a b hab e' he' hlo hhi ih =>
    rw [findInterval.go] at h
    simp only [hab, he', hlo, hhi, dite_true, if_false, if_true] at h
    exact ih h
  | case4 a b hab e' he' hlo hhi =>
    rw [findInterval.go] at h
    simp only [hab, he', hlo, hhi, dite_true, if_false, Option.some.injEq] at h
    subst h
    obtain ⟨hlt, hget⟩ := Array.getElem?_eq_some_iff.1 he'
    exact ⟨hget ▸ Array.getElem_mem_toList hlt, by omega, by omega⟩
  | case5 a b hab =>
    rw [findInterval.go] at h
    simp [hab] at h

theorem RangeTable.exists_of_contains {t : RangeTable} {c : Char} (h : t.contains c = true) :
    ∃ r ∈ t.ranges.toList, r.1 ≤ c.toNat ∧ c.toNat ≤ r.2 := by
  obtain ⟨e, he⟩ := Option.isSome_iff_exists.1 h
  exact ⟨e, findInterval_go_sound _ _ he⟩

/-- No white space character is a word character: each of the few white space code points is
looked up in the word table. -/
theorem word_contains_of_whiteSpace {c : Char} (h : whiteSpace.contains c = true) :
    word.contains c = false := by
  obtain ⟨r, hr, hlo, hhi⟩ := RangeTable.exists_of_contains h
  have hall : (whiteSpace.ranges.toList.all fun r => (List.range' r.1 (r.2 + 1 - r.1)).all fun k =>
      !(findInterval word.ranges Prod.fst Prod.snd k).isSome) = true := by
    decide +kernel
  have hk := List.all_eq_true.1 (List.all_eq_true.1 hall r hr) c.toNat
    (List.mem_range'_1.2 ⟨hlo, by omega⟩)
  simpa [RangeTable.contains] using hk

theorem whiteSpace_contains_of_word {c : Char} (h : word.contains c = true) :
    whiteSpace.contains c = false := by
  cases hs : whiteSpace.contains c
  · rfl
  · simp [word_contains_of_whiteSpace hs] at h

/-! ## Matching without regard to case -/

@[simp] theorem foldPrefix_nil (ys : List Char) : foldPrefix [] ys = true := rfl

@[simp] theorem foldPrefix_cons_nil (x : Char) (xs : List Char) : foldPrefix (x :: xs) [] = false :=
  rfl

@[simp] theorem foldPrefix_cons_cons (x y : Char) (xs ys : List Char) :
    foldPrefix (x :: xs) (y :: ys) = ((foldOrbit x).contains y && foldPrefix xs ys) := rfl

theorem foldPrefix_length_le {xs ys : List Char} (h : foldPrefix xs ys = true) :
    xs.length ≤ ys.length := by
  induction xs generalizing ys with
  | nil => simp
  | cons x xs ih =>
    cases ys with
    | nil => simp at h
    | cons y ys =>
      simp only [foldPrefix_cons_cons, Bool.and_eq_true] at h
      simpa using ih h.2

/-- Matching a name against a text that goes on: a name no longer than the first part is matched
there alone. -/
theorem foldPrefix_append_of_le {xs ys : List Char} (zs : List Char) (h : xs.length ≤ ys.length) :
    foldPrefix xs (ys ++ zs) = foldPrefix xs ys := by
  induction xs generalizing ys with
  | nil => rfl
  | cons x xs ih =>
    cases ys with
    | nil => simp at h
    | cons y ys =>
      simp only [List.cons_append, foldPrefix_cons_cons, ih (by simpa using h)]

/-- Matching a name against a text that goes on: a name longer than the first part runs on into
the second. -/
theorem foldPrefix_append_of_ge {xs ys : List Char} (zs : List Char) (h : ys.length ≤ xs.length) :
    foldPrefix xs (ys ++ zs) =
      (foldPrefix (xs.take ys.length) ys && foldPrefix (xs.drop ys.length) zs) := by
  induction ys generalizing xs with
  | nil => simp
  | cons y ys ih =>
    cases xs with
    | nil => simp at h
    | cons x xs =>
      simp only [List.cons_append, foldPrefix_cons_cons, List.length_cons, List.take_succ_cons,
        List.drop_succ_cons, ih (by simpa using h), Bool.and_assoc]

/-- `name` occurs in `s` when it matches, without regard to case, at some position of `s`. -/
def OccursFolded (name s : List Char) : Prop :=
  ∃ a b, s = a ++ b ∧ foldPrefix name b = true

theorem OccursFolded.append_left {name s : List Char} (h : OccursFolded name s) (t : List Char) :
    OccursFolded name (s ++ t) := by
  obtain ⟨a, b, rfl, hb⟩ := h
  refine ⟨a, b ++ t, by simp, ?_⟩
  rw [foldPrefix_append_of_le _ (foldPrefix_length_le hb), hb]

theorem OccursFolded.append_right {name s : List Char} (h : OccursFolded name s) (t : List Char) :
    OccursFolded name (t ++ s) := by
  obtain ⟨a, b, rfl, hb⟩ := h
  exact ⟨t ++ a, b, by simp, hb⟩

/-- A name that matches at no position of a text does not occur in it; the condition is a check
that evaluates. -/
theorem not_occursFolded_of_all {name s : List Char}
    (h : (List.range (s.length + 1)).all (fun i => !foldPrefix name (s.drop i)) = true) :
    ¬ OccursFolded name s := by
  rintro ⟨a, b, rfl, hb⟩
  have ha := List.all_eq_true.1 h a.length (by simp only [List.mem_range, List.length_append]; omega)
  simp [hb] at ha

section Double

variable {q : Char} {xs : List Char} (hq : ∀ x ∈ xs, q ∉ foldOrbit x)
include hq

/-- A name that no character of folds onto `q` matches a text with `q` doubled only where it
matches the text itself. -/
theorem foldPrefix_of_flatMap_double {u : List Char}
    (h : foldPrefix xs (u.flatMap fun c => if c = q then [q, q] else [c]) = true) :
    foldPrefix xs u = true := by
  induction xs generalizing u with
  | nil => rfl
  | cons x xs ih =>
    cases u with
    | nil => simp at h
    | cons c u =>
      by_cases hc : c = q
      · subst hc
        simp only [List.flatMap_cons, if_true, List.cons_append, foldPrefix_cons_cons,
          Bool.and_eq_true, List.contains_iff_mem] at h
        exact absurd h.1 (hq x List.mem_cons_self)
      · simp only [List.flatMap_cons, hc, if_false, List.cons_append, List.nil_append,
          foldPrefix_cons_cons, Bool.and_eq_true] at h ⊢
        exact ⟨h.1, ih (fun y hy => hq y (List.mem_cons_of_mem x hy)) h.2⟩

/-- Doubling a character that no character of the name folds onto adds no occurrence of the
name. -/
theorem OccursFolded.of_flatMap_double {u : List Char}
    (h : OccursFolded xs (u.flatMap fun c => if c = q then [q, q] else [c])) :
    OccursFolded xs u := by
  obtain ⟨a, b, hab, hb⟩ := h
  induction u generalizing a with
  | nil =>
    obtain ⟨rfl, rfl⟩ := List.append_eq_nil_iff.1 hab.symm
    exact ⟨[], [], rfl, hb⟩
  | cons c u ih =>
    rw [List.flatMap_cons] at hab
    -- the occurrence starts at the first character, inside its doubling, or further on
    cases a with
    | nil =>
      subst hab
      exact ⟨[], c :: u, rfl, foldPrefix_of_flatMap_double hq (by simpa using hb)⟩
    | cons y a =>
      by_cases hc : c = q
      · subst hc
        cases a with
        | nil =>
          -- the occurrence starts at the second copy of the doubled character
          simp only [if_true, List.cons_append, List.nil_append, List.cons.injEq] at hab
          obtain ⟨-, hb'⟩ := hab
          cases xs with
          | nil => exact ⟨[], _, rfl, rfl⟩
          | cons x xs =>
            rw [← hb'] at hb
            simp only [foldPrefix_cons_cons, Bool.and_eq_true, List.contains_iff_mem] at hb
            exact absurd hb.1 (hq x List.mem_cons_self)
        | cons z a =>
          simp only [if_true, List.cons_append, List.cons.injEq] at hab
          obtain ⟨a', b', rfl, hb'⟩ := ih a hab.2.2
          exact ⟨c :: a', b', rfl, hb'⟩
      · simp only [hc, if_false, List.cons_append, List.nil_append, List.cons.injEq] at hab
        obtain ⟨a', b', rfl, hb'⟩ := ih a hab.2
        exact ⟨c :: a', b', rfl, hb'⟩

/-- An occurrence of a name does not start at a character that no character of the name folds
onto. -/
theorem OccursFolded.of_cons {u : List Char} (h : OccursFolded xs (q :: u)) : OccursFolded xs u := by
  obtain ⟨a, b, hab, hb⟩ := h
  cases a with
  | nil =>
    subst hab
    cases xs with
    | nil => exact ⟨[], u, rfl, rfl⟩
    | cons x xs =>
      simp only [foldPrefix_cons_cons, Bool.and_eq_true, List.contains_iff_mem] at hb
      exact absurd hb.1 (hq x List.mem_cons_self)
  | cons y a =>
    simp only [List.cons_append, List.cons.injEq] at hab
    exact ⟨a, b, hab.2, hb⟩

/-- An occurrence of a name does not end at a character that no character of the name folds
onto. -/
theorem OccursFolded.of_append_singleton {u : List Char} (h : OccursFolded xs (u ++ [q])) :
    OccursFolded xs u := by
  obtain ⟨a, b, hab, hb⟩ := h
  by_cases hlen : a.length ≤ u.length
  · -- the occurrence starts inside `u`, and it cannot take the last character
    obtain ⟨b', rfl⟩ : ∃ b', u = a ++ b' := ⟨u.drop a.length, by
      have := congrArg (List.take a.length) hab
      simp only [List.take_append_of_le_length hlen, List.take_left'] at this
      calc u = u.take a.length ++ u.drop a.length := (List.take_append_drop _ _).symm
        _ = a ++ u.drop a.length := by rw [this]⟩
    have hb' : b = b' ++ [q] := by
      simpa using hab.symm
    subst hb'
    by_cases hxs : xs.length ≤ b'.length
    · exact ⟨a, b', rfl, by rwa [foldPrefix_append_of_le _ hxs] at hb⟩
    · rw [foldPrefix_append_of_ge _ (by omega), Bool.and_eq_true] at hb
      obtain ⟨x, xs', hx⟩ : ∃ x xs', xs.drop b'.length = x :: xs' :=
        List.exists_cons_of_ne_nil (by rw [Ne, List.drop_eq_nil_iff]; omega)
      have h2 := hb.2
      rw [hx] at h2
      simp only [foldPrefix_cons_cons, Bool.and_eq_true, List.contains_iff_mem] at h2
      exact absurd h2.1 (hq x (List.mem_of_mem_drop (hx ▸ List.mem_cons_self)))
  · -- the occurrence starts past `u`: it is empty
    have hb : b = [] := by
      have := congrArg List.length hab
      simp at this
      exact List.eq_nil_of_length_eq_zero (by omega)
    subst hb
    exact ⟨u, [], by simp, hb⟩

end Double

/-! ## The alphabet of the directive names -/

/-- The characters of the directive names: the capital letters, the underscore and the space. -/
def directiveAlphabet : List Char := "ABCDEFGHIJKLMNOPQRSTUVWXYZ_ ".toList

/-- The characters that an option line writes around its names and values: those of the names,
the equals sign, the quote, the backslash and the parentheses. -/
def frameChars : List Char := directiveAlphabet ++ "='\\()".toList

/-- Among the characters of an option line's frame, a character of the names folds onto itself
alone. -/
theorem mem_foldOrbit_iff {x y : Char} (hx : x ∈ directiveAlphabet) (hy : y ∈ frameChars) :
    y ∈ foldOrbit x ↔ y = x := by
  -- the characters of the frame are characters of the grammars
  have hframe : (frameChars.all fun z => grammarChars.contains z) = true := by
    unfold frameChars directiveAlphabet
    decide
  simp only [List.all_eq_true, List.contains_iff_mem] at hframe
  exact mem_foldOrbit_grammar (hframe x (List.mem_append_left _ hx)) (hframe y hy)

theorem space_mem_directiveAlphabet : ' ' ∈ directiveAlphabet := by
  unfold directiveAlphabet
  simp

/-- The delimiters of an option line are no characters of the names. -/
theorem delimiter_not_mem_directiveAlphabet {y : Char} (hy : y ∈ "='\\()".toList) :
    y ∈ frameChars ∧ y ∉ directiveAlphabet := by
  unfold frameChars directiveAlphabet
  simp only [String.reduceToList, List.mem_cons, List.not_mem_nil, or_false] at hy ⊢
  rcases hy with rfl | rfl | rfl | rfl | rfl <;> simp

/-- Names in the alphabet of the directives match frame text without regard to case exactly when
they match it as written. -/
theorem foldPrefix_iff_prefix_of_alphabet {xs ys : List Char}
    (hxs : ∀ x ∈ xs, x ∈ directiveAlphabet) (hys : ∀ y ∈ ys, y ∈ frameChars) :
    foldPrefix xs ys = true ↔ xs <+: ys := by
  induction xs generalizing ys with
  | nil => simp
  | cons x xs ih =>
    cases ys with
    | nil => simp
    | cons y ys =>
      have hxy := mem_foldOrbit_iff (hxs x List.mem_cons_self) (hys y List.mem_cons_self)
      have hrest := ih (fun z hz => hxs z (List.mem_cons_of_mem x hz))
        (fun z hz => hys z (List.mem_cons_of_mem y hz))
      simp only [foldPrefix_cons_cons, Bool.and_eq_true, List.contains_iff_mem, hxy, hrest,
        List.cons_prefix_cons]
      exact ⟨fun ⟨h₁, h₂⟩ => ⟨h₁.symm, h₂⟩, fun ⟨h₁, h₂⟩ => ⟨h₁.symm, h₂⟩⟩

end Unicode

namespace Grammar

open Unicode

/-! ## The names -/

/-- Every directive that the scanner looks for, in the order it looks. -/
def optionDirectives : List String :=
  stringDirectives ++ wordDirectives ++ shapedDirectives.map (·.1)

/-- The directives that an option line may hold: all but `RAID_TYPE`, whose value the `TYPE`
directive reads in part. -/
def lineDirectives : List String := stringDirectives ++ wordDirectives ++ ["UNION", "TABLESPACE"]

/-- The names are non-empty words of the alphabet that do not start with a space. -/
theorem directive_chars {n : String} (hn : n ∈ optionDirectives) :
    (∀ x ∈ n.toList, x ∈ directiveAlphabet) ∧ ∃ x r, n.toList = x :: r ∧ x ≠ ' ' := by
  have hall : ((optionDirectives.map String.toList).all fun n =>
      n.all (directiveAlphabet.contains ·) && n.head?.any (· != ' ')) = true := by
    unfold optionDirectives stringDirectives wordDirectives shapedDirectives directiveAlphabet
    simp only [List.map_cons, List.map_nil, List.cons_append, List.nil_append,
      String.reduceToList]
    decide
  have hn' := List.all_eq_true.1 hall n.toList (List.mem_map_of_mem hn)
  simp only [Bool.and_eq_true, List.all_eq_true, List.contains_iff_mem] at hn'
  refine ⟨hn'.1, ?_⟩
  obtain ⟨-, hhead⟩ := hn'
  revert hhead
  cases n.toList with
  | nil => simp
  | cons x r => simp

theorem lineDirectives_subset {d : String} (hd : d ∈ lineDirectives) : d ∈ optionDirectives := by
  simp only [lineDirectives, optionDirectives, shapedDirectives, List.mem_append] at hd ⊢
  rcases hd with (h | h) | h
  · exact Or.inl (Or.inl h)
  · exact Or.inl (Or.inr h)
  · right
    simp only [List.mem_cons, List.mem_nil_iff, or_false] at h
    rcases h with rfl | rfl <;> simp

/-- A name found inside a directive of an option line is that directive, found at its start. -/
theorem eq_of_prefix_drop {n d : String} (hn : n ∈ optionDirectives) (hd : d ∈ lineDirectives)
    {i : Nat} (h : n.toList <+: d.toList.drop i) : i = 0 ∧ n = d := by
  have hall : ((optionDirectives.map String.toList).all fun n =>
      (lineDirectives.map String.toList).all fun d =>
        (List.range (d.length + 1)).all fun i => !(n.isPrefixOf (d.drop i)) || (i == 0 && n == d))
      = true := by
    unfold optionDirectives lineDirectives stringDirectives wordDirectives shapedDirectives
    simp only [List.map_cons, List.map_nil, List.cons_append, List.nil_append,
      String.reduceToList]
    decide
  have hi : i < d.toList.length + 1 := by
    have := h.length_le
    have hne := (directive_chars hn).2
    obtain ⟨x, r, hxr, -⟩ := hne
    rw [hxr] at this
    simp at this
    omega
  have hnd := List.all_eq_true.1 (List.all_eq_true.1 (List.all_eq_true.1 hall n.toList
    (List.mem_map_of_mem hn)) d.toList (List.mem_map_of_mem hd)) i (List.mem_range.2 hi)
  rw [List.isPrefixOf_iff_prefix.2 h] at hnd
  simp only [Bool.not_true, Bool.false_or, Bool.and_eq_true, beq_iff_eq, String.toList_inj] at hnd
  exact hnd

/-- No name holds an end of `TABLESPACE` followed by a space. -/
theorem tablespace_end_not_prefix_name {n : String} (hn : n ∈ optionDirectives) (i : Nat) :
    ¬ ("TABLESPACE".toList.drop i ++ [' ']) <+: n.toList := by
  have hall : ((optionDirectives.map String.toList).all fun n =>
      (List.range 10).all fun i => !("TABLESPACE".toList.drop i ++ [' ']).isPrefixOf n) = true := by
    unfold optionDirectives stringDirectives wordDirectives shapedDirectives
    simp only [List.map_cons, List.map_nil, List.cons_append, List.nil_append,
      String.reduceToList]
    decide
  intro h
  by_cases hi : i < 10
  · have hni := List.all_eq_true.1 (List.all_eq_true.1 hall n.toList (List.mem_map_of_mem hn)) i
      (List.mem_range.2 hi)
    rw [List.isPrefixOf_iff_prefix.2 h] at hni
    simp at hni
  · -- past the end of the word only the space is left, and no name starts with it
    obtain ⟨x, r, hxr, hx⟩ := (directive_chars hn).2
    have hdrop : "TABLESPACE".toList.drop i = [] :=
      List.drop_eq_nil_of_le (by have : "TABLESPACE".toList.length = 10 := by decide
                                 omega)
    rw [hdrop, List.nil_append, hxr] at h
    exact hx (List.cons_prefix_cons.1 h).1.symm

/-- The word after the space of a two-word name is non-empty, has no space and starts no
directive of an option line. -/
theorem second_word {n : String} (hn : n ∈ optionDirectives) {a w : List Char}
    (h : n.toList = a ++ ' ' :: w) :
    w ≠ [] ∧ ' ' ∉ w ∧ ∀ d ∈ lineDirectives, ¬ w <+: d.toList := by
  have hall : ((optionDirectives.map String.toList).all fun n =>
      (List.range n.length).all fun j => n[j]? != some ' ' ||
        (!(n.drop (j + 1)).isEmpty && !(n.drop (j + 1)).contains ' ' &&
          (lineDirectives.map String.toList).all fun d => !(n.drop (j + 1)).isPrefixOf d)) = true := by
    unfold optionDirectives lineDirectives stringDirectives wordDirectives shapedDirectives
    simp only [List.map_cons, List.map_nil, List.cons_append, List.nil_append,
      String.reduceToList]
    decide
  have hj : a.length < n.toList.length := by simp [h]
  have hnj := List.all_eq_true.1 (List.all_eq_true.1 hall n.toList (List.mem_map_of_mem hn))
    a.length (List.mem_range.2 hj)
  have hget : n.toList[a.length]? = some ' ' := by simp [h]
  have hdrop : n.toList.drop (a.length + 1) = w := by simp [h]
  simp only [hget, bne_self_eq_false, Bool.false_or, hdrop, Bool.and_eq_true, Bool.not_eq_true',
    List.isEmpty_eq_false_iff, List.all_eq_true, List.mem_map, forall_exists_index, and_imp,
    forall_apply_eq_imp_iff₂] at hnj
  obtain ⟨⟨hne, hsp⟩, hpre⟩ := hnj
  refine ⟨hne, by simpa using hsp, fun d hd hw => ?_⟩
  have hd' := hpre d hd
  rw [List.isPrefixOf_iff_prefix.2 hw] at hd'
  simp at hd'

/-! ## Where a name can match in an option line -/

/-- A name matches a frame character only if the character is one of the names' and no space. -/
theorem frame_head_of_foldPrefix {n : String} (hn : n ∈ optionDirectives) {y : Char}
    {u : List Char} (hy : y ∈ frameChars) (h : foldPrefix n.toList (y :: u) = true) :
    y ∈ directiveAlphabet ∧ y ≠ ' ' := by
  obtain ⟨hchars, x, r, hxr, hx⟩ := directive_chars hn
  rw [hxr] at h
  simp only [foldPrefix_cons_cons, Bool.and_eq_true, List.contains_iff_mem] at h
  have hx' := hchars x (by simp [hxr])
  have hyx := (mem_foldOrbit_iff hx' hy).1 h.1
  subst hyx
  exact ⟨hx', hx⟩

/-- A name that matches from inside a directive of an option line, followed by an equals sign or
(for `TABLESPACE`) a space, is that directive matched at its start. -/
theorem eq_of_foldPrefix_directive {n d : String} (hn : n ∈ optionDirectives)
    (hd : d ∈ lineDirectives) {c : Char} (hc : c = '=' ∨ (c = ' ' ∧ d = "TABLESPACE")) {i : Nat}
    (hi : i < d.toList.length) (u : List Char)
    (h : foldPrefix n.toList (d.toList.drop i ++ c :: u) = true) : i = 0 ∧ n = d := by
  have hnA := (directive_chars hn).1
  have hdA := (directive_chars (lineDirectives_subset hd)).1
  have hdF : ∀ y ∈ d.toList.drop i, y ∈ frameChars := fun y hy =>
    List.mem_append_left _ (hdA y (List.mem_of_mem_drop hy))
  by_cases hlen : n.toList.length ≤ (d.toList.drop i).length
  · -- the name ends inside the directive
    rw [foldPrefix_append_of_le _ hlen] at h
    exact eq_of_prefix_drop hn hd ((foldPrefix_iff_prefix_of_alphabet hnA hdF).1 h)
  · -- the name would run on over the character after the directive
    rw [foldPrefix_append_of_ge _ (by omega), Bool.and_eq_true] at h
    obtain ⟨htake, hdrop⟩ := h
    have hpre := (foldPrefix_iff_prefix_of_alphabet
      (fun x hx => hnA x (List.mem_of_mem_take hx)) hdF).1 htake
    obtain ⟨z, zs, hz⟩ : ∃ z zs, n.toList.drop (d.toList.drop i).length = z :: zs :=
      List.exists_cons_of_ne_nil (by rw [Ne, List.drop_eq_nil_iff]; omega)
    have hzA : z ∈ directiveAlphabet := hnA z (List.mem_of_mem_drop (hz ▸ List.mem_cons_self))
    rw [hz] at hdrop
    simp only [foldPrefix_cons_cons, Bool.and_eq_true, List.contains_iff_mem] at hdrop
    rcases hc with rfl | ⟨rfl, rfl⟩
    · have hframe := delimiter_not_mem_directiveAlphabet (y := '=') (by decide)
      exact absurd ((mem_foldOrbit_iff hzA hframe.1).1 hdrop.1 ▸ hzA) hframe.2
    · have hzs : ' ' = z := (mem_foldOrbit_iff hzA
        (List.mem_append_left _ space_mem_directiveAlphabet)).1 hdrop.1
      -- the name would hold the end of `TABLESPACE` and a space
      have htake : n.toList.take ("TABLESPACE".toList.drop i).length =
          "TABLESPACE".toList.drop i := hpre.eq_of_length (by rw [List.length_take]; omega)
      have hsplit : n.toList = "TABLESPACE".toList.drop i ++ ' ' :: zs := by
        rw [← List.take_append_drop ("TABLESPACE".toList.drop i).length n.toList, htake, hz, hzs]
      exact absurd ⟨zs, by rw [hsplit]; simp⟩ (tablespace_end_not_prefix_name hn i)

/-- A name that runs on past the end of a text does not go on over the blanks after it: it would
need the space of a two-word name there, and the word after that space starts no directive. -/
theorem foldPrefix_drop_spaces {n : String} (hn : n ∈ optionDirectives) {j : Nat}
    (hjn : j < n.toList.length) {k : Nat} (hk : 0 < k) {t : List Char}
    (ht : t = [] ∨ ∃ d ∈ lineDirectives, ∃ c, (c = '=' ∨ c = ' ') ∧ ∃ u, t = d.toList ++ c :: u) :
    foldPrefix (n.toList.drop j) (List.replicate k ' ' ++ t) = false := by
  have hnA := (directive_chars hn).1
  have hspF : ' ' ∈ frameChars := List.mem_append_left _ space_mem_directiveAlphabet
  obtain ⟨y, m, hym⟩ : ∃ y m, n.toList.drop j = y :: m :=
    List.exists_cons_of_ne_nil (by rw [Ne, List.drop_eq_nil_iff]; omega)
  obtain ⟨k', rfl⟩ : ∃ k', k = k' + 1 := ⟨k - 1, by omega⟩
  rw [hym]
  cases h : foldPrefix (y :: m) (List.replicate (k' + 1) ' ' ++ t) with
  | false => rfl
  | true =>
    exfalso
    simp only [List.replicate_succ, List.cons_append, foldPrefix_cons_cons, Bool.and_eq_true,
      List.contains_iff_mem] at h
    have hyA : y ∈ directiveAlphabet := hnA y (List.mem_of_mem_drop (hym ▸ List.mem_cons_self))
    have hy : ' ' = y := (mem_foldOrbit_iff hyA hspF).1 h.1
    -- the name breaks at its space here; the word after it has to match what follows the blanks
    have hsplit : n.toList = n.toList.take j ++ ' ' :: m := by
      have := List.take_append_drop j n.toList
      rw [hym, ← hy] at this
      exact this.symm
    obtain ⟨hne, hsp, hnot⟩ := second_word hn hsplit
    have hmA : ∀ x ∈ m, x ∈ directiveAlphabet := fun x hx => hnA x (by rw [hsplit]; simp [hx])
    obtain ⟨z, zs, rfl⟩ := List.exists_cons_of_ne_nil hne
    have hz : z ≠ ' ' := fun hz => hsp (hz ▸ List.mem_cons_self)
    cases k' with
    | succ k'' =>
      -- a second blank would have to match the word's first letter
      simp only [List.replicate_succ, List.cons_append, foldPrefix_cons_cons, Bool.and_eq_true,
        List.contains_iff_mem] at h
      exact hz ((mem_foldOrbit_iff (hmA z List.mem_cons_self) hspF).1 h.2.1).symm
    | zero =>
      simp only [List.replicate_zero, List.nil_append] at h
      rcases ht with rfl | ⟨d, hd, c, hc, u, rfl⟩
      · simp at h
      · have hdF : ∀ x ∈ d.toList, x ∈ frameChars := fun x hx =>
          List.mem_append_left _ ((directive_chars (lineDirectives_subset hd)).1 x hx)
        by_cases hlen : (z :: zs).length ≤ d.toList.length
        · -- the word would start the directive
          have h2 := h.2
          rw [foldPrefix_append_of_le _ hlen] at h2
          exact hnot d hd ((foldPrefix_iff_prefix_of_alphabet hmA hdF).1 h2)
        · -- the word would run on over the sign after the directive
          have h2 := h.2
          rw [foldPrefix_append_of_ge _ (by omega), Bool.and_eq_true] at h2
          obtain ⟨z', zs', hz'⟩ : ∃ z' zs', (z :: zs).drop d.toList.length = z' :: zs' :=
            List.exists_cons_of_ne_nil (by rw [Ne, List.drop_eq_nil_iff]; omega)
          have hz'm : z' ∈ z :: zs := List.mem_of_mem_drop (hz' ▸ List.mem_cons_self)
          have h3 := h2.2
          rw [hz'] at h3
          simp only [foldPrefix_cons_cons, Bool.and_eq_true, List.contains_iff_mem] at h3
          rcases hc with rfl | rfl
          · have hframe := delimiter_not_mem_directiveAlphabet (y := '=') (by decide)
            exact hframe.2 ((mem_foldOrbit_iff (hmA z' hz'm) hframe.1).1 h3.1 ▸ hmA z' hz'm)
          · exact hsp ((mem_foldOrbit_iff (hmA z' hz'm) hspF).1 h3.1 ▸ hz'm)

end Grammar

end TableDdl

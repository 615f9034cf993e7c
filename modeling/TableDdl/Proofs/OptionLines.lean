import TableDdl.Proofs.DirectiveNames
import TableDdl.Proofs.LineEndings
import TableDdl.Render.Options

/-!
# Option lines

An option line, after its closing parenthesis, holds options, each written after one or more
blanks as a directive, an equals sign (a blank for `TABLESPACE`) and the value, a string value
quoted with its backslashes and quotes doubled (`Render.optionText`). The shape `Spaced` says
this of a text and a list of options, and deleting an option keeps it.

An option is scannable (`ScannableOption`) when its value has the shape its directive's grammar
reads and holds no directive name that the scanner could take for another option. In a spaced
text of scannable options, a directive name whose options' values do not hold it matches,
without regard to case, exactly at the start of the options of that directive
(`foldPrefix_spaced_of_not_mem`, `foldPrefix_spaced_split`): inside an option it would have to
run over the equals sign, stay inside the value, or go on over the blanks after it, and the
facts about the names rule out each.
-/

namespace TableDdl.Reader

open Unicode Grammar

/-! ## Options as a line writes them -/

/-- The character that an option line writes between a directive and its value. -/
def optionSep (d : String) : Char := if d = "TABLESPACE" then ' ' else '='

/-- The value as an option line writes it: a string value quoted and escaped, any other as it
is. -/
def writtenValue (d v : String) : String :=
  if stringDirectives.contains d then Render.escapedSqlString v else v

theorem optionText_toList (d v : String) :
    (Render.optionText d v).toList = d.toList ++ optionSep d :: (writtenValue d v).toList := by
  unfold Render.optionText optionSep writtenValue
  by_cases hs : d ∈ stringDirectives
  · have hd : d ≠ "TABLESPACE" := by
      rintro rfl
      simp [stringDirectives] at hs
    simp [hs, hd]
  · by_cases hd : d = "TABLESPACE"
    · subst hd
      simp [hs]
    · simp [hs, hd]

theorem optionSep_cases (d : String) :
    optionSep d = '=' ∨ (optionSep d = ' ' ∧ d = "TABLESPACE") := by
  unfold optionSep
  by_cases hd : d = "TABLESPACE"
  · simp [hd]
  · simp [hd]

/-- The directives with a value other than a string. -/
theorem not_mem_stringDirectives {d : String} (hd : d ∈ wordDirectives ++ ["UNION", "TABLESPACE"]) :
    d ∉ stringDirectives := by
  simp only [wordDirectives, List.cons_append, List.nil_append, List.mem_cons, List.not_mem_nil,
    or_false] at hd
  rcases hd with rfl | rfl | rfl | rfl | rfl | rfl | rfl | rfl | rfl | rfl | rfl | rfl | rfl |
    rfl | rfl | rfl | rfl <;> simp [stringDirectives]

theorem writtenValue_of_not_mem {d : String} (h : d ∉ stringDirectives) (v : String) :
    writtenValue d v = v := by
  simp [writtenValue, h]

/-- A table option that the scanner reads back: a directive that a line may hold, a value of the
shape that the directive's grammar reads, and no directive name in the value that the scanner
could take for an option of its own. A string value may hold the names of the other directives,
since string options are read and deleted first; no other value may hold any. -/
inductive ScannableOption : String × String → Prop
  /-- A directive with a string value, which holds no name of a string directive. -/
  | string {d v : String} (hd : d ∈ stringDirectives)
      (hv : ∀ n ∈ stringDirectives, ¬ OccursFolded n.toList v.toList) : ScannableOption (d, v)
  /-- A directive with a word as value. -/
  | word {d v : String} (hd : d ∈ wordDirectives) (hne : v ≠ "")
      (hw : ∀ x ∈ v.toList, Unicode.word.contains x = true)
      (hv : ∀ n ∈ optionDirectives, ¬ OccursFolded n.toList v.toList) : ScannableOption (d, v)
  /-- `UNION` with a parenthesized list that holds no closing parenthesis. -/
  | union {x : String} (hne : x ≠ "") (hx : ')' ∉ x.toList)
      (hv : ∀ n ∈ optionDirectives, ¬ OccursFolded n.toList ("(" ++ x ++ ")").toList) :
      ScannableOption ("UNION", "(" ++ x ++ ")")
  /-- `TABLESPACE` with a word and the storage. -/
  | tablespace {w : String} (hne : w ≠ "") (hw : ∀ x ∈ w.toList, Unicode.word.contains x = true)
      (hv : ∀ n ∈ optionDirectives, ¬ OccursFolded n.toList (w ++ " STORAGE DISK").toList) :
      ScannableOption ("TABLESPACE", w ++ " STORAGE DISK")

theorem ScannableOption.mem_lineDirectives {e : String × String} (h : ScannableOption e) :
    e.1 ∈ lineDirectives := by
  cases h with
  | string hd => simp [lineDirectives, hd]
  | word hd => simp [lineDirectives, hd]
  | union => simp [lineDirectives]
  | tablespace => simp [lineDirectives]

/-- The inside of a quoted string value: the value with each backslash and then each quote
doubled. -/
def escapedValue (v : String) : List Char :=
  (v.toList.flatMap fun c => if c = '\\' then ['\\', '\\'] else [c]).flatMap fun c =>
    if c = '\'' then ['\'', '\''] else [c]

theorem escaped_toList (v : String) :
    (Render.escapedSqlString v).toList = '\'' :: escapedValue v ++ ['\''] := by
  simp only [escapedValue, Render.escapedSqlString, Render.sqlString, Text.replace,
    String.toList_append, String.toList_ofList]
  rw [Text.replaceChars_of_ne (by simp), Text.replaceChars_of_ne (by simp)]
  simp only [show "\\".toList = ['\\'] from rfl, show "'".toList = ['\''] from rfl,
    show "\\\\".toList = ['\\', '\\'] from rfl, show "''".toList = ['\'', '\''] from rfl,
    Text.replaceNonempty_singleton]
  simp

/-- A delimiter of option lines is no fold of a character of a directive name. -/
theorem not_mem_foldOrbit_of_delimiter {n : String} (hn : n ∈ optionDirectives) {y : Char}
    (hy : y ∈ "='\\()".toList) : ∀ x ∈ n.toList, y ∉ foldOrbit x := by
  intro x hx hmem
  have hxA := (directive_chars hn).1 x hx
  have hframe := delimiter_not_mem_directiveAlphabet hy
  exact hframe.2 ((mem_foldOrbit_iff hxA hframe.1).1 hmem ▸ hxA)

/-- The value as written holds the names that the value holds, and no more. -/
theorem ScannableOption.not_occursFolded {e : String × String} (h : ScannableOption e)
    {n : String} (hn : n ∈ optionDirectives) (hs : e.1 ∈ stringDirectives → n ∈ stringDirectives) :
    ¬ OccursFolded n.toList (writtenValue e.1 e.2).toList := by
  have hquote := not_mem_foldOrbit_of_delimiter hn (y := '\'') (by decide)
  have hslash := not_mem_foldOrbit_of_delimiter hn (y := '\\') (by decide)
  cases h with
  | string hd hv =>
    intro hocc
    simp only [writtenValue, List.contains_iff_mem.2 hd, if_true, escaped_toList,
      escapedValue] at hocc
    -- the quotes around the value and the doubling inside it add no occurrence
    exact hv n (hs hd) ((((hocc.of_cons hquote).of_append_singleton hquote).of_flatMap_double
      hquote).of_flatMap_double hslash)
  | word hd hne hw hv =>
    rw [writtenValue_of_not_mem (not_mem_stringDirectives (by simp [hd]))]
    exact hv n hn
  | union hne hx hv =>
    rw [writtenValue_of_not_mem (not_mem_stringDirectives (by simp))]
    exact hv n hn
  | tablespace hne hw hv =>
    rw [writtenValue_of_not_mem (not_mem_stringDirectives (by simp))]
    exact hv n hn

/-! ## Spaced options -/

/-- What an option line holds after its closing parenthesis: options, each after one or more
blanks, and blanks at the end. -/
inductive Spaced : List Char → List (String × String) → Prop
  | nil (k : Nat) : Spaced (List.replicate k ' ') []
  | cons {k : Nat} {s : List Char} {e : String × String} {es : List (String × String)}
      (hk : 0 < k) (h : Spaced s es) :
      Spaced (List.replicate k ' ' ++ (Render.optionText e.1 e.2).toList ++ s) (e :: es)

theorem Spaced.replicate_append {s : List Char} {es : List (String × String)} (h : Spaced s es)
    (k : Nat) : Spaced (List.replicate k ' ' ++ s) es := by
  cases h with
  | nil k' => simpa [List.replicate_append_replicate] using Spaced.nil (k + k')
  | @cons k' s e es hk h' =>
    have h'' := Spaced.cons (e := e) (Nat.add_pos_right k hk) h'
    rw [← List.replicate_append_replicate] at h''
    simpa only [List.append_assoc] using h''

/-- Dropping past the leading blanks of a text. -/
theorem drop_replicate_append_add (k j : Nat) (l : List Char) :
    (List.replicate k ' ' ++ l).drop (k + j) = l.drop j := by
  rw [List.drop_append, List.drop_eq_nil_of_le (by simp), List.length_replicate,
    Nat.add_sub_cancel_left, List.nil_append]

/-- The text after the parenthesis of an option line written from a list of options. -/
theorem spaced_optionLineText (es : List (String × String)) :
    ∃ s, (Render.optionLineText es).toList = ')' :: s ∧ Spaced s es := by
  -- the renderer's text, each option read through its two fields
  have htext : Render.optionLineText es =
      ") " ++ " ".intercalate (es.map fun e => Render.optionText e.1 e.2) := rfl
  rw [htext]
  clear htext
  cases es with
  | nil => exact ⟨[' '], rfl, Spaced.nil 1⟩
  | cons e es =>
    refine ⟨' ' :: (" ".intercalate ((e :: es).map fun e => Render.optionText e.1 e.2)).toList,
      by simp, ?_⟩
    induction es generalizing e with
    | nil => simpa using Spaced.cons (s := []) (e := e) Nat.one_pos (Spaced.nil 0)
    | cons e' es ih =>
      simpa [List.append_assoc] using Spaced.cons (e := e) Nat.one_pos (ih e')

/-- What may follow an option in a line: nothing, or blanks and then nothing or the next option's
directive with its sign. -/
def AfterOption (u : List Char) : Prop :=
  u = [] ∨ ∃ k, 0 < k ∧ ∃ t, u = List.replicate k ' ' ++ t ∧
    (t = [] ∨ ∃ d ∈ lineDirectives, ∃ c, (c = '=' ∨ c = ' ') ∧ ∃ w, t = d.toList ++ c :: w)

/-- What follows an option starts with a blank, if with anything. -/
theorem AfterOption.head?_eq {u : List Char} (hu : AfterOption u) : ∀ x ∈ u.head?, x = ' ' := by
  rcases hu with rfl | ⟨k, hk, t, rfl, -⟩
  · simp
  · obtain ⟨k', rfl⟩ : ∃ k', k = k' + 1 := ⟨k - 1, by omega⟩
    simp [List.replicate_succ]

theorem Spaced.afterOption {s : List Char} {es : List (String × String)} (h : Spaced s es)
    (hes : ∀ e ∈ es, ScannableOption e) : AfterOption s := by
  cases h with
  | nil k =>
    rcases Nat.eq_zero_or_pos k with rfl | hk
    · exact Or.inl rfl
    · exact Or.inr ⟨k, hk, [], by simp, Or.inl rfl⟩
  | @cons k s' e es' hk h' =>
    have he := hes e List.mem_cons_self
    refine Or.inr ⟨k, hk, (Render.optionText e.1 e.2).toList ++ s', by simp [List.append_assoc],
      Or.inr ⟨e.1, he.mem_lineDirectives, optionSep e.1, ?_, (writtenValue e.1 e.2).toList ++ s',
        by rw [optionText_toList]; simp⟩⟩
    rcases optionSep_cases e.1 with h | ⟨h, -⟩ <;> simp [h]

/-! ## Where a directive name matches -/

section Occurrences

variable {n : String} (hn : n ∈ optionDirectives)
include hn

/-- No name matches where blanks start. -/
theorem foldPrefix_replicate_space {k : Nat} (hk : 0 < k) (u : List Char) :
    foldPrefix n.toList (List.replicate k ' ' ++ u) = false := by
  obtain ⟨k', rfl⟩ : ∃ k', k = k' + 1 := ⟨k - 1, by omega⟩
  cases h : foldPrefix n.toList (List.replicate (k' + 1) ' ' ++ u) with
  | false => rfl
  | true =>
    rw [List.replicate_succ, List.cons_append] at h
    exact absurd rfl (frame_head_of_foldPrefix hn
      (List.mem_append_left _ space_mem_directiveAlphabet) h).2

/-- What follows an option stops a name that runs on past the option's end. -/
theorem foldPrefix_drop_afterOption {u : List Char} (hu : AfterOption u) {j : Nat}
    (hj : j < n.toList.length) : foldPrefix (n.toList.drop j) u = false := by
  rcases hu with rfl | ⟨k, hk, t, rfl, ht⟩
  · obtain ⟨x, r, hxr⟩ := List.exists_cons_of_ne_nil
      (show n.toList.drop j ≠ [] by rw [Ne, List.drop_eq_nil_iff]; omega)
    rw [hxr]
    rfl
  · exact foldPrefix_drop_spaces hn hj hk ht

/-- A name matches at the start of an option exactly when it is the option's directive. -/
theorem foldPrefix_optionText_iff {e : String × String} (he : ScannableOption e)
    (u : List Char) :
    foldPrefix n.toList ((Render.optionText e.1 e.2).toList ++ u) = true ↔ n = e.1 := by
  have hd := he.mem_lineDirectives
  have hdA := (directive_chars (lineDirectives_subset hd)).1
  constructor
  · intro h
    rw [optionText_toList, List.append_assoc] at h
    obtain ⟨x, r, hxr, -⟩ := (directive_chars (lineDirectives_subset hd)).2
    have hlen : 0 < e.1.toList.length := by simp [hxr]
    exact (eq_of_foldPrefix_directive hn hd (optionSep_cases e.1) (i := 0) hlen _
      (by simpa using h)).2
  · rintro rfl
    -- the directive matches itself
    rw [optionText_toList, List.append_assoc, foldPrefix_append_of_le _ (Nat.le_refl _),
      foldPrefix_iff_prefix_of_alphabet hdA (fun y hy => List.mem_append_left _ (hdA y hy))]

/-- A name matches nowhere inside an option past its start, when it does not occur in the
written value. -/
theorem foldPrefix_optionText_drop {e : String × String} (he : ScannableOption e)
    (hfree : ¬ OccursFolded n.toList (writtenValue e.1 e.2).toList) {u : List Char}
    (hu : AfterOption u) {j : Nat} (hj0 : 0 < j)
    (hj : j < (Render.optionText e.1 e.2).toList.length) :
    foldPrefix n.toList (((Render.optionText e.1 e.2).toList ++ u).drop j) = false := by
  have hd := he.mem_lineDirectives
  rw [optionText_toList] at hj ⊢
  simp only [List.length_append, List.length_cons] at hj
  cases h : foldPrefix n.toList (((e.1.toList ++ optionSep e.1 :: (writtenValue e.1 e.2).toList) ++
      u).drop j) with
  | false => rfl
  | true =>
    exfalso
    rcases Nat.lt_trichotomy j e.1.toList.length with hlt | heq | hgt
    · -- inside the directive
      rw [List.append_assoc, List.drop_append_of_le_length hlt.le] at h
      exact absurd (eq_of_foldPrefix_directive hn hd (optionSep_cases e.1) hlt _ h).1 (by omega)
    · -- at the sign after the directive
      rw [List.append_assoc, List.drop_append_of_le_length heq.le, heq, List.drop_length,
        List.nil_append] at h
      have hsep := frame_head_of_foldPrefix hn (y := optionSep e.1) (by
        rcases optionSep_cases e.1 with hs | ⟨hs, -⟩ <;> rw [hs]
        · exact (delimiter_not_mem_directiveAlphabet (by decide)).1
        · exact List.mem_append_left _ space_mem_directiveAlphabet) h
      rcases optionSep_cases e.1 with hs | ⟨hs, -⟩ <;> rw [hs] at hsep
      · exact (delimiter_not_mem_directiveAlphabet (y := '=') (by decide)).2 hsep.1
      · exact hsep.2 rfl
    · -- inside the value: the name stays in it, or runs on past the option's end
      obtain ⟨i, rfl⟩ : ∃ i, j = e.1.toList.length + 1 + i := ⟨j - e.1.toList.length - 1, by omega⟩
      have hdrop : ((e.1.toList ++ optionSep e.1 :: (writtenValue e.1 e.2).toList) ++ u).drop
          (e.1.toList.length + 1 + i) = (writtenValue e.1 e.2).toList.drop i ++ u := by
        rw [List.append_assoc, Nat.add_assoc, List.drop_length_add_append, List.cons_append,
          Nat.add_comm 1 i, List.drop_succ_cons, List.drop_append_of_le_length (by omega)]
      rw [hdrop] at h
      by_cases hlen : n.toList.length ≤ ((writtenValue e.1 e.2).toList.drop i).length
      · rw [foldPrefix_append_of_le _ hlen] at h
        exact hfree ⟨(writtenValue e.1 e.2).toList.take i, _, (List.take_append_drop _ _).symm, h⟩
      · rw [foldPrefix_append_of_ge _ (by omega),
          foldPrefix_drop_afterOption hn hu (by omega), Bool.and_false] at h
        exact Bool.false_ne_true h

/-- A name matches nowhere in a spaced text whose options have other directives and whose values
do not hold it. -/
theorem foldPrefix_spaced_of_not_mem {s : List Char} {es : List (String × String)}
    (h : Spaced s es) (hes : ∀ e ∈ es, ScannableOption e)
    (hfree : ∀ e ∈ es, ¬ OccursFolded n.toList (writtenValue e.1 e.2).toList)
    (hnot : ∀ e ∈ es, e.1 ≠ n) (i : Nat) : foldPrefix n.toList (s.drop i) = false := by
  induction h generalizing i with
  | nil k =>
    rcases Nat.lt_or_ge i k with hi | hi
    · simpa using foldPrefix_replicate_space hn (k := k - i) (by omega) []
    · obtain ⟨x, r, hxr, -⟩ := (directive_chars hn).2
      rw [List.drop_eq_nil_of_le (by simpa using hi), hxr]
      rfl
  | @cons k s e es hk h ih =>
    have he := hes e List.mem_cons_self
    have hafter := h.afterOption fun e' he' => hes e' (List.mem_cons_of_mem e he')
    -- the blanks, the option's start, the inside of the option, and the options after it
    rcases Nat.lt_or_ge i k with hi | hi
    · rw [List.append_assoc, List.drop_append_of_le_length (by simpa using hi.le),
        List.drop_replicate]
      exact foldPrefix_replicate_space hn (by omega) _
    obtain ⟨j, rfl⟩ : ∃ j, i = k + j := ⟨i - k, by omega⟩
    rw [List.append_assoc, drop_replicate_append_add]
    rcases Nat.eq_zero_or_pos j with rfl | hj0
    · rw [List.drop_zero]
      cases hf : foldPrefix n.toList ((Render.optionText e.1 e.2).toList ++ s) with
      | false => rfl
      | true =>
        exact absurd ((foldPrefix_optionText_iff hn he s).1 hf).symm (hnot e List.mem_cons_self)
    rcases Nat.lt_or_ge j (Render.optionText e.1 e.2).toList.length with hj | hj
    · exact foldPrefix_optionText_drop hn he (hfree e List.mem_cons_self) hafter hj0 hj
    · obtain ⟨i', rfl⟩ : ∃ i', j = (Render.optionText e.1 e.2).toList.length + i' :=
        ⟨j - (Render.optionText e.1 e.2).toList.length, by omega⟩
      rw [List.drop_length_add_append]
      exact ih (fun e' he' => hes e' (List.mem_cons_of_mem e he'))
        (fun e' he' => hfree e' (List.mem_cons_of_mem e he'))
        (fun e' he' => hnot e' (List.mem_cons_of_mem e he')) i'

/-- A name matches in a spaced text, whose values do not hold it, exactly at the start of the one
option of its directive; deleting that option leaves the others spaced. -/
theorem foldPrefix_spaced_split {s : List Char} {es : List (String × String)}
    (h : Spaced s es) (hes : ∀ e ∈ es, ScannableOption e)
    (hfree : ∀ e ∈ es, ¬ OccursFolded n.toList (writtenValue e.1 e.2).toList)
    {es₁ es₂ : List (String × String)} {v : String} (hsplit : es = es₁ ++ (n, v) :: es₂)
    (hnot : ∀ e ∈ es₁ ++ es₂, e.1 ≠ n) :
    ∃ a b, s = a ++ (Render.optionText n v).toList ++ b ∧ Spaced (a ++ b) (es₁ ++ es₂) ∧
      AfterOption b ∧ ∀ i, foldPrefix n.toList (s.drop i) = true ↔ i = a.length := by
  induction h generalizing es₁ with
  | nil k => simp at hsplit
  | @cons k s e es hk h ih =>
    have he := hes e List.mem_cons_self
    have hes' : ∀ e' ∈ es, ScannableOption e' := fun e' he' => hes e' (List.mem_cons_of_mem e he')
    have hfree' := fun e' (he' : e' ∈ es) => hfree e' (List.mem_cons_of_mem e he')
    have hafter := h.afterOption hes'
    -- the positions in the blanks and inside the first option hold no match past its start
    have hfront : ∀ i, i < k + (Render.optionText e.1 e.2).toList.length → i ≠ k →
        foldPrefix n.toList ((List.replicate k ' ' ++ (Render.optionText e.1 e.2).toList ++ s).drop i)
          = false := by
      intro i hi hik
      rcases Nat.lt_or_ge i k with hlt | hge
      · rw [List.append_assoc, List.drop_append_of_le_length (by simpa using hlt.le),
          List.drop_replicate]
        exact foldPrefix_replicate_space hn (by omega) _
      · obtain ⟨j, rfl⟩ : ∃ j, i = k + j := ⟨i - k, by omega⟩
        rw [List.append_assoc, drop_replicate_append_add]
        exact foldPrefix_optionText_drop hn he (hfree e List.mem_cons_self) hafter (by omega)
          (by omega)
    have hback : ∀ i', (List.replicate k ' ' ++ (Render.optionText e.1 e.2).toList ++ s).drop
        (k + (Render.optionText e.1 e.2).toList.length + i') = s.drop i' := by
      intro i'
      rw [List.append_assoc, Nat.add_assoc, drop_replicate_append_add, List.drop_length_add_append]
    cases es₁ with
    | nil =>
      -- the first option is the one of the directive
      simp only [List.nil_append, List.cons.injEq] at hsplit
      obtain ⟨rfl, rfl⟩ := hsplit
      refine ⟨List.replicate k ' ', s, by simp, h.replicate_append k, hafter, fun i => ?_⟩
      have hnone := foldPrefix_spaced_of_not_mem hn h hes' hfree' (by simpa using hnot)
      constructor
      · intro hi
        by_contra hik
        rcases Nat.lt_or_ge i (k + (Render.optionText n v).toList.length) with hlt | hge
        · rw [hfront i hlt (by simpa using hik)] at hi
          exact Bool.false_ne_true hi
        · obtain ⟨i', rfl⟩ : ∃ i', i = k + (Render.optionText n v).toList.length + i' :=
            ⟨i - k - (Render.optionText n v).toList.length, by omega⟩
          rw [hback, hnone] at hi
          exact Bool.false_ne_true hi
      · rintro rfl
        rw [List.append_assoc, List.drop_left]
        exact (foldPrefix_optionText_iff hn he s).2 rfl
    | cons e₁ es₁ =>
      -- the option of the directive comes later
      simp only [List.cons_append, List.cons.injEq] at hsplit
      obtain ⟨rfl, hsplit'⟩ := hsplit
      have hne : e.1 ≠ n := hnot e List.mem_cons_self
      obtain ⟨a, b, rfl, hab, hb, hpos⟩ := ih hes' hfree' hsplit'
        (fun e' he' => hnot e' (List.mem_cons_of_mem e he'))
      refine ⟨List.replicate k ' ' ++ (Render.optionText e.1 e.2).toList ++ a, b,
        by simp [List.append_assoc], by simpa [List.append_assoc] using Spaced.cons hk hab, hb,
        fun i => ?_⟩
      simp only [List.length_append, List.length_replicate]
      rcases Nat.lt_or_ge i (k + (Render.optionText e.1 e.2).toList.length) with hlt | hge
      · constructor
        · intro hi
          by_cases hik : i = k
          · simp only [hik, List.append_assoc, List.drop_left' List.length_replicate] at hi
            exact absurd ((foldPrefix_optionText_iff hn he _).1 hi).symm hne
          · rw [← List.append_assoc, ← List.append_assoc] at hi
            rw [show List.replicate k ' ' ++ (Render.optionText e.1 e.2).toList ++ a ++
              (Render.optionText n v).toList ++ b = List.replicate k ' ' ++
                (Render.optionText e.1 e.2).toList ++ (a ++ (Render.optionText n v).toList ++ b) by
              simp [List.append_assoc]] at hi
            rw [hfront i hlt hik] at hi
            exact absurd hi Bool.false_ne_true
        · intro hi
          omega
      · obtain ⟨i', rfl⟩ : ∃ i', i = k + (Render.optionText e.1 e.2).toList.length + i' :=
          ⟨i - k - (Render.optionText e.1 e.2).toList.length, by omega⟩
        rw [hback, hpos]
        omega

end Occurrences

end TableDdl.Reader

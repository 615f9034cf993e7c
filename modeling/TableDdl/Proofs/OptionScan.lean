import TableDdl.Proofs.OptionMatches

/-!
# Reading an option line back

The option scanner runs the grammar of each directive over the line in a fixed order: it records
the first match and deletes every match. On a line written from scannable options with distinct
directives, in any order, each step finds exactly the option of its directive, if the line still
holds one, records its value under the lowered directive, and deletes that option alone, so
that the rest of the line is again a line of options (`scanStep_of_split`,
`scanStep_of_not_mem`). The string directives come first: their values may hold the names of
other directives, and the whole option is gone before any other grammar runs. Folding the steps
over the grammars records every option (`foldl_scanStep`), so the scanner reads back every
option it keeps (`scanOptions_optionLineText`).
-/

namespace TableDdl

namespace Pattern

/-- The leftmost-first match from a position is the match at the first position from there that
has one. -/
theorem leftmostFrom_eq_some {p : Pattern} {s : List Char} {pos i : Nat} {m : Match}
    (hpi : pos ≤ i) (hi : i ≤ s.length)
    (hnone : ∀ j, pos ≤ j → j < i → p.matchAt ((Cursor.start s).skip j) = none)
    (hm : p.matchAt ((Cursor.start s).skip i) = some m) : p.leftmostFrom s pos = some m := by
  unfold leftmostFrom
  rw [show s.length + 1 - pos = (i - pos) + (s.length - i + 1) by omega, ← List.range'_append,
    List.findSome?_append, List.findSome?_eq_none_iff.2, Option.none_or, List.range'_succ,
    List.findSome?_cons, show pos + 1 * (i - pos) = i by omega, hm]
  intro j hj
  rw [List.mem_range'_1] at hj
  exact hnone j hj.1 (by omega)

theorem leftmostFrom_eq_none {p : Pattern} {s : List Char} {pos : Nat}
    (h : ∀ j, pos ≤ j → j ≤ s.length → p.matchAt ((Cursor.start s).skip j) = none) :
    p.leftmostFrom s pos = none := by
  unfold leftmostFrom
  refine List.findSome?_eq_none_iff.2 fun j hj => ?_
  rw [List.mem_range'_1] at hj
  exact h j hj.1 (by omega)

/-- A pattern that matches at one position only matches once in the subject. -/
theorem allFrom_eq_single {p : Pattern} {s : List Char} {i : Nat} {m : Match} (hi : i ≤ s.length)
    (hm : p.matchAt ((Cursor.start s).skip i) = some m) (hres : i < m.resume)
    (hnone : ∀ j, j ≠ i → j ≤ s.length → p.matchAt ((Cursor.start s).skip j) = none) :
    p.allFrom s 0 = [m] := by
  rw [allFrom, leftmostFrom_eq_some (Nat.zero_le i) hi
    (fun j _ hj => hnone j (by omega) (by omega)) hm]
  dsimp only
  split
  · rw [allFrom, leftmostFrom_eq_none fun j hj hjs => hnone j (by omega) hjs]
  · rfl

theorem gaps_single (s : List Char) (m : Match) :
    gaps s 0 [m] = s.take m.start ++ s.drop m.stop := by
  simp [gaps]

end Pattern

namespace Reader

open Grammar Pattern Unicode

/-! ## One step of the scanner -/

/-- No directive's name starts at the parenthesis that opens an option line. -/
theorem foldPrefix_paren {d : String} (hd : d ∈ optionDirectives) (s : List Char) :
    foldPrefix d.toList (')' :: s) = false := by
  cases hf : foldPrefix d.toList (')' :: s) with
  | false => rfl
  | true =>
    have hparen := delimiter_not_mem_directiveAlphabet (y := ')') (by decide)
    exact absurd (frame_head_of_foldPrefix hd hparen.1 hf).1 hparen.2

/-- A step whose grammar finds nothing changes nothing. -/
theorem scanStep_of_find?_none {pat : Pattern} {clean : String → String} {L : List Char}
    (h : pat.find? L = none) (opts : OptionMap) : scanStep (opts, L) (pat, clean) = (opts, L) := by
  simp only [scanStep, h]

/-- A step whose grammar finds a match records the match's groups and deletes every match. -/
theorem scanStep_of_find?_some {pat : Pattern} {clean : String → String} {L : List Char}
    {m : Match} (h : pat.find? L = some m) (opts : OptionMap) :
    scanStep (opts, L) (pat, clean) =
      (opts.insert (Text.lower ((m.group? L "directive").getD "")) (clean ((m.group? L "val").getD
        "")), pat.deleteAll L) := by
  simp only [scanStep, h]

/-- The groups of a match of an option grammar, the value recorded last. -/
theorem group?_directive (L : List Char) (i j x y k l : Nat) :
    (Match.mk i j [("val", x, y), ("directive", k, l)]).group? L "directive" =
      some (Match.slice L k l) := by
  simp [Match.group?, Match.span?, show ("val" == "directive") = false by decide]

theorem group?_val (L : List Char) (i j x y k l : Nat) :
    (Match.mk i j [("val", x, y), ("directive", k, l)]).group? L "val" =
      some (Match.slice L x y) := by
  simp [Match.group?, Match.span?]

/-- A grammar that reads options does not match where its directive's name does not start. -/
theorem matchAt_eq_none {d : String} {g : Pattern × (String → String)} (hg : ReadsOptionsOf d g)
    {L : List Char} {i : Nat} (h : foldPrefix d.toList (L.drop i) = false) :
    g.1.matchAt ((Cursor.start L).skip i) = none := by
  rw [matchAt_eq_head?, hg.nil _ _ (by rwa [rest_skip_start])]
  rfl

section Step

variable {d : String} {g : Pattern × (String → String)} {s : List Char}
  {es : List (String × String)}

/-- A step whose directive no option of the line has changes nothing. -/
theorem scanStep_of_not_mem (hg : ReadsOptionsOf d g) (hd : d ∈ optionDirectives)
    (h : Spaced s es) (hes : ∀ e ∈ es, ScannableOption e)
    (hfree : ∀ e ∈ es, ¬ OccursFolded d.toList (writtenValue e.1 e.2).toList)
    (hnot : ∀ e ∈ es, e.1 ≠ d) (opts : OptionMap) :
    scanStep (opts, ')' :: s) g = (opts, ')' :: s) := by
  have hleft : g.1.leftmost (')' :: s) = none := by
    refine leftmostFrom_eq_none fun j _ _ => matchAt_eq_none hg ?_
    cases j with
    | zero => exact foldPrefix_paren hd s
    | succ j => exact foldPrefix_spaced_of_not_mem hd h hes hfree hnot j
  have hfind : g.1.find? (')' :: s) = none := by
    have hrel := Program.find?_agrees hg.progressive hg.nodup (')' :: s)
    rw [hleft] at hrel
    cases hr : g.1.find? (')' :: s) with
    | none => rfl
    | some m =>
      rw [hr] at hrel
      cases hrel
  obtain ⟨pat, clean⟩ := g
  exact scanStep_of_find?_none hfind opts

/-- A step whose directive has an option in the line records the option's value under the
lowered directive and deletes that option alone. -/
theorem scanStep_of_split (hg : ReadsOptionsOf d g) (hd : d ∈ optionDirectives)
    (h : Spaced s es) (hes : ∀ e ∈ es, ScannableOption e)
    (hfree : ∀ e ∈ es, ¬ OccursFolded d.toList (writtenValue e.1 e.2).toList)
    {es₁ es₂ : List (String × String)} {v : String} (hsplit : es = es₁ ++ (d, v) :: es₂)
    (hnot : ∀ e ∈ es₁ ++ es₂, e.1 ≠ d) (opts : OptionMap) :
    ∃ s', scanStep (opts, ')' :: s) g = (opts.insert (Text.lower d) v, ')' :: s') ∧
      Spaced s' (es₁ ++ es₂) := by
  obtain ⟨a, b, rfl, hab, hb, hpos⟩ := foldPrefix_spaced_split hd h hes hfree hsplit hnot
  have hv : ScannableOption (d, v) := hes _ (by simp [hsplit])
  obtain ⟨W, hW⟩ : ∃ W, (Render.optionText d v).toList = d.toList ++ W :=
    ⟨_, optionText_toList d v⟩
  generalize htext : (Render.optionText d v).toList = text at hW hb hpos hab ⊢
  -- the option of the directive starts after the parenthesis and what comes before it
  generalize hL : ')' :: (a ++ text ++ b) = L
  have hp₀ : a.length + 1 ≤ L.length := by simp [← hL]
  have hrest : ((Cursor.start L).skip (a.length + 1)).rest = text ++ b := by
    rw [rest_skip_start, ← hL]
    simp [List.append_assoc]
  obtain ⟨o, len, hlen, hclean, hfirst⟩ := hg.first hv _ [] hb (htext ▸ hrest)
  rw [htext] at hlen hclean hfirst
  have hstart : ((Cursor.start L).skip (a.length + 1)).pos = a.length + 1 := pos_skip_start hp₀
  have hstop : ((Cursor.start L).skip (a.length + 1)).skip text.length =
      (Cursor.start L).skip (a.length + 1 + text.length) := Cursor.skip_skip _ _ _
  have hstop_pos : ((Cursor.start L).skip (a.length + 1 + text.length)).pos =
      a.length + 1 + text.length := pos_skip_start (by simp [← hL]; omega)
  let m : Match := ⟨a.length + 1, a.length + 1 + text.length,
    [("val", a.length + 1 + o, a.length + 1 + o + len),
      ("directive", a.length + 1, a.length + 1 + d.toList.length)]⟩
  have hm : g.1.matchAt ((Cursor.start L).skip (a.length + 1)) = some m := by
    rw [matchAt_eq_head?, hfirst, hstart, hstop]
    simp only [Option.map_some, hstop_pos]
    rfl
  -- no other position starts the directive's name
  have hnone : ∀ j, j ≠ a.length + 1 → j ≤ L.length →
      g.1.matchAt ((Cursor.start L).skip j) = none := by
    intro j hj _
    refine matchAt_eq_none hg ?_
    cases j with
    | zero => rw [← hL]; exact foldPrefix_paren hd _
    | succ j =>
      rw [← hL, List.drop_succ_cons]
      cases hf : foldPrefix d.toList ((a ++ text ++ b).drop j) with
      | false => rfl
      | true => exact absurd ((hpos j).1 hf) (by omega)
  have htext_pos : 0 < text.length := by
    obtain ⟨x, r, hxr, -⟩ := (directive_chars hd).2
    simp [hW, hxr]
  have hleft : g.1.leftmost L = some m :=
    leftmostFrom_eq_some (Nat.zero_le _) hp₀ (fun j _ hj => hnone j (by omega) (by omega)) hm
  have hdel : g.1.deleteAll L = ')' :: (a ++ b) := by
    rw [deleteAll_eq hg.progressive hg.nodup, allFrom_eq_single hp₀ hm
      (by simp only [Match.resume, m]; split <;> omega) hnone, gaps_single, ← hL]
    show List.take (a.length + 1) _ ++ List.drop (a.length + 1 + text.length) _ = _
    rw [show a.length + 1 + text.length = (a ++ text).length + 1 by simp; omega,
      List.take_succ_cons, List.drop_succ_cons, List.drop_left, List.append_assoc, List.take_left]
    rfl
  obtain ⟨m', hm', hagree⟩ : ∃ m', g.1.find? L = some m' ∧ Match.Agrees m' m := by
    have hrel := Program.find?_agrees hg.progressive hg.nodup L
    rw [hleft] at hrel
    cases hr : g.1.find? L with
    | none =>
      rw [hr] at hrel
      cases hrel
    | some m' =>
      rw [hr] at hrel
      cases hrel with
      | some hag => exact ⟨m', rfl, hag⟩
  -- the groups: the directive as written, and the piece that the cleaning reads the value from
  have hfrom : L.drop (a.length + 1) = text ++ b := by simp [← hL, List.append_assoc]
  have hdir : m.group? L "directive" = some d := by
    have hdlen : d.toList.length ≤ text.length := by simp [hW]
    rw [group?_directive, Match.slice, Nat.add_sub_cancel_left, hfrom,
      List.take_append_of_le_length hdlen, hW, List.take_left, String.ofList_toList]
  have hval : m.group? L "val" = some (String.ofList ((text.drop o).take len)) := by
    rw [group?_val, Match.slice, show a.length + 1 + o + len - (a.length + 1 + o) = len by omega,
      ← List.drop_drop, hfrom, List.drop_append_of_le_length (by omega),
      List.take_append_of_le_length (by simp; omega)]
  refine ⟨a ++ b, ?_, hab⟩
  obtain ⟨pat, clean⟩ := g
  rw [scanStep_of_find?_some hm', hagree.group?, hagree.group?, hdir, hval, hdel,
    Option.getD_some, Option.getD_some]
  exact congrArg (fun x => (opts.insert (Text.lower d) x, ')' :: (a ++ b))) hclean

end Step

/-! ## The whole scan -/

/-- The map `m` holds each option of `es` whose directive is among `ds` under its lowered
directive, and for every other name what `opts` holds. -/
structure Records (opts m : OptionMap) (es : List (String × String)) (ds : List String) :
    Prop where
  mem : ∀ e ∈ es, e.1 ∈ ds → m.get? (Text.lower e.1) = some e.2
  other : ∀ k, (∀ e ∈ es, e.1 ∈ ds → Text.lower e.1 ≠ k) → m.get? k = opts.get? k

/-- Distinct directives of option lines have distinct lowercase forms. -/
theorem lineDirectives_lower_nodup : (lineDirectives.map Text.lower).Nodup := by
  unfold lineDirectives stringDirectives wordDirectives
  simp only [List.map_cons, List.map_nil, List.cons_append, List.nil_append]
  decide +kernel

theorem lower_injOn {d d' : String} (hd : d ∈ lineDirectives) (hd' : d' ∈ lineDirectives)
    (h : Text.lower d = Text.lower d') : d = d' :=
  List.inj_on_of_nodup_map lineDirectives_lower_nodup hd hd' h

section Records

variable {opts m : OptionMap} {es : List (String × String)} {d : String} {ds : List String}

theorem Records.cons_of_not_mem (hr : Records opts m es ds) (hnot : ∀ e ∈ es, e.1 ≠ d) :
    Records opts m es (d :: ds) where
  mem e he hd := hr.mem e he ((List.mem_cons.1 hd).resolve_left (hnot e he))
  other k hk := hr.other k fun e he hd => hk e he (List.mem_cons_of_mem d hd)

/-- Recording the option of a directive, then the options of the later directives among the
others, records the options of all these directives. -/
theorem Records.cons_of_split {es₁ es₂ : List (String × String)} {v : String}
    (hr : Records (opts.insert (Text.lower d) v) m (es₁ ++ es₂) ds)
    (hnot : ∀ e ∈ es₁ ++ es₂, e.1 ≠ d)
    (hinj : ∀ e ∈ es₁ ++ es₂, Text.lower e.1 = Text.lower d → e.1 = d) :
    Records opts m (es₁ ++ (d, v) :: es₂) (d :: ds) where
  mem e he hd := by
    have he' : e = (d, v) ∨ e ∈ es₁ ++ es₂ := by
      simp only [List.mem_append, List.mem_cons] at he ⊢
      tauto
    rcases he' with rfl | he'
    · -- no later option has the lowered directive, so the recorded value stays
      rw [hr.other _ fun e' he' _ hk => hnot e' he' (hinj e' he' hk)]
      simp
    · exact hr.mem e he' ((List.mem_cons.1 hd).resolve_left (hnot e he'))
  other k hk := by
    have hdk : Text.lower d ≠ k := hk (d, v) (by simp) List.mem_cons_self
    rw [hr.other k fun e he hd => hk e (by simp at he ⊢; tauto) (List.mem_cons_of_mem _ hd)]
    simp [hdk]

end Records

theorem filter_not_mem_cons {es : List (String × String)} {d : String} {ds : List String}
    (hnot : ∀ e ∈ es, e.1 ≠ d) :
    es.filter (fun e => e.1 ∉ d :: ds) = es.filter (fun e => e.1 ∉ ds) :=
  List.filter_congr fun e he => by simp [hnot e he]

theorem filter_not_mem_split {es₁ es₂ : List (String × String)} {e : String × String}
    {ds : List String} (hnot : ∀ e' ∈ es₁ ++ es₂, e'.1 ≠ e.1) :
    (es₁ ++ e :: es₂).filter (fun e' => e'.1 ∉ e.1 :: ds) =
      (es₁ ++ es₂).filter (fun e' => e'.1 ∉ ds) := by
  rw [← filter_not_mem_cons hnot, List.filter_append, List.filter_append,
    List.filter_cons_of_neg (by simp)]

/-- Folding the steps of the grammars of distinct directives over a line of options records the
options of these directives and deletes them from the line. -/
theorem foldl_scanStep {ds : List String} {gs : List (Pattern × (String → String))}
    (hg : List.Forall₂ ReadsOptionsOf ds gs) (hds : ∀ d ∈ ds, d ∈ optionDirectives)
    (hdsn : ds.Nodup) {s : List Char} {es : List (String × String)} (h : Spaced s es)
    (hes : ∀ e ∈ es, ScannableOption e) (hkeys : (es.map Prod.fst).Nodup)
    (hfree : ∀ d ∈ ds, ∀ e ∈ es, ¬ OccursFolded d.toList (writtenValue e.1 e.2).toList)
    (opts : OptionMap) :
    ∃ s', (gs.foldl scanStep (opts, ')' :: s)).2 = ')' :: s' ∧
      Spaced s' (es.filter fun e => e.1 ∉ ds) ∧
      Records opts (gs.foldl scanStep (opts, ')' :: s)).1 es ds := by
  induction hg generalizing opts s es with
  | nil =>
    refine ⟨s, rfl, by simpa using h, fun e _ hd => absurd hd List.not_mem_nil, fun k _ => rfl⟩
  | @cons d g ds gs hdg _ ih =>
    have hd := hds d List.mem_cons_self
    have hds' : ∀ d' ∈ ds, d' ∈ optionDirectives := fun d' hd' => hds d' (List.mem_cons_of_mem d hd')
    have hdsn' := List.nodup_cons.1 hdsn
    rw [List.foldl_cons]
    by_cases hmem : ∃ e ∈ es, e.1 = d
    · -- the line has the option of the directive: record it and go on without it
      obtain ⟨e, he, rfl⟩ := hmem
      obtain ⟨es₁, es₂, hsplit⟩ := List.append_of_mem he
      have hkeys' : (e.1 :: (es₁ ++ es₂).map Prod.fst).Nodup := by
        simpa [hsplit, List.nodup_middle] using hkeys
      have hnot : ∀ e' ∈ es₁ ++ es₂, e'.1 ≠ e.1 := fun e' he' hk =>
        (List.nodup_cons.1 hkeys').1 (List.mem_map.2 ⟨e', he', hk⟩)
      have hsub : ∀ e' ∈ es₁ ++ es₂, e' ∈ es := fun e' he' => by
        rw [hsplit]; simp at he' ⊢; tauto
      obtain ⟨s₁, hstep, hs₁⟩ := scanStep_of_split hdg hd h hes (hfree e.1 List.mem_cons_self)
        (v := e.2) (hsplit.trans (by rfl)) hnot opts
      rw [hstep]
      obtain ⟨s', hs', hsp, hrec⟩ := ih hds' hdsn'.2 hs₁ (fun e' he' => hes e' (hsub e' he'))
        (List.nodup_cons.1 hkeys').2
        (fun d' hd' e' he' => hfree d' (List.mem_cons_of_mem _ hd') e' (hsub e' he'))
        (opts.insert (Text.lower e.1) e.2)
      refine ⟨s', hs', ?_, ?_⟩
      · rwa [hsplit, filter_not_mem_split hnot]
      · rw [hsplit]
        exact hrec.cons_of_split hnot fun e' he' hk => lower_injOn
          (hes e' (hsub e' he')).mem_lineDirectives (hes e he).mem_lineDirectives hk
    · -- the line has no option of the directive: the step changes nothing
      simp only [not_exists, not_and] at hmem
      rw [scanStep_of_not_mem hdg hd h hes (hfree d List.mem_cons_self) hmem opts]
      obtain ⟨s', hs', hsp, hrec⟩ := ih hds' hdsn'.2 h hes hkeys
        (fun d' hd' => hfree d' (List.mem_cons_of_mem d hd')) opts
      exact ⟨s', hs', by rwa [filter_not_mem_cons hmem], hrec.cons_of_not_mem hmem⟩

theorem get?_foldl_erase (ks : List String) (m : OptionMap) (k : String) :
    (ks.foldl OptionMap.erase m).get? k = if k ∈ ks then none else m.get? k := by
  induction ks generalizing m with
  | nil => simp
  | cons k' ks ih =>
    rw [List.foldl_cons, ih, OptionMap.get?_erase]
    by_cases h₂ : k' = k
    · subst h₂
      simp
    · by_cases h₁ : k ∈ ks <;> simp [h₁, h₂, Ne.symm h₂]

theorem optionLineText_ne (es : List (String × String)) :
    ¬ (Render.optionLineText es = "" ∨ Render.optionLineText es = ")") := by
  have hl : 2 ≤ (Render.optionLineText es).toList.length := by
    simp [Render.optionLineText]
  rintro (h | h) <;> rw [h] at hl <;> simp at hl

/-- A directive of an option line that is not a string directive is read in the second phase. -/
theorem mem_otherDirectives {d : String} (hd : d ∈ lineDirectives) (hs : d ∉ stringDirectives) :
    d ∈ wordDirectives ++ shapedDirectives.map (·.1) := by
  simp only [lineDirectives, List.mem_append] at hd
  simp only [shapedDirectives, List.map_cons, List.map_nil, List.mem_append]
  rcases hd with (hd | hd) | hd
  · exact absurd hd hs
  · exact Or.inl hd
  · simp at hd ⊢
    tauto

/-- The string options recorded first and the other options recorded after them give every
option under its lowered directive. -/
theorem get?_of_records {entries : List (String × String)} (hwf : ∀ e ∈ entries, ScannableOption e)
    {m₁ m₂ : OptionMap} (h₁ : Records OptionMap.empty m₁ entries stringDirectives)
    (h₂ : Records m₁ m₂ (entries.filter fun e => e.1 ∉ stringDirectives)
      (wordDirectives ++ shapedDirectives.map (·.1))) (k : String) :
    m₂.get? k = (entries.find? fun e => Text.lower e.1 == k).map Prod.snd := by
  cases hf : entries.find? fun e => Text.lower e.1 == k with
  | some e =>
    have he := List.mem_of_find?_eq_some hf
    have hk : Text.lower e.1 = k := by simpa using List.find?_some hf
    by_cases hs : e.1 ∈ stringDirectives
    · -- a string option: no other option has its lowered directive
      rw [h₂.other k fun e' he' _ hk' => ?_, ← hk, h₁.mem e he hs]
      · rfl
      obtain ⟨he', hs'⟩ := List.mem_filter.1 he'
      have heq := lower_injOn (hwf e' he').mem_lineDirectives (hwf e he).mem_lineDirectives
        (hk'.trans hk.symm)
      exact (of_decide_eq_true hs') (heq ▸ hs)
    · rw [← hk, h₂.mem e (List.mem_filter.2 ⟨he, by simpa using hs⟩)
        (mem_otherDirectives (hwf e he).mem_lineDirectives hs)]
      rfl
  | none =>
    have hnone : ∀ e ∈ entries, Text.lower e.1 ≠ k := fun e he hk =>
      absurd (by simpa using hk) (List.find?_eq_none.1 hf e he)
    rw [h₂.other k fun e he _ => hnone e (List.mem_filter.1 he).1,
      h₁.other k fun e he _ => hnone e he]
    rfl

/-- The scanner reads back every option of an option line written from scannable options with
distinct directives, whatever their order: each value under its lowered directive, except for
the options that it drops, and nothing else. -/
theorem scanOptions_optionLineText (entries : List (String × String))
    (hwf : ∀ e ∈ entries, ScannableOption e) (hnd : (entries.map Prod.fst).Nodup) (k : String) :
    (scanOptions (Render.optionLineText entries)).get? k =
      if k ∈ discardedOptions then none
      else (entries.find? fun e => Text.lower e.1 == k).map Prod.snd := by
  obtain ⟨s, hs, hsp⟩ := spaced_optionLineText entries
  -- the string options first, then the others
  obtain ⟨s₁, hs₁, hsp₁, h₁⟩ := foldl_scanStep stringGrammars_read
    (fun d hd => by simp [optionDirectives, hd]) (by decide +kernel) hsp hwf hnd
    (fun d hd e he => (hwf e he).not_occursFolded (by simp [optionDirectives, hd]) fun _ => hd)
    OptionMap.empty
  generalize hst₁ : List.foldl scanStep (OptionMap.empty, ')' :: s)
    (stringDirectives.map fun d => (stringOption d, unescapeOption)) = st₁ at hs₁ h₁
  obtain ⟨m₁, rest₁⟩ := st₁
  subst hs₁
  obtain ⟨s₂, -, -, h₂⟩ := foldl_scanStep otherGrammars_read
    (fun d hd => by simp only [optionDirectives, List.mem_append] at hd ⊢; tauto)
    (by decide +kernel) hsp₁ (fun e he => hwf e (List.mem_filter.1 he).1)
    (hnd.sublist (List.filter_sublist.map _))
    (fun d hd e he => (hwf e (List.mem_filter.1 he).1).not_occursFolded
      (by simp only [optionDirectives, List.mem_append] at hd ⊢; tauto)
      fun hs => absurd hs (by simpa using (List.mem_filter.1 he).2))
    m₁
  rw [scanOptions, if_neg (optionLineText_ne entries), hs, optionGrammars, List.append_assoc,
    List.foldl_append, hst₁]
  generalize hst₂ : List.foldl scanStep (m₁, ')' :: s₁) (wordDirectives.map
    (fun d => (option d word, id)) ++ shapedDirectives.map fun p => (option p.1 p.2, id)) = st₂
    at h₂
  obtain ⟨m₂, rest₂⟩ := st₂
  dsimp only
  rw [get?_foldl_erase, get?_of_records hwf h₁ h₂]

/-- A line with an engine and a comment that holds a quote gives the comment back. -/
theorem scanOptions_reads_engine_and_comment :
    (∀ e ∈ [("ENGINE", "InnoDB"), ("COMMENT", "it's")], ScannableOption e) ∧
      ([("ENGINE", "InnoDB"), ("COMMENT", "it's")].map Prod.fst).Nodup ∧
      (scanOptions (Render.optionLineText [("ENGINE", "InnoDB"), ("COMMENT", "it's")])).get?
        "comment" = some "it's" := by
  have hwf : ∀ e ∈ [("ENGINE", "InnoDB"), ("COMMENT", "it's")], ScannableOption e := by
    intro e he
    simp only [List.mem_cons, List.not_mem_nil, or_false] at he
    rcases he with rfl | rfl
    · refine .word (by decide) (by decide) (List.all_eq_true.1
        (show "InnoDB".toList.all (fun x => Unicode.word.contains x) = true by decide +kernel))
        fun n hn => not_occursFolded_of_all (List.all_eq_true.1 (show optionDirectives.all
          (fun n => (List.range ("InnoDB".toList.length + 1)).all
            fun i => !foldPrefix n.toList ("InnoDB".toList.drop i)) = true by decide +kernel) n hn)
    · exact .string (by decide) fun n hn => not_occursFolded_of_all (List.all_eq_true.1
        (show stringDirectives.all (fun n => (List.range ("it's".toList.length + 1)).all
          fun i => !foldPrefix n.toList ("it's".toList.drop i)) = true by decide +kernel) n hn)
  have hnd : ([("ENGINE", "InnoDB"), ("COMMENT", "it's")].map Prod.fst).Nodup := by decide
  refine ⟨hwf, hnd, ?_⟩
  rw [scanOptions_optionLineText _ hwf hnd]
  decide +kernel

end Reader

end TableDdl

import TableDdl.Proofs.ColumnHeads
import TableDdl.Proofs.ColumnLines
import TableDdl.Proofs.LineAccounting

/-!
# Degradation happens only at the type

A column line is read with the full grammar, and when that fails with the loose one, which gives
a degraded column and a warning about the line; a line that neither accepts gives no column and
a warning that the line is unknown. For the backtick and ANSI conventions this boundary is exact
and lies at the type word (`Reader.readColumn_degrades_only_at_type`):

* the loose grammar accepts exactly the headed lines, those that start with two spaces, the
  quoted name, spaces and a word character (`looseColumn_leftmost_isSome`);
* the full grammar accepts exactly the headed lines whose text after the type word is an
  optional argument list followed by nothing, a single comma or a text that starts with a space
  (`column_leftmost_isSome`): every attribute of the grammar is optional and starts with a space,
  and the catch-all extra text takes any text that starts with one;
* either way the match keeps the spans of the head's name and type word, so the column has
  them (`headNamed_columnOfMatch`).

What every way of the full grammar does is followed attribute by attribute with the triples of
`Pattern.AllWays`; that some way goes through, with those of `Pattern.SomeWay`.
-/

namespace TableDdl

open Computability Pattern

namespace Grammar

/-! ## The text after the type word -/

/-- An argument list in parentheses as the full grammar reads it, or nothing. -/
def ArgsPart (a : List Char) : Prop := a = [] ∨ ∃ x ∈ typeArgText, a = '(' :: x ++ [')']

/-- What the full grammar accepts after the type word: an optional argument list, then nothing,
a single comma, or a text that starts with a space. -/
def FitsAfterType (r : List Char) : Prop :=
  ∃ a t, r = a ++ t ∧ ArgsPart a ∧ (t = [] ∨ t = [','] ∨ t.head? = some ' ')

/-- A line that the full column grammar accepts: a headed line whose text after the type word
fits. -/
def FullFits (q : Quoting) (s : List Char) : Prop := ∃ h : ColumnHead q s, FitsAfterType h.rest

theorem FullFits.headed {q : Quoting} {s : List Char} (h : FullFits q s) : Headed q s :=
  headed_iff.2 ⟨h.choose⟩

/-- A text that fits after the type word starts with a parenthesis, a comma or a space, if it
starts at all. -/
theorem FitsAfterType.head {r : List Char} (h : FitsAfterType r) :
    ∀ x ∈ r.head?, x = '(' ∨ x = ',' ∨ x = ' ' := by
  obtain ⟨a, t, rfl, ha, ht⟩ := h
  intro x hx
  rcases ha with rfl | ⟨y, -, rfl⟩
  · rcases ht with rfl | rfl | ht
    · simp at hx
    · simp at hx
      simp [← hx]
    · simp [ht] at hx
      simp [← hx]
  · simp at hx
    simp [← hx]

/-- The text after only part of the type word does not fit: it starts with a word character. -/
theorem not_fitsAfterType_drop {q : Quoting} {s : List Char} (h : ColumnHead q s) {k : Nat}
    (hk : k < h.word.length) : ¬ FitsAfterType (h.word.drop k ++ h.rest) := by
  intro hfit
  have hx : h.word[k] ∈ (h.word.drop k ++ h.rest).head? := by
    rw [List.drop_eq_getElem_cons hk]
    simp
  have hw := h.word_chars _ (List.getElem_mem hk)
  rcases hfit.head _ hx with hc | hc | hc <;>
    rw [hc, Unicode.word_grammar (by decide)] at hw <;> revert hw <;> decide

/-! ## Every way of the full grammar -/

section Full

variable {q : Quoting} {s : List Char}

/-- After the argument list: the text read since the end of the grammars' start is an optional
argument list and then nothing or a text that starts with a space, and the spans of the name and
the type word are kept. -/
def AfterArgs (q : Quoting) (s : List Char) (c : Cursor s.length) (caps : Captures) : Prop :=
  ∃ v ∈ (typeHead q).ways (Cursor.start s) [], ∃ a t, v.1.rest = a ++ t ++ c.rest ∧ ArgsPart a ∧
    (t = [] ∨ t.head? = some ' ') ∧ KeepsSpans ["name", "coltype"] v.2 caps

/-- Before the end: as after the argument list, and the text read may end in a comma. -/
def BeforeEnd (q : Quoting) (s : List Char) (c : Cursor s.length) (caps : Captures) : Prop :=
  ∃ v ∈ (typeHead q).ways (Cursor.start s) [], ∃ a t, v.1.rest = a ++ t ++ c.rest ∧ ArgsPart a ∧
    (t = [] ∨ t = [','] ∨ t.head? = some ' ') ∧ KeepsSpans ["name", "coltype"] v.2 caps

theorem leads_spaces : Leads spaces ' ' := by
  refine reads_spaces.leads ?_
  rintro u ⟨hne, hu⟩
  obtain ⟨x, u', rfl⟩ := List.exists_cons_of_ne_nil hne
  simp [hu x List.mem_cons_self]

theorem reads_argList :
    Reads (literal "(" ++ .group "arg" typeArgs ++ literal ")") ({['(']} * typeArgText * {[')']}) :=
  ((Reads.literal "(" (Unicode.all_caseless_punctuation (by decide))).seq (reads_typeArgs.group "arg")).seq
    (Reads.literal ")" (Unicode.all_caseless_punctuation (by decide)))

/-- The argument list reads an argument list in parentheses or nothing. -/
theorem afterArgs_argList :
    AllWays (fun c caps => (c, caps) ∈ (typeHead q).ways (Cursor.start s) [])
      (literal "(" ++ .group "arg" typeArgs ++ literal ")").opt (AfterArgs q s) := by
  refine AllWays.opt ?_ fun c caps hv =>
    ⟨(c, caps), hv, [], [], by simp, Or.inl rfl, Or.inl rfl, KeepsSpans.refl _ _⟩
  intro c caps hv w hw
  obtain ⟨u, hu, hcu⟩ := reads_argList.sound c caps w hw
  obtain ⟨u', hu', b, hb, rfl⟩ := Language.mem_mul.1 hu
  obtain ⟨p, hp, x, hx, rfl⟩ := Language.mem_mul.1 hu'
  change p = ['('] at hp
  change b = [')'] at hb
  subst hp hb
  refine ⟨(c, caps), hv, '(' :: x ++ [')'], [], by simp [hcu], Or.inr ⟨x, hx, rfl⟩, Or.inl rfl,
    keepsSpans_ways (by decide) hw⟩

/-- An attribute that starts with a space and records neither the name nor the type word keeps
what holds after the argument list. -/
theorem afterArgs_opt {X : Pattern} (hX : Leads X ' ')
    (hN : ∀ x ∈ X.groupNames, x ∉ ["name", "coltype"]) :
    AllWays (AfterArgs q s) X.opt (AfterArgs q s) := by
  refine AllWays.opt ?_ fun c caps h => h
  rintro c caps ⟨v, hv, a, t, hvr, ha, ht, hk⟩ w hw
  obtain ⟨u, hu⟩ := hX c caps w hw
  refine ⟨v, hv, a, t ++ ' ' :: u, by rw [hvr, hu]; simp, ha, Or.inr ?_,
    hk.trans (keepsSpans_ways hN hw)⟩
  rcases ht with rfl | ht
  · rfl
  · simp [List.head?_append, ht]

/-- The final comma may be read after the attributes. -/
theorem beforeEnd_comma : AllWays (AfterArgs q s) (literal ",").opt (BeforeEnd q s) := by
  refine AllWays.opt ?_ fun c caps ⟨v, hv, a, t, hvr, ha, ht, hk⟩ =>
    ⟨v, hv, a, t, hvr, ha, by rcases ht with h | h <;> simp [h], hk⟩
  rintro c caps ⟨v, hv, a, t, hvr, ha, ht, hk⟩ w hw
  obtain ⟨⟨u, hu, hcu⟩, hw₂⟩ := (Reads.literal "," (Unicode.all_caseless_punctuation (by decide))).mem_ways (by simp) hw
  change u = [','] at hu
  subst hu
  refine ⟨v, hv, a, t ++ [','], by rw [hvr, hcu]; simp, ha, ?_, hw₂ ▸ hk⟩
  rcases ht with rfl | ht
  · simp
  · simp [List.head?_append, ht]

/-- Every way of the full grammar goes through a way of the grammars' start after which the
text fits, and keeps the spans of the name and the type word. -/
theorem column_sound :
    ∀ w ∈ (column q).ways (Cursor.start s) [], ∃ v ∈ (typeHead q).ways (Cursor.start s) [],
      FitsAfterType v.1.rest ∧ KeepsSpans ["name", "coltype"] v.2 w.2 := by
  have hchain : AllWays (fun c caps => c = Cursor.start s ∧ caps = []) (column q)
      (fun c caps => BeforeEnd q s c caps ∧ c.rest = []) := by
    unfold column
    refine AllWays.seq ?_ AllWays.atEnd
    refine AllWays.seq ?_ beforeEnd_comma
    -- the eleven attributes and the extra text
    iterate 12 refine AllWays.seq ?_ (afterArgs_opt ?_ (by decide))
    refine AllWays.seq ?_ afterArgs_argList
    · rintro c caps ⟨rfl, rfl⟩ w hw
      exact hw
    -- each of them starts with spaces
    all_goals repeat (first | exact leads_spaces | apply Leads.seq)
  intro w hw
  obtain ⟨⟨v, hv, a, t, hvr, ha, ht, hk⟩, hend⟩ := hchain _ _ ⟨rfl, rfl⟩ w hw
  exact ⟨v, hv, ⟨a, t, by simpa [hend] using hvr, ha, ht⟩, hk⟩

/-! ## Some way of the full grammar -/

theorem someWay_argList {n : Nat} {a t : List Char} (ha : ArgsPart a) :
    SomeWay (fun (c : Cursor n) _ => c.rest = a ++ t)
      (literal "(" ++ .group "arg" typeArgs ++ literal ")").opt (fun c _ => c.rest = t) := by
  rcases ha with rfl | ⟨x, hx, rfl⟩
  · exact SomeWay.skip fun c _ h => by simpa using h
  · refine SomeWay.take fun c caps hc => ?_
    have hu : '(' :: x ++ [')'] ∈ ({['(']} * typeArgText * {[')']} : Language Char) :=
      Language.mem_mul.2 ⟨'(' :: x, Language.mem_mul.2 ⟨['('], rfl, x, hx, rfl⟩, [')'], rfl, by simp⟩
    exact reads_argList.complete c caps _ hu t (by simp [hc])

theorem reads_extra : Reads (spaces ++ .group "extra" (many anyChar))
    (spaceRun * (charsWith (· ∉ ['\n']))∗) :=
  reads_spaces.seq (((Reads.noneOf_chars ['\n'] (Unicode.all_caseless_punctuation (by decide))).star true).group "extra")

/-- The extra text takes any text without a line feed that starts with a space. -/
theorem someWay_extra {n : Nat} {t : List Char} (ht : t = [] ∨ t = [','] ∨ t.head? = some ' ')
    (hnl : '\n' ∉ t) :
    SomeWay (fun (c : Cursor n) _ => c.rest = t) (spaces ++ .group "extra" (many anyChar)).opt
      (fun c _ => c.rest = [] ∨ c.rest = [',']) := by
  rcases ht with rfl | rfl | ht
  · exact SomeWay.skip fun c _ h => Or.inl h
  · exact SomeWay.skip fun c _ h => Or.inr h
  · obtain ⟨r, rfl⟩ : ∃ r, t = ' ' :: r := by
      cases t with
      | nil => simp at ht
      | cons x r => exact ⟨r, by simpa using ht⟩
    refine SomeWay.take fun c caps hc => ?_
    have hu : ' ' :: r ∈ spaceRun * (charsWith (· ∉ ['\n']))∗ := by
      refine Language.mem_mul.2 ⟨[' '], ⟨by simp, by simp⟩, r, mem_kstar_charsWith.2 ?_, rfl⟩
      intro x hx hxn
      exact hnl (by simp_all)
    obtain ⟨w, hw, hwr⟩ := reads_extra.complete c caps _ hu [] (by simp [hc])
    exact ⟨w, hw, Or.inl hwr⟩

theorem someWay_comma {n : Nat} :
    SomeWay (fun (c : Cursor n) _ => c.rest = [] ∨ c.rest = [',']) (literal ",").opt
      (fun c _ => c.rest = []) := by
  rintro c caps (hc | hc)
  · exact ⟨(c, caps), by simp, hc⟩
  · obtain ⟨w, hw, hwr⟩ := (Reads.literal "," (Unicode.all_caseless_punctuation (by decide))).complete c caps [','] rfl []
      (by simp [hc])
    exact ⟨w, by rw [ways_opt]; exact List.mem_append_left _ hw, hwr⟩

section OneChar

variable {i f : Char} (hq : q.OneChar i f)
include hq

theorem someWay_typeHead (h : ColumnHead q s) :
    SomeWay (fun c caps => c = Cursor.start s ∧ caps = []) (typeHead q) (fun c _ => c.rest = h.rest) := by
  rintro c caps ⟨rfl, rfl⟩
  obtain ⟨w, hw, hwr, -⟩ := typeHead_first hq h
  exact ⟨w, List.mem_of_head? hw, hwr⟩

/-- A line without line feeds that the full grammar fits has a way of matching it. -/
theorem column_complete (hl : '\n' ∉ s) (hfit : FullFits q s) :
    (column q).ways (Cursor.start s) [] ≠ [] := by
  obtain ⟨h, a, t, hr, ha, ht⟩ := hfit
  have hnl : '\n' ∉ t := fun hmem => hl (by rw [h.eq, hr]; simp [hmem])
  have hhead := someWay_typeHead hq h
  rw [hr] at hhead
  have hchain : SomeWay (fun c caps => c = Cursor.start s ∧ caps = []) (column q)
      (fun _ _ => True) := by
    unfold column
    refine SomeWay.seq ?_ SomeWay.atEnd
    refine SomeWay.seq ?_ someWay_comma
    refine SomeWay.seq ?_ (someWay_extra ht hnl)
    -- the eleven attributes are skipped
    iterate 11 refine SomeWay.seq ?_ (SomeWay.skip fun _ _ h => h)
    exact SomeWay.seq hhead (someWay_argList ha)
  obtain ⟨w, hw, -⟩ := hchain _ _ ⟨rfl, rfl⟩
  exact List.ne_nil_of_mem hw

end OneChar

end Full

/-! ## The leftmost-first matches -/

section Leftmost

variable {q : Quoting} {s : List Char}

theorem anchored_column (q : Quoting) : Anchored (column q) := by
  unfold column
  repeat apply Anchored.seq
  exact anchored_atStart

theorem anchored_looseColumn (q : Quoting) : Anchored (looseColumn q) :=
  Anchored.seq (Anchored.seq (anchored_typeHead q) _) _

/-- The groups of a match that keeps the spans of the head's name and whole type word give the
head's name and type word. -/
theorem group?_of_keepsSpans (h : ColumnHead q s) {m : Match}
    (hk : KeepsSpans ["name", "coltype"] (h.captures h.word.length) m.captures) :
    m.group? s "name" = some (String.ofList h.body) ∧
      m.group? s "coltype" = some (String.ofList h.word) := by
  have hslice : ∀ a b c : List Char, Match.slice (a ++ b ++ c) a.length (a.length + b.length) =
      String.ofList b := by
    intro a b c
    simp [Match.slice]
  obtain ⟨i, j, caps⟩ := m
  simp only [Match.group?, Match.span?, hk.find? (by simp : "name" ∈ ["name", "coltype"]),
    hk.find? (by simp : "coltype" ∈ ["name", "coltype"])]
  -- the line is its head's pieces
  obtain ⟨body, sp, word, rest, -, -, -, -, -, -, rfl⟩ := h
  constructor
  · have := hslice ([' ', ' '] ++ q.initial.toList) body
      (q.final.toList ++ List.replicate sp ' ' ++ word ++ rest)
    simp only [List.append_assoc, List.length_append] at this
    simp only [ColumnHead.captures, ColumnHead.nameStart, List.find?]
    convert congrArg some this using 3
    simp [Nat.add_assoc]
  · have := hslice ([' ', ' '] ++ q.initial.toList ++ body ++ q.final.toList ++
      List.replicate sp ' ') word rest
    simp only [List.append_assoc, List.length_append] at this
    simp only [ColumnHead.captures, ColumnHead.typeStart, ColumnHead.nameStart, List.find?]
    convert congrArg some this using 3
    simp [Nat.add_assoc]

section OneChar

variable {i f : Char} (hq : q.OneChar i f)
include hq

/-- The full grammar's match at a line keeps the spans of the name and the whole type word of
the line's head, after which the line fits. -/
theorem column_leftmost {m : Match} (hm : (column q).leftmost s = some m) :
    ∃ h : ColumnHead q s, FitsAfterType h.rest ∧
      KeepsSpans ["name", "coltype"] (h.captures h.word.length) m.captures := by
  rw [leftmost_of_anchored (anchored_column q)] at hm
  obtain ⟨w, hw, rfl⟩ := Option.map_eq_some_iff.1 hm
  obtain ⟨v, hv, hfit, hk⟩ := column_sound w (List.mem_of_head? hw)
  obtain ⟨h, k, -, hk', hvr, hv₂⟩ := typeHead_sound hq v hv
  -- a way that stops inside the type word leaves a word character, which does not fit
  have hkw : k = h.word.length := by
    by_contra hne
    exact not_fitsAfterType_drop h (by omega) (hvr ▸ hfit)
  subst hkw
  rw [List.drop_length, List.nil_append] at hvr
  exact ⟨h, hvr ▸ hfit, hv₂ ▸ hk⟩

/-- The full grammar matches a line without line feeds exactly when the line fits. -/
theorem column_leftmost_isSome (hl : '\n' ∉ s) :
    ((column q).leftmost s).isSome ↔ FullFits q s := by
  constructor
  · intro hsome
    obtain ⟨m, hm⟩ := Option.isSome_iff_exists.1 hsome
    obtain ⟨h, hfit, -⟩ := column_leftmost hq hm
    exact ⟨h, hfit⟩
  · intro hfit
    rw [leftmost_of_anchored (anchored_column q)]
    obtain ⟨w, ws, hws⟩ := List.exists_cons_of_ne_nil (column_complete hq hl hfit)
    simp [hws]

/-- The first way of the loose grammar at a headed line keeps the spans of the name and the
whole type word of the line's head. -/
theorem looseColumn_first (h : ColumnHead q s) :
    ∃ w, ((looseColumn q).ways (Cursor.start s) []).head? = some w ∧
      KeepsSpans ["name", "coltype"] (h.captures h.word.length) w.2 := by
  obtain ⟨w₀, hw₀, -, hc₀⟩ := typeHead_first hq h
  -- both parts after the grammars' start are optional, so the first way goes through theirs
  have hfirst : ∀ (X : Pattern), (∀ x ∈ X.groupNames, x ∉ ["name", "coltype"]) →
      ∀ v : Cursor s.length × Captures, KeepsSpans ["name", "coltype"] (h.captures h.word.length) v.2 →
      ∃ w, (X.opt.ways v.1 v.2).head? = some w ∧
        KeepsSpans ["name", "coltype"] (h.captures h.word.length) w.2 := by
    intro X hX v hv
    obtain ⟨w, ws, hws⟩ := List.exists_cons_of_ne_nil (ways_opt_ne_nil X v.1 v.2)
    have hmem : w ∈ X.opt.ways v.1 v.2 := by
      rw [hws]
      exact List.mem_cons_self
    exact ⟨w, by simp [hws], hv.trans (keepsSpans_ways (by simpa [opt, groupNames] using hX) hmem)⟩
  unfold looseColumn
  rw [head?_ways_append (ways_opt_ne_nil _), head?_ways_append (ways_opt_ne_nil _)]
  obtain ⟨w₁, hw₁, hk₁⟩ := hfirst (literal "(" ++ .group "arg" looseTypeArgs ++ literal ")")
    (by decide) w₀ (hc₀ ▸ KeepsSpans.refl _ _)
  obtain ⟨w₂, hw₂, hk₂⟩ := hfirst (manyLazy anyChar ++ literal " " ++
    .group "notnull" (literal "NOT NULL")) (by decide) w₁ hk₁
  refine ⟨w₂, ?_, hk₂⟩
  change ((((typeHead q).ways (Cursor.start s) []).head?.bind _).bind _) = _
  rw [hw₀, Option.bind_some, hw₁, Option.bind_some, hw₂]

/-- The loose grammar matches a line exactly when the line is headed. -/
theorem looseColumn_leftmost_isSome : ((looseColumn q).leftmost s).isSome ↔ Headed q s := by
  rw [leftmost_of_anchored (anchored_looseColumn q)]
  constructor
  · intro hsome
    by_contra hs
    have hnil : (looseColumn q).ways (Cursor.start s) [] = [] := by
      show ((typeHead q ++ _) ++ _).ways _ _ = _
      rw [ways_append, ways_append, typeHead_ways_eq_nil hq hs]
      rfl
    simp [hnil] at hsome
  · intro hs
    obtain ⟨h⟩ := headed_iff.1 hs
    obtain ⟨w, hw, -⟩ := looseColumn_first hq h
    simp [hw]

/-- The loose grammar's match keeps the spans of the name and the whole type word of the line's
head. -/
theorem looseColumn_leftmost {m : Match} (hm : (looseColumn q).leftmost s = some m)
    (h : ColumnHead q s) : KeepsSpans ["name", "coltype"] (h.captures h.word.length) m.captures := by
  rw [leftmost_of_anchored (anchored_looseColumn q)] at hm
  obtain ⟨w, hw, hk⟩ := looseColumn_first hq h
  rw [hw] at hm
  cases hm
  exact hk

end OneChar

end Leftmost

end Grammar

/-! ## Reading a column line -/

namespace Reader

open Grammar

/-- The column has the name and the type word of every head of the line: the name unescaped and
the type word in lower case. -/
def HeadNamed (q : Quoting) (l : String) (c : Column) : Prop :=
  ∀ h : ColumnHead q l.toList, c.name = q.unescape (String.ofList h.body) ∧
    c.type.name = Text.lower (String.ofList h.word)

/-- How a column line is read: no column exactly for the lines without a head, a degraded column
with the one warning about the line exactly for the headed lines that do not fit after the type
word, a full column without a warning about the line exactly for those that fit; and the column
read has the name and type word of the head. -/
structure DegradesAtType (q : Quoting) (reg : TypeRegistry) (l : String) : Prop where
  unknown_iff : readColumn (LineGrammars.of q) q reg l = (none, [.unknownColumnDefinition l]) ↔
    ¬ Headed q l.toList
  degraded_iff : ((∃ c, (readColumn (LineGrammars.of q) q reg l).1 = some c ∧ c.degraded = true) ∧
      (readColumn (LineGrammars.of q) q reg l).2.filter (·.line?.isSome) =
        [.incompleteColumnReflection l]) ↔
    Headed q l.toList ∧ ¬ FullFits q l.toList
  complete_iff : ((∃ c, (readColumn (LineGrammars.of q) q reg l).1 = some c ∧ c.degraded = false) ∧
      (readColumn (LineGrammars.of q) q reg l).2.filter (·.line?.isSome) = []) ↔
    FullFits q l.toList
  head : ∀ c, (readColumn (LineGrammars.of q) q reg l).1 = some c → HeadNamed q l c

/-- A column read from a match warns about no line, only, if at all, about its type. -/
theorem lineWarnings_columnOfMatch (q : Quoting) (reg : TypeRegistry) (s : List Char) (m : Match)
    (full : Bool) : (columnOfMatch q reg s m full).2.filter (·.line?.isSome) = [] := by
  rw [warnings_columnOfMatch]
  split <;> simp [Warning.line?]

/-- The column grammars of the backtick and ANSI conventions can be searched by their compiled
programs. -/
theorem columnGrammars_searchable {q : Quoting} (hq : q = .backtick ∨ q = .ansi) :
    (column q).Progressive ∧ (column q).groupNames.Nodup ∧
      (looseColumn q).Progressive ∧ (looseColumn q).groupNames.Nodup := by
  rcases hq with rfl | rfl <;> decide

theorem oneChar_of_conventions {q : Quoting} (hq : q = .backtick ∨ q = .ansi) :
    ∃ i f, q.OneChar i f := by
  rcases hq with rfl | rfl
  · exact ⟨_, _, Quoting.oneChar_backtick⟩
  · exact ⟨_, _, Quoting.oneChar_ansi⟩

section Conventions

variable {q : Quoting} (hq : q = .backtick ∨ q = .ansi) (reg : TypeRegistry) {l : String}
include hq

theorem readColumn_conventions :
    readColumn (LineGrammars.of q) q reg l =
      match (column q).leftmost l.toList with
      | some m =>
        (some (columnOfMatch q reg l.toList m true).1, (columnOfMatch q reg l.toList m true).2)
      | none =>
        match (looseColumn q).leftmost l.toList with
        | some m =>
          (some (columnOfMatch q reg l.toList m false).1,
            .incompleteColumnReflection l :: (columnOfMatch q reg l.toList m false).2)
        | none => (none, [.unknownColumnDefinition l]) := by
  obtain ⟨hc, hcn, hlc, hlcn⟩ := columnGrammars_searchable hq
  exact readColumn_eq_leftmost (g := LineGrammars.of q) q reg l hc hcn hlc hlcn

/-- A column read from a match that keeps the spans of a head's name and type word is named by
the line's head. -/
theorem headNamed_columnOfMatch {m : Match} (h : ColumnHead q l.toList)
    (hk : KeepsSpans ["name", "coltype"] (h.captures h.word.length) m.captures) (full : Bool) :
    HeadNamed q l (columnOfMatch q reg l.toList m full).1 := by
  obtain ⟨i, f, hone⟩ := oneChar_of_conventions hq
  intro h'
  obtain rfl := ColumnHead.unique hone h h'
  obtain ⟨hname, hword⟩ := group?_of_keepsSpans h hk
  exact ⟨by simp [columnOfMatch, hname], by rw [typeName_columnOfMatch, hword]; rfl⟩

/-- A line without a head is no column. -/
theorem readColumn_of_not_headed (hs : ¬ Headed q l.toList) :
    readColumn (LineGrammars.of q) q reg l = (none, [.unknownColumnDefinition l]) := by
  obtain ⟨i, f, hone⟩ := oneChar_of_conventions hq
  have hloose : (looseColumn q).leftmost l.toList = none :=
    Option.not_isSome_iff_eq_none.1 (mt (looseColumn_leftmost_isSome hone).1 hs)
  -- a match of the full grammar would give the line a head
  have hfull : (column q).leftmost l.toList = none := by
    cases hm : (column q).leftmost l.toList with
    | none => rfl
    | some m =>
      obtain ⟨h, -, -⟩ := column_leftmost hone hm
      exact absurd (headed_iff.2 ⟨h⟩) hs
  rw [readColumn_conventions hq, hfull, hloose]

/-- A line that fits after its type word is read in full, with no warning about the line. -/
theorem readColumn_of_fullFits (hl : '\n' ∉ l.toList) (hfit : FullFits q l.toList) :
    ∃ c ws, readColumn (LineGrammars.of q) q reg l = (some c, ws) ∧ c.degraded = false ∧
      ws.filter (·.line?.isSome) = [] ∧ HeadNamed q l c := by
  obtain ⟨i, f, hone⟩ := oneChar_of_conventions hq
  obtain ⟨m, hm⟩ := Option.isSome_iff_exists.1 ((column_leftmost_isSome hone hl).2 hfit)
  obtain ⟨h, -, hk⟩ := column_leftmost hone hm
  refine ⟨_, _, ?_, rfl, lineWarnings_columnOfMatch q reg l.toList m true,
    headNamed_columnOfMatch hq reg h hk true⟩
  rw [readColumn_conventions hq, hm]

/-- A headed line that does not fit after its type word is read in part, with the one warning
about the line that says so. -/
theorem readColumn_of_headed (hl : '\n' ∉ l.toList) (hs : Headed q l.toList)
    (hfit : ¬ FullFits q l.toList) :
    ∃ c ws, readColumn (LineGrammars.of q) q reg l =
        (some c, .incompleteColumnReflection l :: ws) ∧ c.degraded = true ∧
      ws.filter (·.line?.isSome) = [] ∧ HeadNamed q l c := by
  obtain ⟨i, f, hone⟩ := oneChar_of_conventions hq
  have hfull : (column q).leftmost l.toList = none :=
    Option.not_isSome_iff_eq_none.1 (mt (column_leftmost_isSome hone hl).1 hfit)
  obtain ⟨m, hm⟩ := Option.isSome_iff_exists.1 ((looseColumn_leftmost_isSome hone).2 hs)
  obtain ⟨h⟩ := headed_iff.1 hs
  refine ⟨_, _, ?_, rfl, lineWarnings_columnOfMatch q reg l.toList m false,
    headNamed_columnOfMatch hq reg h (looseColumn_leftmost hone hm h) false⟩
  rw [readColumn_conventions hq, hfull, hm]

end Conventions

/-- For the backtick and ANSI conventions, a column line without line feeds is no column exactly
when it has no head, is read in part exactly when it is headed and does not fit after its type
word, and is read in full otherwise; the column read has the head's name and type word. -/
theorem readColumn_degrades_only_at_type (q : Quoting) (hq : q = .backtick ∨ q = .ansi)
    (reg : TypeRegistry) (l : String) (hl : '\n' ∉ l.toList) : DegradesAtType q reg l := by
  by_cases hfit : FullFits q l.toList
  · obtain ⟨c, ws, hr, hd, hw, hn⟩ := readColumn_of_fullFits hq reg hl hfit
    have hs := hfit.headed
    refine ⟨?_, ?_, ?_, ?_⟩ <;> simp_all
  by_cases hs : Headed q l.toList
  · obtain ⟨c, ws, hr, hd, hw, hn⟩ := readColumn_of_headed hq reg hl hs hfit
    refine ⟨?_, ?_, ?_, ?_⟩ <;> simp_all [Warning.line?]
  · have hr := readColumn_of_not_headed hq reg hs
    refine ⟨?_, ?_, ?_, ?_⟩ <;> simp_all [Warning.line?]

/-- A float with three arguments is headed but does not fit: it is read in part. -/
theorem readColumn_degrades_three_argument_float :
    '\n' ∉ "  `f` float(7,4,1) NOT NULL".toList ∧
      DegradesAtType .backtick TypeRegistry.mysql "  `f` float(7,4,1) NOT NULL" :=
  ⟨by decide, readColumn_degrades_only_at_type .backtick (Or.inl rfl) _ _ (by decide)⟩

end Reader

end TableDdl

import TableDdl.Proofs.KeyColumnLists
import TableDdl.Proofs.QualifiedNames
import TableDdl.Proofs.Matching.Evaluate

/-!
# Foreign key lines

A foreign key line is written `CONSTRAINT name FOREIGN KEY (local) REFERENCES schema.table
(foreign)`, then optionally `MATCH` and a word, `ON DELETE` and an action, `ON UPDATE` and an
action, and a final comma (`ForeignKeyLine.text`). The foreign key grammar reads it piece by
piece: each column list lazily up to the first closing parenthesis (`head?_group_columnList`),
the referenced table as one or two quoted names whose bodies have no final quote, with no
escapes (`head?_ways_tableGroup`), and the three clauses after the columns, each optional and
none anchored to the end of the line.

So a line reads back as written when its column names hold no closing parenthesis, its table
and schema names no final quote character, and no `ON UPDATE` follows `ON DELETE SET DEFAULT`:
`SET DEFAULT` is not among the actions the grammar reads, so the delete clause is skipped, and
the update clause, tried where the delete clause starts, finds `ON DELETE` there and is skipped
too (`readConstraint_foreignKeyLine`). Each of the three conditions is needed
(`readConstraint_foreignKeyLine_misreads`).
-/

namespace TableDdl

open Pattern

namespace Cursor

variable {s : List Char}

/-- A cursor over a subject stands where its text left starts, when the subject is a text
followed by it. -/
theorem drop_pos {p : List Char} {c : Cursor s.length} (h : s = p ++ c.rest) :
    s.drop c.pos = c.rest := by
  have hpos := pos_of_rest_eq (c := Cursor.start s) (d := c) (u := p)
    (by rw [rest_start]; exact h)
  have hdrop : (p ++ c.rest).drop p.length = c.rest := List.drop_left
  rw [hpos, pos_start, Nat.zero_add]
  rwa [← h] at hdrop

/-- A cursor further on than one that stands where its text left starts does too. -/
theorem drop_pos_of_rest {c d : Cursor s.length} {u : List Char} (hc : s.drop c.pos = c.rest)
    (h : c.rest = u ++ d.rest) : s.drop d.pos = d.rest := by
  rw [pos_of_rest_eq h, ← List.drop_drop, hc, h, List.drop_left]

end Cursor

namespace Pattern

variable {n : Nat}

/-- Whether a pattern occurs in a subject is whether it has a leftmost-first match there, for a
pattern that its compiled program searches. -/
theorem occursIn_eq_leftmost {p : Pattern} (hp : p.Progressive) (hn : p.groupNames.Nodup)
    (s : List Char) : p.occursIn s = (p.leftmost s).isSome := by
  have h := Program.find?_agrees hp hn s
  unfold occursIn
  generalize p.find? s = a at h ⊢
  generalize p.leftmost s = b at h ⊢
  cases h <;> rfl

/-- A lazy repetition of a class followed by `K` tries the shorter runs first: the way that stops
comes before the ways that go on past an admitted character. -/
theorem flatMap_ways_lazy_chars {α : Type} (cls : CharClass) (c : Cursor n) (caps : Captures)
    (K : Cursor n × Captures → List α) :
    ((Pattern.star false (.chars cls)).ways c caps).flatMap K =
      K (c, caps) ++ match c.rest with
        | x :: _ =>
          if cls.admits x then ((Pattern.star false (.chars cls)).ways (c.skip 1) caps).flatMap K
          else []
        | [] => [] := by
  rw [ways_star, ways_chars]
  cases hc : c.rest with
  | nil => simp
  | cons x r =>
    have hlen : 0 < c.rest.length := by simp [hc]
    by_cases hx : cls.admits x = true <;> simp [hx, hlen]

/-- A literal has no way where a character stands that is no case of its first character. -/
theorem ways_literal_eq_nil_of_head {s : String} {x y : Char} (hs : s.toList.head? = some x)
    (hy : y ∉ Unicode.foldOrbit x) {c : Cursor n} (hc : c.rest.head? = some y)
    (caps : Captures) : (literal s).ways c caps = [] := by
  obtain ⟨s', hs'⟩ : ∃ s', s.toList = x :: s' := by
    cases h : s.toList with
    | nil => simp [h] at hs
    | cons z s' => exact ⟨s', by simpa [h] using hs⟩
  obtain ⟨r, hr⟩ : ∃ r, c.rest = y :: r := by
    cases h : c.rest with
    | nil => simp [h] at hc
    | cons z r => exact ⟨r, by simpa [h] using hc⟩
  rw [ways_literal, hs', hr]
  simp [hy]

/-- After a lazy run of a class, a literal whose first character has no other case and is not
in the class is read first at the first place where it stands. -/
theorem head?_lazy_chars_literal {cls : CharClass} {s : String} {x : Char}
    (hs : s.toList.head? = some x) (hself : Unicode.foldPrefix s.toList s.toList = true)
    (hx : Unicode.Caseless x) (hcls : cls.admits x = false) (F : Nat → Captures → Captures)
    (u : List Char) (hu : ∀ y ∈ u, cls.admits y = true) {r : List Char} {c : Cursor n}
    (hc : c.rest = u ++ s.toList ++ r) (caps : Captures) :
    (((Pattern.star false (.chars cls)).ways c caps).flatMap
      (fun w => (literal s).ways w.1 (F w.1.pos w.2))).head? =
        some ((c.skip u.length).skip s.length, F (c.pos + u.length) caps) := by
  -- induction on the characters before the literal: at each the literal fails and the run goes on
  induction u generalizing c with
  | nil =>
    rw [flatMap_ways_lazy_chars, ways_literal_self hself (by simpa using hc)]
    simp
  | cons y u ih =>
    have hy : cls.admits y = true := hu y List.mem_cons_self
    have hyx : y ∉ Unicode.foldOrbit x := by
      rw [show Unicode.foldOrbit x = [x] from hx, List.mem_singleton]
      rintro rfl
      simp [hcls] at hy
    have hlit : (literal s).ways c (F c.pos caps) = [] :=
      ways_literal_eq_nil_of_head hs hyx (by simp [hc]) _
    have hc' : (c.skip 1).rest = u ++ s.toList ++ r := by simp [hc]
    have hpos : (c.skip 1).pos = c.pos + 1 := by simp [hc]
    rw [flatMap_ways_lazy_chars, hlit, List.nil_append, hc]
    simp only [List.cons_append, hy, if_true]
    rw [ih (fun z hz => hu z (List.mem_cons_of_mem y hz)) hc', hpos]
    simp only [Cursor.skip_skip, List.length_cons]
    rw [show 1 + u.length + s.length = u.length + 1 + s.length by omega,
      show c.pos + 1 + u.length = c.pos + (u.length + 1) by omega]

end Pattern

namespace ForeignKeyLine

open Render

/-- The referenced table as written: the quoted schema and a dot when there is one, then the
quoted table. -/
def tableText (q : Quoting) (l : ForeignKeyLine) : String :=
  optionalPart "" (l.schema.map fun s => q.quote s ++ ".") ++ q.quote l.table

/-- What a foreign key line writes after its referenced columns: the three clauses and the final
comma. -/
def tailText (l : ForeignKeyLine) : String :=
  optionalPart " MATCH " l.matchWord ++ optionalPart " ON DELETE " l.onDelete ++
    optionalPart " ON UPDATE " l.onUpdate ++ Render.finalComma l.finalComma

/-- A foreign key line as characters: the head, the local columns, the referenced table, the
referenced columns and what follows them. -/
theorem text_toList (q : Quoting) (l : ForeignKeyLine) :
    (l.text q).toList = "  CONSTRAINT ".toList ++ (q.quote l.name).toList ++
      ' ' :: ("FOREIGN KEY (".toList ++ (q.nameList l.localColumns).toList ++
        ") REFERENCES ".toList ++ (l.tableText q).toList ++
          ' ' :: '(' :: ((q.nameList l.foreignColumns).toList ++ ')' :: l.tailText.toList)) := by
  have h₁ : " FOREIGN KEY (".toList = ' ' :: "FOREIGN KEY (".toList := rfl
  have h₂ : " (".toList = [' ', '('] := by simp
  have h₃ : ")".toList = [')'] := by simp
  unfold text tableText tailText
  simp only [String.toList_append, h₁, h₂, h₃, List.append_assoc, List.cons_append,
    List.nil_append]

end ForeignKeyLine

namespace Grammar

variable {n : Nat}

/-- Escaping changes nothing in a name without the final quote character. -/
theorem escapedName_of_not_mem {f : Char} {name : String} (h : f ∉ name.toList) :
    escapedName f name = name.toList := by
  unfold escapedName
  generalize name.toList = l at h ⊢
  induction l with
  | nil => rfl
  | cons x l ih =>
    have hx : x ≠ f := fun hx => h (hx ▸ List.mem_cons_self)
    simp [hx, ih (fun hl => h (List.mem_cons_of_mem x hl))]

section OneChar

variable {q : Quoting} {i f : Char} (hq : q.OneChar i f)
include hq

/-- A quoted name without the final quote character is its quotes around its characters. -/
theorem quote_toList_plain {name : String} (hf : f ∉ name.toList) :
    (q.quote name).toList = i :: name.toList ++ [f] := by
  rw [quote_toList hq, escapedName_of_not_mem hf]

/-- A quoted name without the final quote character is read first whole by a plain quoted name:
the initial quote, the longest run of characters other than the final quote, the final quote. -/
theorem head?_ways_plainQuoted {name : String} (hn : name ≠ "") (hf : f ∉ name.toList)
    {r : List Char} {c : Cursor n} (hc : c.rest = (q.quote name).toList ++ r) (caps : Captures) :
    ((plainQuoted q).ways c caps).head? = some (c.skip (q.quote name).length, caps) := by
  have hc' : c.rest = i :: (name.toList ++ f :: r) := by
    rw [hc, quote_toList_plain hq hf]
    simp
  have hcls : ∀ y, (CharClass.noneOf (q.final.toList.map ClassItem.char)).admits y = true ↔ y ≠ f := by
    rw [hq.final_eq]
    exact admits_noneOf_caseless hq.final_caseless
  have hopen : ((literal q.initial).ways c caps).head? = some (c.skip 1, caps) := by
    rw [ways_literal_caseless hq.initial_eq hq.initial_caseless hc' caps]
    rfl
  have hrest₁ : (c.skip 1).rest = name.toList ++ f :: r := by simp [hc']
  have hrun : ((plus (.chars (CharClass.noneOf (q.final.toList.map ClassItem.char)))).ways
      (c.skip 1) caps).head? = some ((c.skip 1).skip name.toList.length, caps) :=
    head?_ways_plus_chars (by simpa using hn) (fun y hy => (hcls y).2 fun h => hf (h ▸ hy))
      (fun y hy => by
        obtain rfl : f = y := by simpa using hy
        simpa using (hcls f).not)
      hrest₁ caps
  have hrest₂ : ((c.skip 1).skip name.toList.length).rest = f :: r := by
    rw [Cursor.rest_skip, hrest₁, List.drop_left]
  have hclose : ((literal q.final).ways ((c.skip 1).skip name.toList.length) caps).head? =
      some (((c.skip 1).skip name.toList.length).skip 1, caps) := by
    rw [ways_literal_caseless hq.final_eq hq.final_caseless hrest₂ caps]
    rfl
  rw [plainQuoted, noneOf, head?_ways_append_of_head? (head?_ways_append_of_head? hopen hrun) hclose]
  congr 2
  refine Cursor.ext_rest ?_
  rw [Cursor.rest_skip, hrest₂, Cursor.rest_skip, hc, ← String.length_toList, List.drop_left]
  rfl

/-- The referenced table of a foreign key line, its schema and table names free of the final
quote character, is read first whole by the table group, before a space. -/
theorem head?_ways_tableGroup {l : ForeignKeyLine}
    (hschema : ∀ s ∈ l.schema, s ≠ "" ∧ f ∉ s.toList) (htable : l.table ≠ "" ∧ f ∉ l.table.toList)
    {r : List Char} {c : Cursor n} (hc : c.rest = (l.tableText q).toList ++ ' ' :: r)
    (caps : Captures) :
    ((Pattern.group "table" (plainQuoted q ++ opt (literal "." ++ plainQuoted q))).ways c
      caps).head? = some (c.skip (l.tableText q).length,
        ("table", c.pos, c.pos + (l.tableText q).length) :: caps) := by
  have hlen : (l.tableText q).length ≤ c.rest.length := by
    rw [hc, ← String.length_toList]
    simp
  have hend : (c.skip (l.tableText q).length).rest = ' ' :: r := by
    rw [Cursor.rest_skip, hc, ← String.length_toList, List.drop_left]
  have hdot : Unicode.Caseless '.' := Unicode.caseless_punctuation (by decide)
  -- the schema, when written, is read by the first quoted name and the table by the optional
  -- second one, which is skipped otherwise: a space stands where its dot would
  have hbody : ((plainQuoted q ++ opt (literal "." ++ plainQuoted q)).ways c caps).head? =
      some (c.skip (l.tableText q).length, caps) := by
    cases hs : l.schema with
    | none =>
      have hc' : c.rest = (q.quote l.table).toList ++ ' ' :: r := by
        simpa [ForeignKeyLine.tableText, hs, Render.optionalPart] using hc
      have hfirst := head?_ways_plainQuoted hq htable.1 htable.2 hc' caps
      have hd : (c.skip (q.quote l.table).length).rest = ' ' :: r := by
        rw [Cursor.rest_skip, hc', ← String.length_toList, List.drop_left]
      have hskip : (literal "." ++ plainQuoted q).ways (c.skip (q.quote l.table).length) caps = [] :=
        ways_append_eq_nil _ (ways_literal_caseless_of_ne rfl hdot (by rw [hd]; simp) caps)
      rw [head?_ways_append_of_head? hfirst (head?_ways_opt_of_nil hskip)]
      simp [ForeignKeyLine.tableText, hs, Render.optionalPart]
    | some sch =>
      obtain ⟨hsn, hsf⟩ := hschema sch hs
      have hc' : c.rest = (q.quote sch).toList ++ '.' :: ((q.quote l.table).toList ++ ' ' :: r) := by
        rw [hc]
        simp [ForeignKeyLine.tableText, hs, Render.optionalPart]
      have hfirst := head?_ways_plainQuoted hq hsn hsf hc' caps
      have hd : (c.skip (q.quote sch).length).rest = '.' :: ((q.quote l.table).toList ++ ' ' :: r) := by
        rw [Cursor.rest_skip, hc', ← String.length_toList, List.drop_left]
      have hdotWay : ((literal ".").ways (c.skip (q.quote sch).length) caps).head? =
          some ((c.skip (q.quote sch).length).skip 1, caps) := by
        rw [ways_literal_caseless rfl hdot hd caps]
        rfl
      have hsecond := head?_ways_plainQuoted hq htable.1 htable.2
        (c := (c.skip (q.quote sch).length).skip 1) (r := ' ' :: r) (by rw [Cursor.rest_skip, hd]; rfl)
        caps
      rw [head?_ways_append_of_head? hfirst
        (head?_ways_opt_of_head? (head?_ways_append_of_head? hdotWay hsecond))]
      congr 2
      refine Cursor.ext_rest ?_
      rw [hend, Cursor.rest_skip, Cursor.rest_skip, hd, List.drop_one, List.tail_cons,
        ← String.length_toList, List.drop_left]
  rw [head?_ways_group, hbody, Option.map_some, pos_skip_of_le hlen]

end OneChar

/-! ## Column lists -/

/-- A group of a column list, before a literal that starts with a closing parenthesis, reads
first up to the first closing parenthesis. -/
theorem head?_group_columnList (name : String) {s : String} (hs : s.toList.head? = some ')')
    (hself : Unicode.foldPrefix s.toList s.toList = true) {u r : List Char} (hu : u ≠ [])
    (hu' : ')' ∉ u) {c : Cursor n} (hc : c.rest = u ++ s.toList ++ r) (caps : Captures) :
    ((Pattern.group name columnList ++ literal s).ways c caps).head? =
      some ((c.skip u.length).skip s.length, (name, c.pos, c.pos + u.length) :: caps) := by
  obtain ⟨x, u', rfl⟩ := List.exists_cons_of_ne_nil hu
  have hcase : Unicode.Caseless ')' := Unicode.caseless_punctuation (by decide)
  have hadm : ∀ y ∈ x :: u', (CharClass.noneOf [.char ')']).admits y = true := fun y hy =>
    (admits_noneOf_caseless hcase y).2 fun h => hu' (h ▸ hy)
  have hfirst : (noneOf [.char ')']).ways c caps = [(c.skip 1, caps)] := by
    rw [noneOf, ways_chars, hc]
    simp [hadm x List.mem_cons_self]
  have hrun := head?_lazy_chars_literal hs hself hcase
    (by simpa using (admits_noneOf_caseless hcase ')').not) (fun p caps => (name, c.pos, p) :: caps)
    u' (fun y hy => hadm y (List.mem_cons_of_mem x hy)) (r := r) (c := c.skip 1) (by simp [hc]) caps
  have hpos : (c.skip 1).pos = c.pos + 1 := by simp [hc]
  rw [ways_append, ways_group, List.flatMap_map, columnList, plusLazy, ways_append,
    List.flatMap_assoc, hfirst, List.flatMap_singleton]
  -- the lazy run itself starts after the first character
  rw [noneOf, hrun, hpos]
  simp only [Cursor.skip_skip, List.length_cons]
  rw [show 1 + u'.length + s.length = u'.length + 1 + s.length by omega,
    show c.pos + 1 + u'.length = c.pos + (u'.length + 1) by omega]

/-! ## The referential actions -/

/-- The four actions that the foreign key grammar reads, as it spells them. -/
def actionWords : List String := ["RESTRICT", "CASCADE", "SET NULL", "NO ACTION"]

theorem referentialAction_eq :
    referentialAction = .alt (literal "RESTRICT")
      (.alt (literal "CASCADE") (.alt (literal "SET NULL") (literal "NO ACTION"))) := rfl

/-- Each of the four actions is read first by the action grammar, as written. -/
theorem head?_ways_referentialAction {a : String} (ha : a ∈ actionWords) {r : List Char}
    {c : Cursor n} (hc : c.rest = a.toList ++ r) (caps : Captures) :
    (referentialAction.ways c caps).head? = some (c.skip a.length, caps) := by
  simp only [actionWords, List.mem_cons, List.not_mem_nil, or_false] at ha
  have hhead : c.rest.head? = a.toList.head? := by
    rw [hc, List.head?_append_of_ne_nil]
    rcases ha with rfl | rfl | rfl | rfl <;> decide
  have hread : (literal a).ways c caps = [(c.skip a.length, caps)] :=
    ways_literal_self
      (Unicode.foldPrefix_grammarWord (by rcases ha with rfl | rfl | rfl | rfl <;> decide)) hc caps
  -- the actions start with four different letters, so the ones before `a` have no way
  rw [referentialAction_eq]
  rcases ha with rfl | rfl | rfl | rfl
  · rw [ways_alt, hread]
    rfl
  · have hC : c.rest.head? = some 'C' := hhead.trans (by decide)
    rw [ways_alt, ways_literal_eq_nil_of_head (x := 'R') (by decide) (Unicode.not_mem_foldOrbit_grammar (by decide) (by decide) (by decide)) hC,
      ways_alt, hread]
    rfl
  · have hS : c.rest.head? = some 'S' := hhead.trans (by decide)
    rw [ways_alt, ways_literal_eq_nil_of_head (x := 'R') (by decide) (Unicode.not_mem_foldOrbit_grammar (by decide) (by decide) (by decide)) hS,
      ways_alt, ways_literal_eq_nil_of_head (x := 'C') (by decide) (Unicode.not_mem_foldOrbit_grammar (by decide) (by decide) (by decide)) hS,
      ways_alt, hread]
    rfl
  · have hN : c.rest.head? = some 'N' := hhead.trans (by decide)
    rw [ways_alt, ways_literal_eq_nil_of_head (x := 'R') (by decide) (Unicode.not_mem_foldOrbit_grammar (by decide) (by decide) (by decide)) hN,
      ways_alt, ways_literal_eq_nil_of_head (x := 'C') (by decide) (Unicode.not_mem_foldOrbit_grammar (by decide) (by decide) (by decide)) hN,
      ways_alt, ways_literal_eq_nil_of_head (x := 'S') (by decide) (Unicode.not_mem_foldOrbit_grammar (by decide) (by decide) (by decide)) hN, hread]
    rfl

/-- `SET DEFAULT` is none of the actions that the grammar reads. -/
theorem ways_referentialAction_setDefault {r : List Char} {c : Cursor n}
    (hc : c.rest = "SET DEFAULT".toList ++ r) (caps : Captures) : referentialAction.ways c caps = [] := by
  have hhead : c.rest.head? = some 'S' := by
    rw [hc]
    rfl
  have hnull : Unicode.foldPrefix "SET NULL".toList c.rest = false := by
    rw [hc, Unicode.foldPrefix_append_of_le r (by decide)]
    exact Unicode.foldPrefix_eq_false_grammar (by decide) (by decide) (by decide)
  rw [referentialAction_eq, ways_alt, ways_alt, ways_alt,
    ways_literal_eq_nil_of_head (x := 'R') (by decide) (Unicode.not_mem_foldOrbit_grammar (by decide) (by decide) (by decide)) hhead,
    ways_literal_eq_nil_of_head (x := 'C') (by decide) (Unicode.not_mem_foldOrbit_grammar (by decide) (by decide) (by decide)) hhead, ways_literal, hnull,
    ways_literal_eq_nil_of_head (x := 'N') (by decide) (Unicode.not_mem_foldOrbit_grammar (by decide) (by decide) (by decide)) hhead]
  rfl

theorem referentialAction_ofText_setDefault : ReferentialAction.ofText? "SET DEFAULT" = none := by
  decide +kernel

/-! ## The clauses after the referenced columns -/

/-- The texts before which a clause led by spaces and the keyword `kw` has no way: those that
do not start with a space, and those that start with one space before a text that `kw` does not
start. -/
def NoClause (kw : String) (t : List Char) : Prop :=
  t.head? ≠ some ' ' ∨ ∃ t', t = ' ' :: t' ∧ t'.head? ≠ some ' ' ∧ Unicode.foldPrefix kw.toList t' = false

theorem ways_spaces_literal_eq_nil {kw : String} {c : Cursor n} (hc : NoClause kw c.rest)
    (caps : Captures) : (spaces ++ literal kw).ways c caps = [] := by
  rcases hc with hc | ⟨t, hc, ht, hkw⟩
  · exact ways_append_eq_nil _ (ways_spaces_eq_nil hc caps)
  · refine (spaces_oneWay ht hc caps).append_eq_nil ?_
    rw [ways_literal, Cursor.rest_skip, hc, List.drop_one, List.tail_cons, hkw]
    rfl

theorem noClause_finalComma (kw : String) (comma : Bool) :
    NoClause kw (Render.finalComma comma).toList :=
  .inl (by cases comma <;> simp [Render.finalComma])

/-- A written clause whose own keyword `kw` does not start is no clause of `kw`, and an absent
one leaves the text after it. -/
theorem noClause_optionalPart {kw lead : String} {body : List Char}
    (hlead : lead.toList = ' ' :: body) (hne : body ≠ []) (hbody : body.head? ≠ some ' ')
    (hkw : ∀ r, Unicode.foldPrefix kw.toList (body ++ r) = false) (a : Option String)
    {t : List Char} (ht : NoClause kw t) : NoClause kw ((Render.optionalPart lead a).toList ++ t) := by
  cases a with
  | none => simpa [Render.optionalPart] using ht
  | some x =>
    refine .inr ⟨body ++ (x.toList ++ t), by simp [Render.optionalPart, hlead], ?_, hkw _⟩
    rwa [List.head?_append_of_ne_nil _ hne]

/-- The keywords of the three clauses differ where the clauses after them start. -/
theorem clauseKeywords_differ (r : List Char) :
    Unicode.foldPrefix "MATCH ".toList ("ON DELETE ".toList ++ r) = false ∧
      Unicode.foldPrefix "MATCH ".toList ("ON UPDATE ".toList ++ r) = false ∧
      Unicode.foldPrefix "ON DELETE ".toList ("ON UPDATE ".toList ++ r) = false ∧
      Unicode.foldPrefix "ON UPDATE ".toList ("ON DELETE ".toList ++ r) = false := by
  rw [Unicode.foldPrefix_append_of_le r
      (show "MATCH ".toList.length ≤ "ON DELETE ".toList.length by decide),
    Unicode.foldPrefix_append_of_le r
      (show "MATCH ".toList.length ≤ "ON UPDATE ".toList.length by decide),
    Unicode.foldPrefix_append_of_le r
      (show "ON DELETE ".toList.length ≤ "ON UPDATE ".toList.length by decide),
    Unicode.foldPrefix_append_of_le r
      (show "ON UPDATE ".toList.length ≤ "ON DELETE ".toList.length by decide)]
  exact ⟨Unicode.foldPrefix_eq_false_grammar (by decide) (by decide) (by decide),
    Unicode.foldPrefix_eq_false_grammar (by decide) (by decide) (by decide),
    Unicode.foldPrefix_eq_false_grammar (by decide) (by decide) (by decide),
    Unicode.foldPrefix_eq_false_grammar (by decide) (by decide) (by decide)⟩

/-- The group that the `MATCH` clause records when written at position `p`: the keyword and
the word, after the space. -/
def matchCaptures (w : Option String) (p : Nat) : Captures :=
  match w with
  | some x => [("match", p + 1, p + 7 + x.length)]
  | none => []

/-- The `MATCH` clause is read first with its word when written, before a text that does not go
on with word characters, and skipped when it is not written and no `MATCH` follows the spaces
there. -/
theorem head?_ways_matchClause (w : Option String)
    (hw : ∀ x ∈ w, x ≠ "" ∧ ∀ y ∈ x.toList, Unicode.word.contains y = true) {t : List Char}
    (ht : ∀ y ∈ t.head?, Unicode.word.contains y = false) {c : Cursor n}
    (hskip : w = none → NoClause "MATCH " c.rest)
    (hc : c.rest = (Render.optionalPart " MATCH " w).toList ++ t) (caps : Captures) :
    ((spaces ++ .group "match" (literal "MATCH " ++ word)).opt.ways c caps).head? =
      some (c.skip (Render.optionalPart " MATCH " w).length, matchCaptures w c.pos ++ caps) := by
  cases w with
  | none =>
    -- no way once the spaces are read, so none with the group either
    have hnil : (spaces ++ .group "match" (literal "MATCH " ++ word)).ways c caps = [] := by
      have h := ways_spaces_literal_eq_nil (hskip rfl) caps
      rw [ways_append, List.flatMap_eq_nil_iff] at h ⊢
      intro v hv
      rw [ways_group, ways_append, h v hv]
      rfl
    rw [head?_ways_opt_of_nil hnil]
    simp [Render.optionalPart, matchCaptures]
  | some x =>
    obtain ⟨hx, hxw⟩ := hw x rfl
    have hc' : c.rest = ' ' :: ("MATCH ".toList ++ (x.toList ++ t)) := by
      rw [hc]
      simp [Render.optionalPart]
    have hsp := spaces_oneWay (by simp) hc' caps
    have hlit : ((literal "MATCH ").ways (c.skip 1) caps).head? = some ((c.skip 1).skip 6, caps) := by
      rw [ways_literal_self (Unicode.foldPrefix_grammarWord (by decide)) (r := x.toList ++ t) (by simp [hc'])]
      rfl
    have hrest : ((c.skip 1).skip 6).rest = x.toList ++ t := by
      rw [Cursor.rest_skip, Cursor.rest_skip, hc', List.drop_one, List.tail_cons,
        show (6 : Nat) = "MATCH ".toList.length by rfl, List.drop_left]
    have hword := head?_ways_word_value (by simpa using hx) hxw ht hrest caps
    have hlen : 7 + x.length ≤ c.rest.length := by
      rw [hc', ← String.length_toList]
      simp
      omega
    rw [head?_ways_opt_of_head? (by
      rw [hsp.head?_append, head?_ways_group, head?_ways_append_of_head? hlit hword]
      rfl)]
    have hlen' : (Render.optionalPart " MATCH " (some x)).length = 7 + x.length := by
      rw [Render.optionalPart, String.length_append, show " MATCH ".length = 7 from rfl]
    have hend : 1 + (6 + x.toList.length) = 7 + x.length := by
      rw [String.length_toList]
      omega
    rw [hlen', Cursor.skip_skip, Cursor.skip_skip, hend]
    simp only [matchCaptures, List.singleton_append, pos_skip_of_le hlen,
      pos_skip_of_le (show 1 ≤ c.rest.length by omega), Nat.add_assoc]

/-- How much of the text an action clause reads: all of it when it names one of the four
actions, nothing otherwise. -/
def actionLength (kw : String) (a : Option String) : Nat :=
  match a with
  | some x => if x ∈ actionWords then 1 + kw.length + x.length else 0
  | none => 0

/-- The group that an action clause written at position `p` records, when it names one of the
four actions. -/
def actionCaptures (g kw : String) (a : Option String) (p : Nat) : Captures :=
  match a with
  | some x => if x ∈ actionWords then [(g, p + 1 + kw.length, p + 1 + kw.length + x.length)] else []
  | none => []

/-- An action clause is read first with its action when it names one of the four, and skipped
when it names `SET DEFAULT`, or when it is not written and the keyword does not follow the spaces
there. -/
theorem head?_ways_actionClause {lead kw : String} (g : String)
    (hlead : lead.toList = ' ' :: kw.toList) (hkw : Unicode.foldPrefix kw.toList kw.toList = true)
    (hkw' : kw.toList.head? ≠ some ' ') (hkne : kw.toList ≠ []) (a : Option String)
    (ha : ∀ x ∈ a, x ∈ actionWords ∨ x = "SET DEFAULT") {t : List Char} {c : Cursor n}
    (hskip : a = none → NoClause kw c.rest)
    (hc : c.rest = (Render.optionalPart lead a).toList ++ t) (caps : Captures) :
    ((spaces ++ literal kw ++ .group g referentialAction).opt.ways c caps).head? =
      some (c.skip (actionLength kw a), actionCaptures g kw a c.pos ++ caps) := by
  cases a with
  | none =>
    rw [head?_ways_opt_of_nil (ways_append_eq_nil _ (ways_spaces_literal_eq_nil (hskip rfl) caps))]
    simp [actionLength, actionCaptures]
  | some x =>
    have hc' : c.rest = ' ' :: (kw.toList ++ (x.toList ++ t)) := by
      rw [hc]
      simp [Render.optionalPart, hlead]
    have hsp := spaces_oneWay (by rwa [List.head?_append_of_ne_nil _ hkne]) hc' caps
    have hkwWay : (literal kw).OneWay (c.skip 1) caps ((c.skip 1).skip kw.length, caps) :=
      OneWay.of_ways_eq (ways_literal_self hkw (r := x.toList ++ t) (by simp [hc']) caps)
    have hrest : ((c.skip 1).skip kw.length).rest = x.toList ++ t := by
      rw [Cursor.rest_skip, Cursor.rest_skip, hc', List.drop_one, List.tail_cons,
        ← String.length_toList, List.drop_left]
    rcases ha x rfl with hx | hx
    · -- one of the four actions: the clause is read with it
      have hlen : 1 + kw.length + x.length ≤ c.rest.length := by
        rw [hc', ← String.length_toList, ← String.length_toList]
        simp
        omega
      rw [head?_ways_opt_of_head? (by
        rw [(hsp.seq hkwWay).head?_append, head?_ways_group, head?_ways_referentialAction hx hrest]
        rfl)]
      simp only [actionLength, actionCaptures, hx, if_true, Cursor.skip_skip]
      rw [pos_skip_of_le (by omega), pos_skip_of_le (by omega)]
      simp only [List.singleton_append, Nat.add_assoc]
    · -- `SET DEFAULT`: the clause is skipped
      subst hx
      have hnil : ((spaces ++ literal kw) ++ .group g referentialAction).ways c caps = [] :=
        (hsp.seq hkwWay).append_eq_nil (by rw [ways_group, ways_referentialAction_setDefault hrest]; rfl)
      rw [head?_ways_opt_of_nil hnil]
      simp [actionLength, actionCaptures, actionWords]

/-- An action clause reads no more than it writes. -/
theorem actionLength_le {lead kw : String} (hlead : lead.toList = ' ' :: kw.toList)
    (a : Option String) : actionLength kw a ≤ (Render.optionalPart lead a).length := by
  cases a with
  | none => simp [actionLength]
  | some x =>
    have hlen : lead.length = 1 + kw.length := by
      rw [← String.length_toList, hlead, List.length_cons, String.length_toList, Nat.add_comm]
    simp only [actionLength, Render.optionalPart, String.length_append, hlen]
    split <;> omega

/-- After the referenced columns only a space, a comma or the end can come. -/
theorem head?_clauses (a₁ a₂ : Option String) (comma : Bool) :
    ∀ y ∈ ((Render.optionalPart " ON DELETE " a₁).toList ++
      ((Render.optionalPart " ON UPDATE " a₂).toList ++ (Render.finalComma comma).toList)).head?,
        y = ' ' ∨ y = ',' := by
  cases a₁ <;> cases a₂ <;> cases comma <;> simp [Render.optionalPart, Render.finalComma]

end Grammar

namespace ForeignKeyLine

/-- A foreign key line that reads back as written: a name; non-empty column lists of names that
are not empty and hold no closing parenthesis; schema and table names that are not empty and
hold no final quote character; a word after `MATCH`; actions among the four that the grammar
reads and `SET DEFAULT`; and no `ON UPDATE` after `ON DELETE SET DEFAULT`. -/
structure Readable (q : Quoting) (l : ForeignKeyLine) : Prop where
  name_ne : l.name ≠ ""
  local_ne : l.localColumns ≠ []
  local_names : ∀ c ∈ l.localColumns, c ≠ "" ∧ ')' ∉ c.toList
  schema_plain : ∀ s ∈ l.schema, s ≠ "" ∧ ∀ x ∈ q.final.toList, x ∉ s.toList
  table_plain : l.table ≠ "" ∧ ∀ x ∈ q.final.toList, x ∉ l.table.toList
  foreign_ne : l.foreignColumns ≠ []
  foreign_names : ∀ c ∈ l.foreignColumns, c ≠ "" ∧ ')' ∉ c.toList
  match_word : ∀ w ∈ l.matchWord, w ≠ "" ∧ ∀ x ∈ w.toList, Unicode.word.contains x = true
  onDelete_mem : ∀ a ∈ l.onDelete, a ∈ Grammar.actionWords ∨ a = "SET DEFAULT"
  onUpdate_mem : ∀ a ∈ l.onUpdate, a ∈ Grammar.actionWords ∨ a = "SET DEFAULT"
  no_update_after_default : l.onDelete = some "SET DEFAULT" → l.onUpdate = none

theorem tailText_toList (l : ForeignKeyLine) :
    l.tailText.toList = (Render.optionalPart " MATCH " l.matchWord).toList ++
      ((Render.optionalPart " ON DELETE " l.onDelete).toList ++
        ((Render.optionalPart " ON UPDATE " l.onUpdate).toList ++
          (Render.finalComma l.finalComma).toList)) := by
  simp [tailText]

end ForeignKeyLine

namespace Grammar

variable {n : Nat}

/-- Where the update clause of a readable line is tried: after the delete clause when that is
absent or names one of the four actions, and where the delete clause starts when it names
`SET DEFAULT`, which no update clause follows. Either way the update clause is written there,
before a text that holds no update clause. -/
theorem updateClause_start {q : Quoting} {l : ForeignKeyLine} (hl : l.Readable q) :
    ∃ t₂, ((Render.optionalPart " ON DELETE " l.onDelete).toList ++
        ((Render.optionalPart " ON UPDATE " l.onUpdate).toList ++
          (Render.finalComma l.finalComma).toList)).drop (actionLength "ON DELETE " l.onDelete) =
      (Render.optionalPart " ON UPDATE " l.onUpdate).toList ++ t₂ ∧ NoClause "ON UPDATE " t₂ := by
  have hcomma := noClause_finalComma "ON UPDATE " l.finalComma
  cases hdel : l.onDelete with
  | none => exact ⟨_, by simp [actionLength, Render.optionalPart], hcomma⟩
  | some x =>
    by_cases hx : x ∈ actionWords
    · refine ⟨_, ?_, hcomma⟩
      have hlen : actionLength "ON DELETE " (some x) =
          (Render.optionalPart " ON DELETE " (some x)).toList.length := by
        simp only [actionLength, hx, if_true, Render.optionalPart, String.toList_append,
          List.length_append, String.length_toList]
        rfl
      rw [hlen, List.drop_left]
    · have hsd : x = "SET DEFAULT" := (hl.onDelete_mem x hdel).resolve_left hx
      have hnu : l.onUpdate = none := hl.no_update_after_default (by rw [hdel, hsd])
      refine ⟨(Render.optionalPart " ON DELETE " (some x)).toList ++
        (Render.finalComma l.finalComma).toList, ?_, ?_⟩
      · simp [actionLength, hx, hnu, Render.optionalPart]
      · exact noClause_optionalPart rfl (by simp) (by decide)
          (fun r => (clauseKeywords_differ r).2.2.2) _ hcomma

/-- The groups that the clauses after the referenced columns record, for clauses that start at
position `p`. -/
def tailCaptures (l : ForeignKeyLine) (p : Nat) : Captures :=
  actionCaptures "onupdate" "ON UPDATE " l.onUpdate
      (p + (Render.optionalPart " MATCH " l.matchWord).length +
        actionLength "ON DELETE " l.onDelete) ++
    actionCaptures "ondelete" "ON DELETE " l.onDelete
      (p + (Render.optionalPart " MATCH " l.matchWord).length) ++
    matchCaptures l.matchWord p

/-- The three clauses after the referenced columns of a readable line are read first as
written, whatever pattern `P` came before: the `MATCH` clause, the delete clause and the update
clause, the last two recording their actions when they are among the four. -/
theorem head?_ways_clauses {q : Quoting} {l : ForeignKeyLine} (hl : l.Readable q) {P : Pattern}
    {c₀ c : Cursor n} {caps₀ caps : Captures} (hP : (P.ways c₀ caps₀).head? = some (c, caps))
    (hc : c.rest = l.tailText.toList) :
    ∃ e, ((P ++ (spaces ++ .group "match" (literal "MATCH " ++ word)).opt ++
      (spaces ++ literal "ON DELETE " ++ .group "ondelete" referentialAction).opt ++
      (spaces ++ literal "ON UPDATE " ++ .group "onupdate" referentialAction).opt).ways c₀
        caps₀).head? = some (e, tailCaptures l c.pos ++ caps) := by
  have hdl : " ON DELETE ".toList = ' ' :: "ON DELETE ".toList := rfl
  have hul : " ON UPDATE ".toList = ' ' :: "ON UPDATE ".toList := rfl
  have hdne : "ON DELETE ".toList ≠ [] := by simp
  have hune : "ON UPDATE ".toList ≠ [] := by simp
  have hdsp : "ON DELETE ".toList.head? ≠ some ' ' := by decide
  have husp : "ON UPDATE ".toList.head? ≠ some ' ' := by decide
  rw [ForeignKeyLine.tailText_toList] at hc
  -- the `MATCH` clause, skipped before a space and `ON` or before the end
  have hm := head?_ways_matchClause l.matchWord hl.match_word
    (fun y hy => by
      rcases head?_clauses l.onDelete l.onUpdate l.finalComma y hy with rfl | rfl
      · exact Unicode.word_space
      · rw [Unicode.word_grammar (by decide)]
        decide)
    (fun hw => by
      rw [hc, hw]
      exact noClause_optionalPart hdl hdne hdsp (fun r => (clauseKeywords_differ r).1) _
        (noClause_optionalPart hul hune husp (fun r => (clauseKeywords_differ r).2.1) _
          (noClause_finalComma _ _)))
    hc caps
  -- the delete clause, skipped before `ON UPDATE` or before the end
  have hc₁ : (c.skip (Render.optionalPart " MATCH " l.matchWord).length).rest =
      (Render.optionalPart " ON DELETE " l.onDelete).toList ++
        ((Render.optionalPart " ON UPDATE " l.onUpdate).toList ++
          (Render.finalComma l.finalComma).toList) := by
    rw [Cursor.rest_skip, hc, ← String.length_toList, List.drop_left]
  have hd := head?_ways_actionClause "ondelete" hdl (Unicode.foldPrefix_grammarWord (by decide)) hdsp hdne l.onDelete
    hl.onDelete_mem
    (fun h => by
      rw [hc₁, h]
      exact noClause_optionalPart hul hune husp (fun r => (clauseKeywords_differ r).2.2.1) _
        (noClause_finalComma _ _))
    hc₁ (matchCaptures l.matchWord c.pos ++ caps)
  -- the update clause, tried after the delete clause when that was read, and where it starts
  -- when it names `SET DEFAULT`, which no update clause follows
  obtain ⟨t₂, ht₂, hno⟩ := updateClause_start hl
  have hc₂ : ((c.skip (Render.optionalPart " MATCH " l.matchWord).length).skip
      (actionLength "ON DELETE " l.onDelete)).rest =
        (Render.optionalPart " ON UPDATE " l.onUpdate).toList ++ t₂ := by
    rw [Cursor.rest_skip, hc₁, ht₂]
  have hu := head?_ways_actionClause "onupdate" hul (Unicode.foldPrefix_grammarWord (by decide)) husp hune l.onUpdate
    hl.onUpdate_mem (fun h => by rw [hc₂, h]; simpa [Render.optionalPart] using hno) hc₂
    (actionCaptures "ondelete" "ON DELETE " l.onDelete
      (c.skip (Render.optionalPart " MATCH " l.matchWord).length).pos ++
        (matchCaptures l.matchWord c.pos ++ caps))
  refine ⟨((c.skip (Render.optionalPart " MATCH " l.matchWord).length).skip
    (actionLength "ON DELETE " l.onDelete)).skip (actionLength "ON UPDATE " l.onUpdate), ?_⟩
  rw [head?_ways_append (ways_opt_ne_nil _), head?_ways_append (ways_opt_ne_nil _),
    head?_ways_append (ways_opt_ne_nil _), hP]
  simp only [Option.bind_some]
  rw [hm, Option.bind_some, hd, Option.bind_some, hu]
  -- the clauses' positions, counted from where they start
  have hM : (Render.optionalPart " MATCH " l.matchWord).length ≤ c.rest.length := by
    rw [hc, ← String.length_toList]
    simp
  have hD : actionLength "ON DELETE " l.onDelete ≤
      (c.skip (Render.optionalPart " MATCH " l.matchWord).length).rest.length := by
    rw [hc₁, List.length_append, String.length_toList]
    have := actionLength_le hdl l.onDelete
    omega
  rw [pos_skip_of_le hD, pos_skip_of_le hM]
  simp only [tailCaptures, List.append_assoc]

/-! ## Column lists and the referenced table -/

/-- A character of an escaped name is the final quote or a character of the name. -/
theorem mem_escapedName {f x : Char} {name : String} (hx : x ∈ escapedName f name) :
    x = f ∨ x ∈ name.toList := by
  obtain ⟨y, hy, hxy⟩ := List.mem_flatMap.1 hx
  split at hxy
  · simp only [List.mem_cons, List.not_mem_nil, or_false, or_self] at hxy
    exact .inl hxy
  · rw [List.mem_singleton] at hxy
    exact .inr (hxy ▸ hy)

/-- Names joined as a column list are the entries of a key's column list with neither length nor
direction. -/
theorem nameList_eq_listText (q : Quoting) (names : List String) :
    q.nameList names = KeyColumn.listText q (names.map fun name => ⟨name, none, none⟩) := by
  simp [Quoting.nameList, KeyColumn.listText, KeyColumn.text, Render.optionalPart,
    Function.comp_def]

section OneChar

variable {q : Quoting} {i : Char} (hq : q.OneChar i i)
include hq

/-- A column list starts with the quote of its first name, and holds only quotes, commas and
the characters of its names. -/
theorem nameList_toList {names : List String} (hne : names ≠ []) :
    (q.nameList names).toList.head? = some i ∧
      ∀ x ∈ (q.nameList names).toList, x = i ∨ x = ',' ∨ ∃ name ∈ names, x ∈ name.toList := by
  induction names with
  | nil => exact absurd rfl hne
  | cons name names ih =>
    -- the first name, then the comma and the other names when there are any
    have hfirst : ∀ x ∈ (q.quote name).toList, x = i ∨ x ∈ name.toList := by
      intro x hx
      rw [quote_toList hq] at hx
      simp only [List.cons_append, List.mem_cons, List.mem_append, List.not_mem_nil,
        or_false] at hx
      rcases hx with hx | hx | hx
      · exact .inl hx
      · exact mem_escapedName hx
      · exact .inl hx
    cases names with
    | nil =>
      refine ⟨by simp [Quoting.nameList, quote_toList hq], fun x hx => ?_⟩
      rcases hfirst x (by simpa [Quoting.nameList] using hx) with hx | hx
      · exact .inl hx
      · exact .inr (.inr ⟨name, List.mem_singleton_self _, hx⟩)
    | cons name' names =>
      have hsplit : (q.nameList (name :: name' :: names)).toList =
          (q.quote name).toList ++ ',' :: (q.nameList (name' :: names)).toList := by
        simp [Quoting.nameList, String.intercalate_cons_cons]
      obtain ⟨-, hrest⟩ := ih (List.cons_ne_nil _ _)
      refine ⟨by simp [hsplit, quote_toList hq], fun x hx => ?_⟩
      rw [hsplit, List.mem_append, List.mem_cons] at hx
      rcases hx with hx | hx | hx
      · rcases hfirst x hx with hx | hx
        · exact .inl hx
        · exact .inr (.inr ⟨name, List.mem_cons_self, hx⟩)
      · exact .inr (.inl hx)
      · rcases hrest x hx with hx | hx | ⟨m, hm, hx⟩
        · exact .inl hx
        · exact .inr (.inl hx)
        · exact .inr (.inr ⟨m, List.mem_cons_of_mem _ hm, hx⟩)

/-- A column list of names without closing parentheses holds none, when the quote is none. -/
theorem nameList_toList_paren (hi : i ≠ ')') {names : List String} (hne : names ≠ [])
    (hnames : ∀ name ∈ names, name ≠ "" ∧ ')' ∉ name.toList) :
    (q.nameList names).toList ≠ [] ∧ ')' ∉ (q.nameList names).toList := by
  obtain ⟨hhead, hmem⟩ := nameList_toList hq hne
  refine ⟨fun h => by simp [h] at hhead, fun hx => ?_⟩
  rcases hmem ')' hx with h | h | ⟨name, hname, h⟩
  · exact hi h.symm
  · cases h
  · exact (hnames name hname).2 h

/-- The referenced table starts with the initial quote. -/
theorem tableText_head (l : ForeignKeyLine) : (l.tableText q).toList.head? = some i := by
  cases hs : l.schema <;> simp [ForeignKeyLine.tableText, Render.optionalPart, quote_toList hq, hs]

end OneChar

/-- The table group reads the written table back as its schema and name, when the names are not
empty and the convention is unambiguous. -/
theorem tableRef_tableText {q : Quoting} (hq : q.Unambiguous) {l : ForeignKeyLine}
    (hschema : ∀ s ∈ l.schema, s ≠ "") (htable : l.table ≠ "") :
    Reader.tableRef (q.splitQualified (l.tableText q)) = ⟨l.schema, l.table⟩ := by
  have hlast : q.splitNames ((q.quote l.table).toList ++ []) = [l.table] := by
    rw [Quoting.splitNames_quote hq htable [] (.inl rfl)]
    simp [Quoting.dropDot, Quoting.splitNames]
  cases hs : l.schema with
  | none =>
    rw [List.append_nil] at hlast
    simp [Quoting.splitQualified, ForeignKeyLine.tableText, hs, Render.optionalPart, hlast,
      Reader.tableRef]
  | some sch =>
    have hsplit : (l.tableText q).toList = (q.quote sch).toList ++ '.' :: (q.quote l.table).toList := by
      simp [ForeignKeyLine.tableText, hs, Render.optionalPart]
    rw [Quoting.splitQualified, hsplit, Quoting.splitNames_quote hq (hschema sch hs) _
      (.inr ⟨_, rfl⟩), Quoting.dropDot, ← List.append_nil (q.quote l.table).toList, hlast]
    rfl

/-- The groups recorded over the column lists and the referenced table of a line whose local
columns start at position `p`. -/
def columnCaptures (q : Quoting) (l : ForeignKeyLine) (p : Nat) : Captures :=
  [("foreign", p + (q.nameList l.localColumns).length + 13 + (l.tableText q).length + 2,
      p + (q.nameList l.localColumns).length + 13 + (l.tableText q).length + 2 +
        (q.nameList l.foreignColumns).length),
    ("table", p + (q.nameList l.localColumns).length + 13,
      p + (q.nameList l.localColumns).length + 13 + (l.tableText q).length),
    ("local", p, p + (q.nameList l.localColumns).length)]

section OneChar

variable {q : Quoting} {i : Char} (hq : q.OneChar i i) (hi : i ≠ ')')
include hq hi

/-- From the local columns to the parenthesis that closes the referenced ones, a readable line
is read first as written, whatever pattern `P` came before: each column list up to its closing
parenthesis, the referenced table up to the space after it. -/
theorem head?_ways_columns {l : ForeignKeyLine} (hl : l.Readable q) {P : Pattern}
    {c₀ c : Cursor n} {caps₀ caps : Captures} (hP : (P.ways c₀ caps₀).head? = some (c, caps))
    {t : List Char}
    (hc : c.rest = (q.nameList l.localColumns).toList ++ (") REFERENCES ".toList ++
      ((l.tableText q).toList ++ ' ' :: '(' :: ((q.nameList l.foreignColumns).toList ++ ')' :: t)))) :
    ∃ e : Cursor n, e.rest = t ∧ ((P ++ .group "local" columnList ++ literal ") REFERENCES" ++
      spaces ++ .group "table" (plainQuoted q ++ opt (literal "." ++ plainQuoted q)) ++ spaces ++
      literal "(" ++ .group "foreign" columnList ++ literal ")").ways c₀ caps₀).head? =
        some (e, columnCaptures q l c.pos ++ caps) := by
  obtain ⟨hLne, hL⟩ := nameList_toList_paren hq hi hl.local_ne hl.local_names
  obtain ⟨hFne, hF⟩ := nameList_toList_paren hq hi hl.foreign_ne hl.foreign_names
  have hplain : ∀ s : String, (∀ x ∈ q.final.toList, x ∉ s.toList) → i ∉ s.toList :=
    fun s h => h i (by simp [hq.final_eq])
  have htab : ∀ r, ((l.tableText q).toList ++ r).head? ≠ some ' ' := fun r => by
    rw [List.head?_append, tableText_head hq l]
    simpa using hq.final_ne_space
  have hsplit : ") REFERENCES ".toList = ") REFERENCES".toList ++ [' '] := by simp
  -- the local columns, up to `) REFERENCES`
  obtain ⟨d₁, hd₁, h₁⟩ : ∃ d₁ : Cursor n, d₁.rest = ' ' :: ((l.tableText q).toList ++
      ' ' :: '(' :: ((q.nameList l.foreignColumns).toList ++ ')' :: t)) ∧
      ((P ++ .group "local" columnList ++ literal ") REFERENCES").ways c₀ caps₀).head? =
        some (d₁, ("local", c.pos, c.pos + (q.nameList l.localColumns).toList.length) :: caps) := by
    refine ⟨((c.skip (q.nameList l.localColumns).toList.length).skip ") REFERENCES".length), ?_,
      by
        rw [ways_append_assoc P (.group "local" columnList) (literal ") REFERENCES")]
        exact head?_ways_append_of_head? hP (head?_group_columnList "local" (s := ") REFERENCES")
          (by decide) (Unicode.foldPrefix_grammarWord (by decide)) hLne hL (r := ' ' :: ((l.tableText q).toList ++
            ' ' :: '(' :: ((q.nameList l.foreignColumns).toList ++ ')' :: t)))
          (by rw [hc, hsplit]; simp) caps)⟩
    rw [Cursor.rest_skip, Cursor.rest_skip, hc, List.drop_left, hsplit, List.append_assoc,
      ← String.length_toList, List.drop_left]
    rfl
  -- a space, then the referenced table up to the space after it
  have hsp₁ := spaces_oneWay (htab _) hd₁
    (("local", c.pos, c.pos + (q.nameList l.localColumns).toList.length) :: caps)
  have hd₂ : (d₁.skip 1).rest = (l.tableText q).toList ++
      ' ' :: '(' :: ((q.nameList l.foreignColumns).toList ++ ')' :: t) := by
    rw [Cursor.rest_skip, hd₁]
    rfl
  have h₃ := head?_ways_tableGroup hq
    (fun s hs => ⟨(hl.schema_plain s hs).1, hplain s (hl.schema_plain s hs).2⟩)
    ⟨hl.table_plain.1, hplain _ hl.table_plain.2⟩ hd₂
    (("local", c.pos, c.pos + (q.nameList l.localColumns).toList.length) :: caps)
  have hd₃ : ((d₁.skip 1).skip (l.tableText q).length).rest =
      ' ' :: '(' :: ((q.nameList l.foreignColumns).toList ++ ')' :: t) := by
    rw [Cursor.rest_skip, hd₂, ← String.length_toList, List.drop_left]
  -- a space and the opening parenthesis of the referenced columns
  have hsp₂ := spaces_oneWay (by simp) hd₃ (("table", (d₁.skip 1).pos,
    (d₁.skip 1).pos + (l.tableText q).length) ::
      ("local", c.pos, c.pos + (q.nameList l.localColumns).toList.length) :: caps)
  have hd₄ : (((d₁.skip 1).skip (l.tableText q).length).skip 1).rest =
      '(' :: ((q.nameList l.foreignColumns).toList ++ ')' :: t) := by
    rw [Cursor.rest_skip, hd₃]
    rfl
  have h₅ := ways_literal_caseless (s := "(") rfl (Unicode.caseless_punctuation (by decide)) hd₄ (("table", (d₁.skip 1).pos,
    (d₁.skip 1).pos + (l.tableText q).length) ::
      ("local", c.pos, c.pos + (q.nameList l.localColumns).toList.length) :: caps)
  have hd₅ : ((((d₁.skip 1).skip (l.tableText q).length).skip 1).skip 1).rest =
      (q.nameList l.foreignColumns).toList ++ ")".toList ++ t := by
    rw [Cursor.rest_skip, hd₄]
    simp
  -- the referenced columns, up to their closing parenthesis
  have h₆ := head?_group_columnList "foreign" (s := ")") (by decide) (Unicode.foldPrefix_grammarWord (by decide)) hFne hF
    hd₅ (("table", (d₁.skip 1).pos, (d₁.skip 1).pos + (l.tableText q).length) ::
      ("local", c.pos, c.pos + (q.nameList l.localColumns).toList.length) :: caps)
  refine ⟨(((((d₁.skip 1).skip (l.tableText q).length).skip 1).skip 1).skip
    (q.nameList l.foreignColumns).toList.length).skip ")".length, ?_, ?_⟩
  · rw [Cursor.rest_skip, Cursor.rest_skip, hd₅, List.append_assoc, ← String.length_toList,
      List.drop_left, List.drop_left]
  rw [ways_append_assoc _ (.group "foreign" columnList) (literal ")"),
    head?_ways_append_of_head? (head?_ways_append_of_head? (head?_ways_append_of_head?
      (head?_ways_append_of_head? (head?_ways_append_of_head? h₁ hsp₁.head?) h₃) hsp₂.head?)
      (by rw [h₅]; rfl)) h₆]
  -- the positions where the table and the referenced columns start
  have hpos₂ := Cursor.pos_of_rest_eq (c := c) (d := d₁.skip 1)
    (u := (q.nameList l.localColumns).toList ++ ") REFERENCES ".toList)
    (by rw [hc, hd₂, List.append_assoc])
  have hpos₄ := Cursor.pos_of_rest_eq (c := c)
    (d := (((d₁.skip 1).skip (l.tableText q).length).skip 1).skip 1)
    (u := (q.nameList l.localColumns).toList ++ ") REFERENCES ".toList ++
      (l.tableText q).toList ++ [' ', '('])
    (by rw [hc, hd₅]; simp)
  have h13 : ") REFERENCES ".toList.length = 13 := by simp
  simp only [List.length_append, h13, String.length_toList, List.length_cons,
    List.length_nil] at hpos₂ hpos₄
  rw [hpos₂, hpos₄]
  simp only [columnCaptures, String.length_toList, List.cons_append, List.nil_append]
  simp only [Nat.zero_add, show (1 : Nat) + 1 = 2 from rfl, Nat.add_assoc]

end OneChar

/-! ## The first way of the foreign key grammar -/

/-- The foreign key grammar is the head of a constraint line and `FOREIGN KEY (`, the column
lists and the referenced table, then the three optional clauses. -/
theorem foreignKey_eq (q : Quoting) :
    foreignKey q = constraintHead q ++ literal "FOREIGN KEY" ++ spaces ++ literal "(" ++
      .group "local" columnList ++ literal ") REFERENCES" ++ spaces ++
      .group "table" (plainQuoted q ++ opt (literal "." ++ plainQuoted q)) ++ spaces ++
      literal "(" ++ .group "foreign" columnList ++ literal ")" ++
      (spaces ++ .group "match" (literal "MATCH " ++ word)).opt ++
      (spaces ++ literal "ON DELETE " ++ .group "ondelete" referentialAction).opt ++
      (spaces ++ literal "ON UPDATE " ++ .group "onupdate" referentialAction).opt := rfl

section OneChar

variable {q : Quoting} {i : Char} (hq : q.OneChar i i) (hsp : i ≠ ' ')
include hq hsp

/-- Everything of a foreign key line before its local columns is read one way, up to them. -/
theorem foreignKeyOpen_oneWay {l : ForeignKeyLine} (hn : l.name ≠ "") :
    ∃ d : Cursor (l.text q).toList.length,
      d.rest = (q.nameList l.localColumns).toList ++ (") REFERENCES ".toList ++
        ((l.tableText q).toList ++ ' ' :: '(' :: ((q.nameList l.foreignColumns).toList ++
          ')' :: l.tailText.toList))) ∧
      (l.text q).toList.drop d.pos = d.rest ∧
      (constraintHead q ++ literal "FOREIGN KEY" ++ spaces ++ literal "(").OneWay (Cursor.start _) []
        (d, headCaptures (escapedName i l.name)) := by
  obtain ⟨c, hcr, hone⟩ := constraintHead_oneWay hq hsp hn (by simp) (ForeignKeyLine.text_toList q l)
  have hc : c.rest = "FOREIGN KEY".toList ++ ' ' :: '(' :: ((q.nameList l.localColumns).toList ++
      (") REFERENCES ".toList ++ ((l.tableText q).toList ++ ' ' :: '(' ::
        ((q.nameList l.foreignColumns).toList ++ ')' :: l.tailText.toList)))) := by
    rw [hcr]
    simp
  have hkey : (literal "FOREIGN KEY").OneWay c (headCaptures (escapedName i l.name))
      (c.skip "FOREIGN KEY".length, headCaptures (escapedName i l.name)) :=
    OneWay.of_ways_eq (ways_literal_self (Unicode.foldPrefix_grammarWord (by decide)) hc _)
  have hc₁ : (c.skip "FOREIGN KEY".length).rest = ' ' :: '(' :: ((q.nameList l.localColumns).toList ++
      (") REFERENCES ".toList ++ ((l.tableText q).toList ++ ' ' :: '(' ::
        ((q.nameList l.foreignColumns).toList ++ ')' :: l.tailText.toList)))) := by
    rw [Cursor.rest_skip, hc, ← String.length_toList, List.drop_left]
  have hspace := spaces_oneWay (by simp) hc₁ (headCaptures (escapedName i l.name))
  have hopen : (literal "(").OneWay ((c.skip "FOREIGN KEY".length).skip 1)
      (headCaptures (escapedName i l.name))
      (((c.skip "FOREIGN KEY".length).skip 1).skip 1, headCaptures (escapedName i l.name)) :=
    OneWay.of_ways_eq (ways_literal_caseless rfl (Unicode.caseless_punctuation (by decide))
      (by rw [Cursor.rest_skip, hc₁]; rfl) _)
  have hd : (((c.skip "FOREIGN KEY".length).skip 1).skip 1).rest =
      (q.nameList l.localColumns).toList ++ (") REFERENCES ".toList ++
        ((l.tableText q).toList ++ ' ' :: '(' :: ((q.nameList l.foreignColumns).toList ++
          ')' :: l.tailText.toList))) := by
    rw [Cursor.rest_skip, Cursor.rest_skip, hc₁]
    rfl
  refine ⟨_, hd, Cursor.drop_pos (p := "  CONSTRAINT ".toList ++ (q.quote l.name).toList ++
    ' ' :: "FOREIGN KEY (".toList) ?_, ((hone.seq hkey).seq hspace).seq hopen⟩
  rw [hd, ForeignKeyLine.text_toList]
  simp

/-- The first way of the foreign key grammar on a readable line records the name's escaped
body, the column lists and the referenced table where they are written, and the groups of the
three clauses after them. -/
theorem foreignKey_first (hi : i ≠ ')') {l : ForeignKeyLine} (hl : l.Readable q) :
    ∃ d e : Cursor (l.text q).toList.length,
      (l.text q).toList.drop d.pos = (q.nameList l.localColumns).toList ++ (") REFERENCES ".toList ++
        ((l.tableText q).toList ++ ' ' :: '(' :: ((q.nameList l.foreignColumns).toList ++
          ')' :: l.tailText.toList))) ∧
      (l.text q).toList.drop e.pos = l.tailText.toList ∧
      ∃ w, ((foreignKey q).ways (Cursor.start (l.text q).toList) []).head? = some w ∧
        w.2 = tailCaptures l e.pos ++ (columnCaptures q l d.pos ++ headCaptures (escapedName i l.name)) := by
  obtain ⟨d, hdr, hdrop, hopen⟩ := foreignKeyOpen_oneWay hq hsp hl.name_ne
  obtain ⟨e, her, hcols⟩ := head?_ways_columns hq hi hl hopen.head? hdr
  obtain ⟨x, htail⟩ := head?_ways_clauses hl hcols her
  refine ⟨d, e, hdrop.trans hdr, Cursor.drop_pos_of_rest hdrop (u := (q.nameList l.localColumns).toList ++
    (") REFERENCES ".toList ++ ((l.tableText q).toList ++ ' ' :: '(' ::
      ((q.nameList l.foreignColumns).toList ++ [')'])))) ?_ |>.trans her,
    (x, tailCaptures l e.pos ++ (columnCaptures q l d.pos ++ headCaptures (escapedName i l.name))),
    ?_, rfl⟩
  · rw [hdr, her]
    simp
  · rw [foreignKey_eq]
    simpa only [List.append_assoc] using htail

end OneChar

/-! ## The groups of a foreign key line -/

/-- A group is looked up in the first part of the captures when the rest records none of it. -/
theorem group?_append_of_find?_none {m : Match} {s : List Char} {g : String} {cs rest : Captures}
    (hm : m.captures = cs ++ rest) (hrest : rest.find? (·.1 == g) = none) :
    m.group? s g = (cs.find? (·.1 == g)).map fun x => Match.slice s x.2.1 x.2.2 := by
  simp only [Match.group?, Match.span?, hm, List.find?_append, hrest, Option.or_none,
    Option.map_map]
  rfl

/-- In captures that all record one group, that group is found first and no other is. -/
theorem find?_of_forall_name {cs : Captures} {g : String} (h : ∀ x ∈ cs, x.1 = g) (g' : String) :
    cs.find? (·.1 == g') = if g = g' then cs.head? else none := by
  cases cs with
  | nil => simp
  | cons x cs =>
    by_cases hg : g = g'
    · simp [h x List.mem_cons_self, hg]
    · rw [if_neg hg, List.find?_eq_none]
      intro y hy
      simp [h y hy, hg]

theorem actionCaptures_names (g kw : String) (a : Option String) (p : Nat) :
    ∀ x ∈ actionCaptures g kw a p, x.1 = g := by
  intro x hx
  cases a with
  | none => simp [actionCaptures] at hx
  | some y =>
    simp only [actionCaptures] at hx
    split at hx <;> simp_all

theorem matchCaptures_names (w : Option String) (p : Nat) :
    ∀ x ∈ matchCaptures w p, x.1 = "match" := by
  intro x hx
  cases w <;> simp_all [matchCaptures]

/-- The group of the `MATCH` clause reads back `MATCH` and the word. -/
theorem slice_matchCaptures {w : Option String} {s t : List Char} {p : Nat}
    (hs : s.drop p = (Render.optionalPart " MATCH " w).toList ++ t) :
    (matchCaptures w p).head?.map (fun x => Match.slice s x.2.1 x.2.2) =
      w.map ("MATCH " ++ ·) := by
  cases w with
  | none => rfl
  | some x =>
    have hdrop : s.drop (p + 1) = ("MATCH ".toList ++ x.toList) ++ t := by
      rw [← List.drop_drop, hs]
      simp [Render.optionalPart]
    have hslice := Match.slice_of_drop hdrop
    have hend : p + 1 + ("MATCH ".toList ++ x.toList).length = p + 7 + x.length := by
      simp only [List.length_append, String.length_toList]
      rw [show "MATCH ".length = 6 from rfl]
      omega
    rw [hend, String.ofList_append, String.ofList_toList, String.ofList_toList] at hslice
    simp [matchCaptures, hslice]

/-- The group of an action clause reads back the action when it is one of the four; either way
the action it gives is the one that the written words name. -/
theorem bind_slice_actionCaptures {lead kw g : String} (hlead : lead.toList = ' ' :: kw.toList)
    {a : Option String} (ha : ∀ x ∈ a, x ∈ actionWords ∨ x = "SET DEFAULT") {s t : List Char}
    {p : Nat} (hs : s.drop p = (Render.optionalPart lead a).toList ++ t) :
    ((actionCaptures g kw a p).head?.map fun x => Match.slice s x.2.1 x.2.2).bind
      ReferentialAction.ofText? = a.bind ReferentialAction.ofText? := by
  cases a with
  | none => rfl
  | some x =>
    by_cases hx : x ∈ actionWords
    · have hdrop : s.drop (p + 1 + kw.length) = x.toList ++ t := by
        rw [← List.drop_drop, ← List.drop_drop, hs]
        simp only [Render.optionalPart, String.toList_append, hlead, List.cons_append,
          List.append_assoc, List.drop_succ_cons, List.drop_zero]
        rw [← String.length_toList, List.drop_left]
      have hslice := Match.slice_of_drop hdrop
      rw [String.length_toList, String.ofList_toList] at hslice
      simp [actionCaptures, hx, hslice]
    · obtain rfl : x = "SET DEFAULT" := (ha x rfl).resolve_left hx
      simp [actionCaptures, hx, referentialAction_ofText_setDefault]

/-- The groups of the three clauses read back what the line wrote: `MATCH` and its word, and
each action as the action it names. -/
theorem tail_groups {q : Quoting} {l : ForeignKeyLine} (hl : l.Readable q) {s : List Char}
    {p : Nat} (hs : s.drop p = l.tailText.toList) {m : Match} {rest : Captures}
    (hrest : ∀ g ∈ ["match", "ondelete", "onupdate"], rest.find? (·.1 == g) = none)
    (hm : m.captures = tailCaptures l p ++ rest) :
    m.group? s "match" = l.matchWord.map ("MATCH " ++ ·) ∧
      (m.group? s "ondelete").bind ReferentialAction.ofText? =
        l.onDelete.bind ReferentialAction.ofText? ∧
      (m.group? s "onupdate").bind ReferentialAction.ofText? =
        l.onUpdate.bind ReferentialAction.ofText? := by
  rw [ForeignKeyLine.tailText_toList] at hs
  -- each clause records its own group only
  have hfind : ∀ g, (tailCaptures l p).find? (·.1 == g) =
      ((if "onupdate" = g then (actionCaptures "onupdate" "ON UPDATE " l.onUpdate
          (p + (Render.optionalPart " MATCH " l.matchWord).length +
            actionLength "ON DELETE " l.onDelete)).head? else none).or
        ((if "ondelete" = g then (actionCaptures "ondelete" "ON DELETE " l.onDelete
            (p + (Render.optionalPart " MATCH " l.matchWord).length)).head? else none).or
          (if "match" = g then (matchCaptures l.matchWord p).head? else none))) := by
    intro g
    rw [tailCaptures, List.append_assoc, List.find?_append, List.find?_append,
      find?_of_forall_name (actionCaptures_names _ _ _ _) g,
      find?_of_forall_name (actionCaptures_names _ _ _ _) g,
      find?_of_forall_name (matchCaptures_names _ _) g]
  have hdel : s.drop (p + (Render.optionalPart " MATCH " l.matchWord).length) =
      (Render.optionalPart " ON DELETE " l.onDelete).toList ++
        ((Render.optionalPart " ON UPDATE " l.onUpdate).toList ++
          (Render.finalComma l.finalComma).toList) := by
    rw [← List.drop_drop, hs, ← String.length_toList, List.drop_left]
  obtain ⟨t₂, ht₂, -⟩ := updateClause_start hl
  have hupd : s.drop (p + (Render.optionalPart " MATCH " l.matchWord).length +
      actionLength "ON DELETE " l.onDelete) =
        (Render.optionalPart " ON UPDATE " l.onUpdate).toList ++ t₂ := by
    rw [← List.drop_drop, hdel, ht₂]
  refine ⟨?_, ?_, ?_⟩
  · rw [group?_append_of_find?_none hm (hrest _ (by simp)), hfind]
    simp only [show ("onupdate" = "match") = False by decide,
      show ("ondelete" = "match") = False by decide, if_false, if_true, Option.none_or]
    exact slice_matchCaptures hs
  · rw [group?_append_of_find?_none hm (hrest _ (by simp)), hfind]
    simp only [show ("onupdate" = "ondelete") = False by decide,
      show ("match" = "ondelete") = False by decide, if_false, if_true, Option.none_or,
      Option.or_none]
    exact bind_slice_actionCaptures rfl hl.onDelete_mem hdel
  · rw [group?_append_of_find?_none hm (hrest _ (by simp)), hfind]
    simp only [show ("ondelete" = "onupdate") = False by decide,
      show ("match" = "onupdate") = False by decide, if_false, if_true, Option.or_none]
    exact bind_slice_actionCaptures rfl hl.onUpdate_mem hupd

/-- The groups over the column lists and the referenced table read back the written lists and
table. -/
theorem column_groups {q : Quoting} {l : ForeignKeyLine} {s tail : List Char} {p : Nat}
    (hs : s.drop p = (q.nameList l.localColumns).toList ++ (") REFERENCES ".toList ++
      ((l.tableText q).toList ++ ' ' :: '(' :: ((q.nameList l.foreignColumns).toList ++
        ')' :: tail))))
    {m : Match} {front rest : Captures}
    (hfront : ∀ g ∈ ["local", "table", "foreign"], front.find? (·.1 == g) = none)
    (hm : m.captures = front ++ (columnCaptures q l p ++ rest)) :
    m.group? s "local" = some (q.nameList l.localColumns) ∧
      m.group? s "table" = some (l.tableText q) ∧
      m.group? s "foreign" = some (q.nameList l.foreignColumns) := by
  have hgroup : ∀ g ∈ ["local", "table", "foreign"], m.group? s g =
      ((columnCaptures q l p).find? (·.1 == g)).map fun x => Match.slice s x.2.1 x.2.2 := by
    intro g hg
    have hsome : ((columnCaptures q l p).find? (·.1 == g)).isSome := by
      simp only [List.mem_cons, List.not_mem_nil, or_false] at hg
      rcases hg with rfl | rfl | rfl <;> simp [columnCaptures]
    obtain ⟨x, hx⟩ := Option.isSome_iff_exists.1 hsome
    simp only [Match.group?, Match.span?, hm, List.find?_append, hfront g hg, Option.none_or, hx,
      Option.some_or, Option.map_some]
  have h13 : ") REFERENCES ".toList.length = 13 := by simp
  have hlocal := Match.slice_of_drop hs
  have htable : s.drop (p + (q.nameList l.localColumns).length + 13) =
      (l.tableText q).toList ++ ' ' :: '(' :: ((q.nameList l.foreignColumns).toList ++ ')' :: tail) := by
    rw [← List.drop_drop, ← List.drop_drop, hs, ← String.length_toList, List.drop_left, ← h13,
      List.drop_left]
  have hforeign : s.drop (p + (q.nameList l.localColumns).length + 13 + (l.tableText q).length + 2) =
      (q.nameList l.foreignColumns).toList ++ ')' :: tail := by
    rw [← List.drop_drop, ← List.drop_drop, htable, ← String.length_toList, List.drop_left]
    rfl
  have hslice₂ := Match.slice_of_drop htable
  have hslice₃ := Match.slice_of_drop hforeign
  simp only [String.length_toList, String.ofList_toList] at hlocal hslice₂ hslice₃
  refine ⟨?_, ?_, ?_⟩ <;> rw [hgroup _ (by simp)] <;>
    simp [columnCaptures, hlocal, hslice₂, hslice₃]

/-- Captures of the three clauses record none of the other groups. -/
theorem find?_tailCaptures_of_ne (l : ForeignKeyLine) (p : Nat) {g : String}
    (hg : g ≠ "onupdate" ∧ g ≠ "ondelete" ∧ g ≠ "match") :
    (tailCaptures l p).find? (·.1 == g) = none := by
  rw [tailCaptures, List.append_assoc, List.find?_append, List.find?_append,
    find?_of_forall_name (actionCaptures_names _ _ _ _) g,
    find?_of_forall_name (actionCaptures_names _ _ _ _) g,
    find?_of_forall_name (matchCaptures_names _ _) g, if_neg (Ne.symm hg.1),
    if_neg (Ne.symm hg.2.1), if_neg (Ne.symm hg.2.2)]
  rfl

/-- A foreign key line as characters around the escaped body of its name, which starts at
position 14. -/
theorem text_toList_name {q : Quoting} {i : Char} (hq : q.OneChar i i) (l : ForeignKeyLine) :
    ∃ r, (l.text q).toList = ("  CONSTRAINT ".toList ++ [i]) ++ escapedName i l.name ++ i :: r :=
  ⟨' ' :: ("FOREIGN KEY (".toList ++ (q.nameList l.localColumns).toList ++ ") REFERENCES ".toList ++
    (l.tableText q).toList ++ ' ' :: '(' :: ((q.nameList l.foreignColumns).toList ++
      ')' :: l.tailText.toList)), by rw [ForeignKeyLine.text_toList, quote_toList hq]; simp⟩

end Grammar

/-- The foreign key that a constraint is, if it is one. -/
def Constraint.foreignKey? : Constraint → Option ForeignKey
  | .foreignKey f => some f
  | _ => none

namespace Reader

open Grammar

/-- Names joined as a column list, each non-empty, read back as the names. -/
theorem keyColumns_nameList {q : Quoting} (hq : q = .backtick ∨ q = .ansi) {names : List String}
    (hne : names ≠ []) (hnames : ∀ name ∈ names, name ≠ "") :
    (keyColumns q (keyColumn q) (q.nameList names)).map (·.name) = names := by
  obtain ⟨i, hqi, hf⟩ := oneChar_of_preset hq
  rw [nameList_eq_listText, keyColumns_eq_allFrom hq,
    allFrom_keyColumn hqi hf _ (by simpa using hne) ?_ List.drop_zero]
  · simp [Function.comp_def, KeyColumn.upperDirection]
  · intro kc hkc
    obtain ⟨name, hname, rfl⟩ := List.mem_map.1 hkc
    exact ⟨hnames name hname, by simp, by simp⟩

/-- For the backtick and ANSI conventions, a foreign key line reads back as the foreign key it
was written from when its column names hold no closing parenthesis, its schema and table names
no final quote, and no update clause follows `ON DELETE SET DEFAULT`: the name, the columns in
order, the table with its schema, `MATCH` and its word, and each action as the one its words
name, an absent clause giving none. -/
theorem readConstraint_foreignKeyLine {q : Quoting} (hq : q = .backtick ∨ q = .ansi)
    (l : ForeignKeyLine) (hl : l.Readable q) :
    readConstraint (LineGrammars.of q) q (l.text q) =
      some (.foreignKey ⟨l.name, l.localColumns, ⟨l.schema, l.table⟩, l.foreignColumns,
        l.matchWord.map ("MATCH " ++ ·), l.onDelete.bind ReferentialAction.ofText?,
        l.onUpdate.bind ReferentialAction.ofText?⟩) := by
  obtain ⟨i, hqi, hsp, hK, hi⟩ :
      ∃ i, q.OneChar i i ∧ i ≠ ' ' ∧ i ∉ Unicode.foldOrbit 'K' ∧ i ≠ ')' := by
    rcases hq with rfl | rfl
    · exact ⟨_, Quoting.oneChar_backtick, by decide, by decide +kernel, by decide⟩
    · exact ⟨_, Quoting.oneChar_ansi, by decide, by decide +kernel, by decide⟩
  have hqu : q.Unambiguous := by
    rcases hq with rfl | rfl
    · exact Quoting.unambiguous_backtick
    · exact Quoting.unambiguous_ansi
  obtain ⟨r, hname⟩ := text_toList_name hqi l
  -- the key grammar wants `KEY` where the quoted name starts
  have hkey : (key q).leftmost (l.text q).toList = none := by
    rw [leftmost_of_anchored (anchored_key q), key_ways_eq_nil_of_constraint q hK
      (r := escapedName i l.name ++ i :: r) (by rw [hname]; simp)]
    rfl
  obtain ⟨d, e, hd, he, w, hw, hw₂⟩ := foreignKey_first hqi hsp hi hl
  have hfk : (foreignKey q).leftmost (l.text q).toList = some ⟨0, w.1.pos, w.2⟩ := by
    rw [leftmost_of_anchored (anchored_foreignKey q), hw]
    rfl
  -- the groups, read back piece by piece
  obtain ⟨hmatch, hdel, hupd⟩ := tail_groups hl he (m := ⟨0, w.1.pos, w.2⟩)
    (fun g hg => by
      simp only [List.mem_cons, List.not_mem_nil, or_false] at hg
      rcases hg with rfl | rfl | rfl <;> simp [columnCaptures, headCaptures]) hw₂
  obtain ⟨hlocal, htable, hforeign⟩ := column_groups hd (m := ⟨0, w.1.pos, w.2⟩)
    (fun g hg => find?_tailCaptures_of_ne l e.pos (by
      simp only [List.mem_cons, List.not_mem_nil, or_false] at hg
      rcases hg with rfl | rfl | rfl <;> decide)) hw₂
  have hnm : Match.group? ⟨0, w.1.pos, w.2⟩ (l.text q).toList "name" =
      some (String.ofList (escapedName i l.name)) := by
    have hslice := Match.slice_append ("  CONSTRAINT ".toList ++ [i]) (escapedName i l.name) (i :: r)
    rw [← hname, show ("  CONSTRAINT ".toList ++ [i]).length = 14 by simp] at hslice
    simp only [Match.group?, Match.span?, hw₂, List.find?_append,
      find?_tailCaptures_of_ne l e.pos (show "name" ≠ "onupdate" ∧ _ by decide), Option.none_or]
    simp [columnCaptures, headCaptures, hslice]
  rw [readConstraint_conventions hq, hkey, hfk]
  simp only [foreignKeyOfMatch, hnm, hlocal, htable, hforeign, hmatch, Option.getD_some,
    unescape_escapedName hqi, LineGrammars.of,
    keyColumns_nameList hq hl.local_ne fun c hc => (hl.local_names c hc).1,
    keyColumns_nameList hq hl.foreign_ne fun c hc => (hl.foreign_names c hc).1,
    tableRef_tableText hqu (fun s hs => (hl.schema_plain s hs).1) hl.table_plain.1, hdel, hupd]

/-- A line with an escaped quote in its name, a comma in a column name, a schema, `MATCH` and
both actions, and a final comma reads back as written. -/
theorem readConstraint_foreignKeyLine_qualified :
    ForeignKeyLine.Readable .backtick ⟨"fk`1", ["a", "b,c"], some "db", "parent", ["x", "y"],
        some "FULL", some "SET NULL", some "NO ACTION", true⟩ ∧
      readConstraint (LineGrammars.of .backtick) .backtick
        (ForeignKeyLine.text .backtick ⟨"fk`1", ["a", "b,c"], some "db", "parent", ["x", "y"],
          some "FULL", some "SET NULL", some "NO ACTION", true⟩) =
        some (.foreignKey ⟨"fk`1", ["a", "b,c"], ⟨some "db", "parent"⟩, ["x", "y"],
          some "MATCH FULL", some .setNull, some .noAction⟩) := by
  have hl : ForeignKeyLine.Readable .backtick ⟨"fk`1", ["a", "b,c"], some "db", "parent",
      ["x", "y"], some "FULL", some "SET NULL", some "NO ACTION", true⟩ := by
    constructor <;> simp [Quoting.backtick, actionWords]
    -- what is left is that the letters of the match word are word characters
    decide +kernel
  refine ⟨hl, ?_⟩
  rw [readConstraint_foreignKeyLine (.inl rfl) _ hl]
  decide +kernel

/-- Each condition is needed. A closing parenthesis in a column name, or a final quote in the
table name, keeps the foreign key grammar from reading the line, which is then no constraint at
all; and an update clause after `ON DELETE SET DEFAULT` is dropped, since the update clause is
tried where the delete clause starts. -/
theorem readConstraint_foreignKeyLine_misreads :
    readConstraint (LineGrammars.of .backtick) .backtick
        (ForeignKeyLine.text .backtick ⟨"fk", ["a)"], none, "p", ["x"], none, none, none, false⟩) =
      none ∧
    readConstraint (LineGrammars.of .backtick) .backtick
        (ForeignKeyLine.text .backtick ⟨"fk", ["a"], none, "p`q", ["x"], none, none, none, false⟩) =
      none ∧
    ((readConstraint (LineGrammars.of .backtick) .backtick
        (ForeignKeyLine.text .backtick ⟨"fk", ["a"], none, "p", ["x"], none, some "SET DEFAULT",
          some "CASCADE", false⟩)).bind Constraint.foreignKey?).map (·.onUpdate) = some none := by
  have hp : Grammar.partition.Progressive ∧ Grammar.partition.groupNames.Nodup := by
    decide +kernel
  refine ⟨?_, ?_, ?_⟩ <;>
    (rw [readConstraint_conventions (.inl rfl), occursIn_eq_leftmost hp.1 hp.2]
     simp only [leftmost_eq_direct]
     decide +kernel)

end Reader

end TableDdl

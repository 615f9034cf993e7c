import TableDdl.Proofs.OptionMatches
import TableDdl.Proofs.LineEndings
import TableDdl.Reader.Constraint
import TableDdl.Render.Constraint

/-!
# The head of a constraint line

A foreign key line and a check line both start with two spaces, `CONSTRAINT`, the quoted name of
the constraint and a space, and the two grammars both start by reading that head
(`constraintHead`). For a convention of one-character quotes escaped by doubling, the head of a
line written with a quoted name is read one way only: every way of the head ends after the one
space that follows the name's final quote and records the name's escaped body
(`constraintHead_oneWay`), because the body of a quoted name ends at the first final
quote that a space follows. The key grammar, tried first on every constraint line, has no way on
such a line at all: after the two spaces it wants `KEY`, or a token and a space before `KEY`,
and the only token there is `CONSTRAINT`, followed by a quote (`key_ways_eq_nil_of_constraint`).

Reading a constraint line runs the compiled searches; for the grammars of the backtick and ANSI
conventions they find the leftmost-first matches (`readConstraint_conventions`).
-/

namespace TableDdl

open Computability Pattern

namespace Cursor

variable {n : Nat}

@[simp] theorem rest_start (s : List Char) : (Cursor.start s).rest = s := rfl

@[simp] theorem pos_start (s : List Char) : (Cursor.start s).pos = 0 := rfl

/-- A cursor whose rest is a text followed by another cursor's rest stands that text's length
before it. -/
theorem pos_of_rest_eq {c d : Cursor n} {u : List Char} (h : c.rest = u ++ d.rest) :
    d.pos = c.pos + u.length := by
  have hlen : c.rest.length = u.length + d.rest.length := by simp [h]
  have := c.pos_add
  have := d.pos_add
  omega

end Cursor

/-- The slice of a text between the end of a first part and the end of a second part is the
second part. -/
@[simp] theorem Match.slice_append (a b c : List Char) :
    Match.slice (a ++ b ++ c) a.length (a.length + b.length) = String.ofList b := by
  simp [Match.slice]

namespace Pattern

variable {n : Nat}

/-- Sequencing is associative as far as the ways go. -/
theorem ways_append_assoc (p q r : Pattern) (c : Cursor n) (caps : Captures) :
    ((p ++ q) ++ r).ways c caps = (p ++ (q ++ r)).ways c caps := by
  simp [List.flatMap_assoc]

/-- The pattern has one way only from the cursor and captures, however often it is listed. -/
def OneWay (p : Pattern) (c : Cursor n) (caps : Captures) (w : Cursor n × Captures) : Prop :=
  w ∈ p.ways c caps ∧ ∀ v ∈ p.ways c caps, v = w

namespace OneWay

variable {p q : Pattern} {c : Cursor n} {caps : Captures} {v w : Cursor n × Captures}

theorem of_ways_eq (h : p.ways c caps = [w]) : p.OneWay c caps w :=
  ⟨by simp [h], fun v hv => by simpa [h] using hv⟩

theorem seq (hp : p.OneWay c caps v) (hq : q.OneWay v.1 v.2 w) : (p ++ q).OneWay c caps w := by
  refine ⟨mem_ways_append.2 ⟨v, hp.1, hq.1⟩, fun u hu => ?_⟩
  obtain ⟨v', hv', hu⟩ := mem_ways_append.1 hu
  rw [hp.2 v' hv'] at hu
  exact hq.2 u hu

theorem head? (h : p.OneWay c caps w) : (p.ways c caps).head? = some w := by
  obtain ⟨u, us, hus⟩ := List.exists_cons_of_ne_nil (List.ne_nil_of_mem h.1)
  rw [hus, List.head?_cons, h.2 u (by simp [hus])]

/-- The first way of a sequence whose first part has one way goes on from that way. -/
theorem head?_append (h : p.OneWay c caps v) (q : Pattern) :
    ((p ++ q).ways c caps).head? = (q.ways v.1 v.2).head? := by
  rw [ways_append, List.head?_flatMap]
  exact findSome?_eq_of_unique h.1 fun u hu _ => h.2 u hu

/-- A sequence has no way when its second part has none after the one way of its first. -/
theorem append_eq_nil (h : p.OneWay c caps v) (hq : q.ways v.1 v.2 = []) :
    (p ++ q).ways c caps = [] := by
  refine List.eq_nil_iff_forall_not_mem.2 fun u hu => ?_
  obtain ⟨v', hv', hu⟩ := mem_ways_append.1 hu
  rw [h.2 v' hv', hq] at hu
  cases hu

theorem assoc {r : Pattern} (h : (p ++ (q ++ r)).OneWay c caps w) : ((p ++ q) ++ r).OneWay c caps w := by
  unfold OneWay at h ⊢
  rwa [ways_append_assoc]

end OneWay

/-- A literal reads its text where the text stands as written. -/
theorem ways_literal_self {s : String} (hs : Unicode.foldPrefix s.toList s.toList = true)
    {c : Cursor n} {r : List Char} (hc : c.rest = s.toList ++ r) (caps : Captures) :
    (literal s).ways c caps = [(c.skip s.length, caps)] := by
  rw [ways_literal, hc, Unicode.foldPrefix_append_of_le r (Nat.le_refl _), hs]
  rfl

end Pattern

/-- Splitting two texts at a character that neither part before it holds splits them alike. -/
theorem eq_of_append_cons {x : Char} :
    ∀ {u v a b : List Char}, x ∉ u → x ∉ v → u ++ x :: a = v ++ x :: b → u = v ∧ a = b
  | [], [], a, b, _, _, h => ⟨rfl, by simpa using h⟩
  | [], y :: v, a, b, _, hv, h => by
    obtain ⟨rfl, -⟩ := List.cons_eq_cons.1 h
    exact absurd List.mem_cons_self hv
  | y :: u, [], a, b, hu, _, h => by
    obtain ⟨rfl, -⟩ := List.cons_eq_cons.1 h
    exact absurd List.mem_cons_self hu
  | y :: u, z :: v, a, b, hu, hv, h => by
    simp only [List.cons_append, List.cons.injEq] at h
    obtain ⟨rfl, rfl⟩ := eq_of_append_cons (fun hx => hu (List.mem_cons_of_mem y hx))
      (fun hx => hv (List.mem_cons_of_mem z hx)) h.2
    exact ⟨by rw [h.1], rfl⟩

namespace Grammar

/-! ## Quoted names of a one-character convention -/

/-- The body of a name quoted with the final quote `f`: each `f` in it doubled. -/
def escapedName (f : Char) (n : String) : List Char :=
  n.toList.flatMap fun c => if c = f then [f, f] else [c]

theorem escapedName_ne_nil (f : Char) {n : String} (hn : n ≠ "") : escapedName f n ≠ [] := by
  obtain ⟨c, r, hcr⟩ := List.exists_cons_of_ne_nil (mt String.toList_eq_nil_iff.1 hn)
  unfold escapedName
  rw [hcr]
  by_cases hc : c = f <;> simp [hc]

section OneChar

variable {q : Quoting} {i f : Char} (hq : q.OneChar i f)
include hq

theorem replace_toList (n : String) :
    (Text.replace n q.final q.escaped).toList = escapedName f n := by
  simp only [Text.replace, String.toList_ofList, hq.final_eq, hq.escaped_eq]
  rw [Text.replaceChars_of_ne (by simp), Text.replaceNonempty_singleton]
  rfl

/-- A quoted name is the initial quote, the escaped body and the final quote. -/
theorem quote_toList (n : String) : (q.quote n).toList = i :: escapedName f n ++ [f] := by
  simp [Quoting.quote, replace_toList hq, hq.initial_eq, hq.final_eq]

/-- The escaped body of a name is a quoted body: single characters other than the final quote,
and doubled final quotes. -/
theorem escapedName_mem (n : String) : escapedName f n ∈ quotedBody q := by
  refine Language.mem_kstar.2 ⟨n.toList.map fun c => if c = f then [f, f] else [c], ?_, ?_⟩
  · simp [escapedName, List.flatMap_def]
  · simp only [List.mem_map]
    rintro y ⟨c, -, rfl⟩
    rw [mem_nameToken hq]
    by_cases hc : c = f
    · simp [hc]
    · simp [hc]

/-- Undoing the escape of a name's body gives the name. -/
theorem unescape_escapedName (n : String) :
    q.unescape (String.ofList (escapedName f n)) = n := by
  rw [← replace_toList hq, String.ofList_toList]
  simp only [Quoting.unescape, Text.replace, String.toList_ofList, hq.final_eq, hq.escaped_eq]
  rw [Text.replaceChars_of_ne (by simp), Text.replaceChars_of_ne (by simp),
    @Text.replaceNonempty_replaceNonempty [f] [f, f] (by simp) ⟨[f], rfl⟩ (by simp),
    String.ofList_toList]

/-! ## Quoted identifiers -/

/-- Every way of a quoted identifier reads the initial quote, a nonempty quoted body and the
final quote, and records the body under `name`. -/
theorem identifier_sound {n : Nat} {c : Cursor n} {caps : Captures} :
    ∀ w ∈ (identifier q).ways c caps, ∃ body ∈ quotedBody q, body ≠ [] ∧
      c.rest = i :: body ++ f :: w.1.rest ∧
      w.2 = ("name", c.pos + 1, c.pos + 1 + body.length) :: caps := by
  intro w hw
  obtain ⟨d, hd, hw⟩ := mem_ways_append.1 hw
  obtain ⟨e, he, hd⟩ := mem_ways_append.1 hd
  obtain ⟨⟨u₁, hu₁, hce⟩, he₂⟩ := (reads_initial hq).mem_ways (by simp) he
  rw [ways_group] at hd
  obtain ⟨d', hd', rfl⟩ := List.mem_map.1 hd
  obtain ⟨⟨body, ⟨hbody, hne⟩, hed⟩, hd₂⟩ :=
    (reads_nameBody hq).mem_ways (groupNames_bodyChars q) hd'
  obtain ⟨⟨u₃, hu₃, hdw⟩, hw₂⟩ := (reads_final hq).mem_ways (by simp) hw
  change u₁ = [i] at hu₁
  change u₃ = [f] at hu₃
  subst hu₁ hu₃
  refine ⟨body, hbody, hne, by rw [hce, hed, hdw]; simp, ?_⟩
  have he_pos : e.1.pos = c.pos + 1 := Cursor.pos_of_rest_eq hce
  have hd_pos : d'.1.pos = c.pos + 1 + body.length := by
    rw [Cursor.pos_of_rest_eq hed, he_pos]
  rw [hw₂, hd_pos, hd₂, he₂, he_pos]

/-- A quoted identifier reads every nonempty quoted body between the quotes. -/
theorem identifier_complete {n : Nat} {c : Cursor n} (caps : Captures) {body r : List Char}
    (hb : body ∈ quotedBody q) (hne : body ≠ []) (hc : c.rest = i :: body ++ f :: r) :
    ∃ w ∈ (identifier q).ways c caps, w.1.rest = r ∧
      w.2 = ("name", c.pos + 1, c.pos + 1 + body.length) :: caps := by
  obtain ⟨e, he, her⟩ := (reads_initial hq).complete' (by simp) c caps (u := [i])
    (r := body ++ f :: r) rfl (by simp [hc])
  obtain ⟨d, hd, hdr⟩ := (reads_nameBody hq).complete' (groupNames_bodyChars q) e caps (u := body)
    (r := f :: r) ⟨hb, hne⟩ her
  obtain ⟨a, ha, har⟩ := (reads_final hq).complete' (by simp) d (("name", e.pos, d.pos) :: caps)
    (u := [f]) (r := r) rfl (by simp [hdr])
  have he_pos : e.pos = c.pos + 1 := Cursor.pos_of_rest_eq (u := [i]) (by simp [hc, her])
  have hd_pos : d.pos = c.pos + 1 + body.length := by
    rw [Cursor.pos_of_rest_eq (u := body) (by rw [her, hdr]), he_pos]
  refine ⟨(a, ("name", e.pos, d.pos) :: caps), ?_, har, by rw [he_pos, hd_pos]⟩
  refine mem_ways_append.2 ⟨(d, ("name", e.pos, d.pos) :: caps),
    mem_ways_append.2 ⟨(e, caps), he, ?_⟩, ha⟩
  rw [ways_group]
  exact List.mem_map.2 ⟨(d, caps), hd, rfl⟩

/-- A way of a written quoted name that a space follows ends at the name's final quote: the body
ends at the first final quote that a space follows. -/
theorem identifier_written {n : Nat} {c : Cursor n} {caps : Captures} {name : String}
    {t : List Char} (hc : c.rest = (q.quote name).toList ++ ' ' :: t) :
    ∀ w ∈ (identifier q).ways c caps, w.1.rest.head? = some ' ' →
      w.1.rest = ' ' :: t ∧
        w.2 = ("name", c.pos + 1, c.pos + 1 + (escapedName f name).length) :: caps := by
  intro w hw hsp
  obtain ⟨body, hb, -, hcw, hw₂⟩ := identifier_sound hq w hw
  obtain ⟨r, hr⟩ : ∃ r, w.1.rest = ' ' :: r := by
    cases h : w.1.rest with
    | nil => simp [h] at hsp
    | cons x r => exact ⟨r, by simpa [h] using hsp⟩
  rw [quote_toList hq] at hc
  have heq : escapedName f name ++ f :: ' ' :: t = body ++ f :: ' ' :: r := by
    have := hc.symm.trans hcw
    simpa [hr] using this
  have hbody : escapedName f name = body := quotedBody_unique hq (escapedName_mem hq name) hb heq
  subst hbody
  have htr : t = r := by simpa using heq
  exact ⟨by rw [hr, htr], hw₂⟩

/-! ## Runs of spaces -/

omit hq in
/-- A single space before a text that does not start with one is read one way. -/
theorem spaces_oneWay {n : Nat} {c : Cursor n} {t : List Char} (ht : t.head? ≠ some ' ')
    (hc : c.rest = ' ' :: t) (caps : Captures) : spaces.OneWay c caps (c.skip 1, caps) := by
  have hnames : spaces.groupNames = [] := by simp [spaces, plus, groupNames]
  have hrest : ∀ c' : Cursor n, c'.rest = t → c' = c.skip 1 :=
    fun c' h => Cursor.ext_rest (by simp [h, hc])
  constructor
  · obtain ⟨c', hc', hr⟩ := reads_spaces.complete' hnames c caps (u := [' ']) ⟨by simp, by simp⟩
      (r := t) hc
    rwa [hrest c' hr] at hc'
  · intro w hw
    obtain ⟨⟨u, ⟨hune, hu⟩, hcu⟩, hw₂⟩ := reads_spaces.mem_ways hnames hw
    obtain ⟨x, u', rfl⟩ := List.exists_cons_of_ne_nil hune
    rw [hc, List.cons_append, List.cons.injEq] at hcu
    -- a longer run would make the text after the first space start with a space
    have hu' : u' = [] := by
      cases u' with
      | nil => rfl
      | cons y u'' =>
        exact absurd (by simp [hcu.2, hu y (by simp)]) ht
    subst hu'
    exact Prod.ext (hrest w.1 (by simpa using hcu.2.symm)) hw₂

end OneChar

/-! ## The head of a constraint line -/

/-- The start that the foreign key and check grammars share: two spaces and `CONSTRAINT`, spaces,
the quoted name and spaces. -/
def constraintHead (q : Quoting) : Pattern :=
  .atStart ++ literal "  CONSTRAINT" ++ spaces ++ identifier q ++ spaces

/-- The groups that the head records for a name whose escaped body is `body`. -/
def headCaptures (body : List Char) : Captures := [("name", 14, 14 + body.length)]

section OneChar

variable {q : Quoting} {i f : Char} (hq : q.OneChar i f)
include hq

/-- A quoted name with a space after it, before a text that does not start with a space, is read
one way: up to that text, with the name's escaped body recorded. -/
theorem identifierSpaces_oneWay {n : Nat} {c : Cursor n} (caps : Captures) {name : String}
    (hn : name ≠ "") {t : List Char} (ht : t.head? ≠ some ' ')
    (hc : c.rest = (q.quote name).toList ++ ' ' :: t) :
    ∃ c' : Cursor n, c'.rest = t ∧ (identifier q ++ spaces).OneWay c caps
      (c', ("name", c.pos + 1, c.pos + 1 + (escapedName f name).length) :: caps) := by
  have hc' : c.rest = i :: escapedName f name ++ f :: ' ' :: t := by
    rw [hc, quote_toList hq]
    simp
  obtain ⟨w, hw, hwr, hw₂⟩ := identifier_complete hq caps (escapedName_mem hq name)
    (escapedName_ne_nil f hn) hc'
  have hsp := spaces_oneWay ht hwr w.2
  refine ⟨w.1.skip 1, by simp [hwr], mem_ways_append.2 ⟨w, hw, hw₂ ▸ hsp.1⟩, fun u hu => ?_⟩
  obtain ⟨v, hv, hu⟩ := mem_ways_append.1 hu
  -- the spaces need a space right after the name's way
  have hlead : v.1.rest.head? = some ' ' := by
    obtain ⟨sp, ⟨hne, hsp⟩, hx⟩ := reads_spaces.sound v.1 v.2 u hu
    obtain ⟨x, sp', rfl⟩ := List.exists_cons_of_ne_nil hne
    simp [hx, hsp x (by simp)]
  obtain ⟨hvr, hv₂⟩ := identifier_written hq hc v hv hlead
  have hvw : v = w := Prod.ext (Cursor.ext_rest (hvr.trans hwr.symm)) (hv₂.trans hw₂.symm)
  subst hvw
  rw [← hw₂]
  exact hsp.2 u hu

/-- The head of a constraint line written with a quoted name and a space, before a text that does
not start with a space, is read one way: up to that text, with the name's escaped body recorded
at its place in the line. -/
theorem constraintHead_oneWay (hi : i ≠ ' ') {name : String} (hn : name ≠ "") {t : List Char}
    (ht : t.head? ≠ some ' ') {s : List Char}
    (hs : s = "  CONSTRAINT ".toList ++ (q.quote name).toList ++ ' ' :: t) :
    ∃ c : Cursor s.length, c.rest = t ∧
      (constraintHead q).OneWay (Cursor.start s) [] (c, headCaptures (escapedName f name)) := by
  have hq' : (q.quote name).toList = i :: escapedName f name ++ [f] := quote_toList hq name
  have hrest : s = "  CONSTRAINT".toList ++ ' ' :: ((q.quote name).toList ++ ' ' :: t) := by
    rw [hs]
    rfl
  -- two spaces and `CONSTRAINT`
  have h₁ : (Pattern.atStart ++ literal "  CONSTRAINT").OneWay (Cursor.start s) []
      ((Cursor.start s).skip 12, []) := by
    have hlit : (literal "  CONSTRAINT").ways (Cursor.start s) [] = [((Cursor.start s).skip 12, [])] := by
      rw [ways_literal_self (Unicode.foldPrefix_grammarWord (by decide)) (Cursor.rest_start s ▸ hrest) [],
        (by decide : "  CONSTRAINT".length = 12)]
    have hstart : Pattern.atStart.ways (Cursor.start s) [] = [(Cursor.start s, [])] := by
      simp [Cursor.pos_start]
    constructor
    · simp [hlit, hstart]
    · intro v hv
      simpa [hlit, hstart] using hv
  -- one space
  have h₂ : spaces.OneWay ((Cursor.start s).skip 12) [] (((Cursor.start s).skip 12).skip 1, []) :=
    spaces_oneWay (t := (q.quote name).toList ++ ' ' :: t) (by simp [hq', hi])
      (by simp [hrest]) []
  -- the quoted name and its space
  have hpos : (((Cursor.start s).skip 12).skip 1).pos = 13 := by
    have hlen : 13 ≤ s.length := by simp [hrest]
    simp [Cursor.skip_skip, hlen]
  obtain ⟨c, hcr, h₃⟩ := identifierSpaces_oneWay hq (c := ((Cursor.start s).skip 12).skip 1)
    [] hn ht (by simp [Cursor.skip_skip, hrest])
  refine ⟨c, hcr, ?_⟩
  rw [hpos] at h₃
  exact (h₁.seq h₂).seq h₃ |>.assoc

end OneChar

/-! ## The key grammar on constraint lines -/

/-- The start of the key grammar: two spaces, an optional token and a space, and `KEY`. -/
def keyLead : Pattern :=
  .atStart ++ literal "  " ++ opt (.group "type" (plus nonSpace) ++ literal " ") ++ literal "KEY"

/-- A run of one or more characters that are not white space. -/
theorem reads_nonSpaces :
    Reads (plus nonSpace) {u | u ≠ [] ∧ ∀ x ∈ u, Unicode.whiteSpace.contains x = false} := by
  refine Reads.plus_chars ((Reads.chars _).congr ?_)
  ext u
  simp [mem_charsWith, CharClass.noneOf, CharClass.anyOf, CharClass.admits, ClassItem.admits]

theorem whiteSpace_space : Unicode.whiteSpace.contains ' ' = true := by
  rw [Unicode.whiteSpace_grammar (by decide)]
  decide

theorem not_mem_foldOrbit_K_C : 'C' ∉ Unicode.foldOrbit 'K' :=
  Unicode.not_mem_foldOrbit_grammar (by decide) (by decide) (by decide)

/-- `KEY` is not read where a character that is no case of `K` stands. -/
theorem ways_KEY_eq_nil {n : Nat} {c : Cursor n} {x : Char} {r : List Char}
    (hx : x ∉ Unicode.foldOrbit 'K') (hc : c.rest = x :: r) (caps : Captures) :
    (literal "KEY").ways c caps = [] := by
  rw [ways_literal, hc]
  simp [hx]

/-- On a line that starts with two spaces, `CONSTRAINT`, a space and a character that is no case
of `K`, the start of the key grammar has no way: the optional token can only be `CONSTRAINT`,
and neither it nor the character after it starts `KEY`. -/
theorem keyLead_ways_eq_nil {s r : List Char} {x : Char} (hx : x ∉ Unicode.foldOrbit 'K')
    (hs : s = "  CONSTRAINT ".toList ++ x :: r) : keyLead.ways (Cursor.start s) [] = [] := by
  refine List.eq_nil_iff_forall_not_mem.2 fun w hw => ?_
  obtain ⟨v, hv, hw⟩ := mem_ways_append.1 hw
  obtain ⟨b, hb, hv⟩ := mem_ways_append.1 hv
  obtain ⟨z, hz, hb⟩ := mem_ways_append.1 hb
  have hz' : z = (Cursor.start s, []) := by simpa [Cursor.start] using hz
  subst hz'
  obtain ⟨⟨u, hu, hsb⟩, -⟩ := (Reads.literal "  " (Unicode.all_caseless_punctuation (by decide))).mem_ways (by simp) hb
  change u = [' ', ' '] at hu
  subst hu
  have hbr : b.1.rest = "CONSTRAINT".toList ++ ' ' :: x :: r := by
    simpa [Cursor.start, hs] using hsb.symm
  rw [ways_opt] at hv
  rcases List.mem_append.1 hv with hv | hv
  · -- the token is read up to the first space, which is the one after `CONSTRAINT`
    obtain ⟨t, ht, hv⟩ := mem_ways_append.1 hv
    rw [ways_group] at ht
    obtain ⟨t', ht', rfl⟩ := List.mem_map.1 ht
    obtain ⟨⟨tok, ⟨-, htok⟩, hbt⟩, -⟩ := reads_nonSpaces.mem_ways
      (by simp [plus, nonSpace, noneOf, groupNames]) ht'
    obtain ⟨⟨sp, hsp, htv⟩, -⟩ := (Reads.literal " " (Unicode.all_caseless_punctuation (by decide))).mem_ways (by simp) hv
    change sp = [' '] at hsp
    subst hsp
    have hsplit : tok ++ ' ' :: v.1.rest = "CONSTRAINT".toList ++ ' ' :: x :: r := by
      rw [← hbr, hbt, htv]
      rfl
    have htok' : ' ' ∉ tok := fun h => by simpa [whiteSpace_space] using htok ' ' h
    obtain ⟨-, hvr⟩ := eq_of_append_cons htok' (by decide) hsplit
    simp [ways_KEY_eq_nil hx hvr] at hw
  · simp only [List.mem_singleton] at hv
    subst hv
    simp [ways_KEY_eq_nil not_mem_foldOrbit_K_C hbr] at hw

/-- The key grammar has no way on a line that starts with two spaces, `CONSTRAINT`, a space and a
character that is no case of `K`. -/
theorem key_ways_eq_nil_of_constraint (q : Quoting) {s r : List Char} {x : Char}
    (hx : x ∉ Unicode.foldOrbit 'K') (hs : s = "  CONSTRAINT ".toList ++ x :: r) :
    (key q).ways (Cursor.start s) [] = [] := by
  unfold key
  -- the thirteen pieces after `KEY` change nothing
  iterate 13 apply ways_append_eq_nil
  exact keyLead_ways_eq_nil hx hs

/-! ## Anchors and the quotes of the two conventions -/

theorem anchored_key (q : Quoting) : Anchored (key q) := by
  unfold key
  repeat apply Anchored.seq
  exact anchored_atStart

theorem anchored_foreignKey (q : Quoting) : Anchored (foreignKey q) := by
  unfold foreignKey
  repeat apply Anchored.seq
  exact anchored_atStart

theorem anchored_check (q : Quoting) : Anchored (check q) := by
  unfold check
  repeat apply Anchored.seq
  exact anchored_atStart

/-- The backtick and ANSI conventions quote with one character at both ends, which is neither a
space nor any case of a letter of `KEY`. -/
theorem quote_of_conventions {q : Quoting} (hq : q = .backtick ∨ q = .ansi) :
    ∃ i, q.OneChar i i ∧ i ≠ ' ' ∧ i ∉ Unicode.foldOrbit 'K' := by
  rcases hq with rfl | rfl
  · exact ⟨_, Quoting.oneChar_backtick, by decide, Unicode.not_mem_foldOrbit_grammar (by decide) (by decide) (by decide)⟩
  · exact ⟨_, Quoting.oneChar_ansi, by decide, Unicode.not_mem_foldOrbit_grammar (by decide) (by decide) (by decide)⟩

end Grammar

namespace Reader

open Grammar

/-! ## Searching constraint lines -/

theorem keyOfMatch_congr (g : LineGrammars) (q : Quoting) (s : List Char) {m m' : Match}
    (h : m.Agrees m') : keyOfMatch g q s m = keyOfMatch g q s m' := by
  have hg : m.group? s = m'.group? s := funext (h.group? s)
  unfold keyOfMatch
  rw [hg]

theorem foreignKeyOfMatch_congr (g : LineGrammars) (q : Quoting) (s : List Char) {m m' : Match}
    (h : m.Agrees m') : foreignKeyOfMatch g q s m = foreignKeyOfMatch g q s m' := by
  have hg : m.group? s = m'.group? s := funext (h.group? s)
  unfold foreignKeyOfMatch
  rw [hg]

/-- Reading a constraint line, with the three searches replaced by the leftmost-first matches of
the grammars' patterns. -/
theorem readConstraint_eq_leftmost {g : LineGrammars} (q : Quoting) (line : String)
    (hk : g.key.Progressive) (hkn : g.key.groupNames.Nodup)
    (hf : g.foreignKey.Progressive) (hfn : g.foreignKey.groupNames.Nodup)
    (hc : g.check.Progressive) (hcn : g.check.groupNames.Nodup) :
    readConstraint g q line =
      match g.key.leftmost line.toList with
      | some m => some (.key (keyOfMatch g q line.toList m))
      | none =>
        match g.foreignKey.leftmost line.toList with
        | some m => some (.foreignKey (foreignKeyOfMatch g q line.toList m))
        | none =>
          match g.check.leftmost line.toList with
          | some m => some (.check ⟨q.unescape ((m.group? line.toList "name").getD ""),
              (m.group? line.toList "sqltext").getD ""⟩)
          | none => if Grammar.partition.occursIn line.toList then some (.partition line) else none := by
  have hkey := Program.find?_agrees hk hkn line.toList
  have hfk := Program.find?_agrees hf hfn line.toList
  have hck := Program.find?_agrees hc hcn line.toList
  unfold readConstraint
  dsimp only
  generalize g.key.find? line.toList = a at hkey ⊢
  generalize g.key.leftmost line.toList = b at hkey ⊢
  cases hkey with
  | some hm =>
    dsimp only
    rw [keyOfMatch_congr g q _ hm]
  | none =>
    generalize g.foreignKey.find? line.toList = a' at hfk ⊢
    generalize g.foreignKey.leftmost line.toList = b' at hfk ⊢
    cases hfk with
    | some hm =>
      dsimp only
      rw [foreignKeyOfMatch_congr g q _ hm]
    | none =>
      generalize g.check.find? line.toList = a'' at hck ⊢
      generalize g.check.leftmost line.toList = b'' at hck ⊢
      cases hck with
      | some hm => simp [hm.group? line.toList]
      | none => rfl

/-- The constraint grammars of the backtick and ANSI conventions can be searched by their compiled
programs. -/
theorem constraintGrammars_searchable {q : Quoting} (hq : q = .backtick ∨ q = .ansi) :
    (key q).Progressive ∧ (key q).groupNames.Nodup ∧ (foreignKey q).Progressive ∧
      (foreignKey q).groupNames.Nodup ∧ (check q).Progressive ∧ (check q).groupNames.Nodup := by
  rcases hq with rfl | rfl <;> decide

/-- For the backtick and ANSI conventions, reading a constraint line is a function of the
leftmost-first matches of the grammars. -/
theorem readConstraint_conventions {q : Quoting} (hq : q = .backtick ∨ q = .ansi) (line : String) :
    readConstraint (LineGrammars.of q) q line =
      match (key q).leftmost line.toList with
      | some m => some (.key (keyOfMatch (LineGrammars.of q) q line.toList m))
      | none =>
        match (foreignKey q).leftmost line.toList with
        | some m => some (.foreignKey (foreignKeyOfMatch (LineGrammars.of q) q line.toList m))
        | none =>
          match (check q).leftmost line.toList with
          | some m => some (.check ⟨q.unescape ((m.group? line.toList "name").getD ""),
              (m.group? line.toList "sqltext").getD ""⟩)
          | none => if Grammar.partition.occursIn line.toList then some (.partition line) else none := by
  obtain ⟨hk, hkn, hf, hfn, hc, hcn⟩ := constraintGrammars_searchable hq
  exact readConstraint_eq_leftmost (g := LineGrammars.of q) q line hk hkn hf hfn hc hcn

end Reader

end TableDdl

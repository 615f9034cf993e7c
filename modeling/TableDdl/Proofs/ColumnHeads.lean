import TableDdl.Proofs.Matching.Alphabet
import TableDdl.Grammar.Constraint

/-!
# The head of a column line

Both column grammars start the same way: two spaces, the quoted column name, one or more spaces
and the type word (`Grammar.typeHead`). A line starts so exactly when it is `Headed`: two spaces,
the initial quote, a nonempty body of escaped final quotes and other characters, the final quote,
spaces and a word character. Cut after the longest run of word characters there, such a line is
a `ColumnHead`.

For a convention of one-character quotes escaped by doubling (`Quoting.OneChar`: the backtick and
the ANSI conventions), a line has at most one head (`ColumnHead.unique`): the body ends at the
first final quote that is not part of an escape, and what follows is spaces and then the type
word. So every way of matching the grammars' start ends inside the type word of that one head
and records its name (`typeHead_sound`), the first way ends after the whole word
(`typeHead_first`), and a line that is not headed has no way at all (`typeHead_ways_eq_nil`).
-/

namespace TableDdl

open Computability Pattern

namespace Quoting

/-- A convention of one-character quotes, without other cases, whose final quote is escaped by
writing it twice. -/
structure OneChar (q : Quoting) (i f : Char) : Prop where
  initial_eq : q.initial.toList = [i]
  final_eq : q.final.toList = [f]
  escaped_eq : q.escaped.toList = [f, f]
  initial_caseless : Unicode.Caseless i
  final_caseless : Unicode.Caseless f
  final_ne_space : f ≠ ' '

theorem oneChar_backtick : backtick.OneChar '`' '`' :=
  ⟨rfl, rfl, rfl, Unicode.caseless_punctuation (by decide), Unicode.caseless_punctuation (by decide), by decide⟩

theorem oneChar_ansi : ansi.OneChar '"' '"' :=
  ⟨rfl, rfl, rfl, Unicode.caseless_punctuation (by decide), Unicode.caseless_punctuation (by decide), by decide⟩

end Quoting

namespace Unicode

theorem word_space : word.contains ' ' = false := by
  rw [word_grammar (by decide)]
  decide

end Unicode

namespace Grammar

/-! ## Headed lines -/

/-- The pieces of a quoted name's body: the escaped final quote, or a character that is not in
the final quote. -/
def nameToken (q : Quoting) : Language Char := {q.escaped.toList} + charsWith (· ∉ q.final.toList)

/-- The body of a quoted name: a sequence of name tokens. -/
def quotedBody (q : Quoting) : Language Char := (nameToken q)∗

/-- A line that starts like a column line: two spaces, the initial quote, a nonempty body, the
final quote, one or more spaces and a word character. -/
def Headed (q : Quoting) (s : List Char) : Prop :=
  ∃ body ∈ quotedBody q, body ≠ [] ∧ ∃ sp, 0 < sp ∧ ∃ x rest, Unicode.word.contains x = true ∧
    s = [' ', ' '] ++ q.initial.toList ++ body ++ q.final.toList ++ List.replicate sp ' ' ++
      x :: rest

/-- A column line cut after its type word: two spaces, the quoted name, one or more spaces, the
longest run of word characters there, and the rest of the line. -/
@[ext] structure ColumnHead (q : Quoting) (s : List Char) where
  body : List Char
  spaces : Nat
  word : List Char
  rest : List Char
  body_mem : body ∈ quotedBody q
  body_ne : body ≠ []
  spaces_pos : 0 < spaces
  word_ne : word ≠ []
  word_chars : ∀ x ∈ word, Unicode.word.contains x = true
  rest_head : ∀ x ∈ rest.head?, Unicode.word.contains x = false
  eq : s = [' ', ' '] ++ q.initial.toList ++ body ++ q.final.toList ++ List.replicate spaces ' ' ++
    word ++ rest

namespace ColumnHead

variable {q : Quoting} {s : List Char}

/-- Where the name's body starts. -/
def nameStart (_ : ColumnHead q s) : Nat := 2 + q.initial.toList.length

/-- Where the type word starts. -/
def typeStart (h : ColumnHead q s) : Nat :=
  h.nameStart + h.body.length + q.final.toList.length + h.spaces

/-- The groups that the grammars' start records when it ends `k` characters into the type
word. -/
def captures (h : ColumnHead q s) (k : Nat) : Captures :=
  [("coltype", h.typeStart, h.typeStart + k), ("name", h.nameStart, h.nameStart + h.body.length)]

end ColumnHead

/-- The longest run of word characters at the start of a text. -/
theorem takeWhile_word {w r : List Char} (hw : ∀ x ∈ w, Unicode.word.contains x = true)
    (hr : ∀ x ∈ r.head?, Unicode.word.contains x = false) :
    (w ++ r).takeWhile (Unicode.word.contains ·) = w := by
  rw [List.takeWhile_append_of_pos hw]
  cases r with
  | nil => simp
  | cons y r =>
    have hy : Unicode.word.contains y = false := hr y rfl
    simp [hy]

/-- The head of a line cut after its spaces, before a text that starts with a word character:
the type word is the longest run of word characters there. -/
def ColumnHead.ofSplit {q : Quoting} {s body t : List Char} (hb : body ∈ quotedBody q)
    (hne : body ≠ []) {sp : Nat} (hsp : 0 < sp) (ht : ∀ x ∈ t.head?, Unicode.word.contains x = true)
    (htne : t ≠ [])
    (hs : s = [' ', ' '] ++ q.initial.toList ++ body ++ q.final.toList ++ List.replicate sp ' ' ++ t) :
    ColumnHead q s where
  body := body
  spaces := sp
  word := t.takeWhile (Unicode.word.contains ·)
  rest := t.dropWhile (Unicode.word.contains ·)
  body_mem := hb
  body_ne := hne
  spaces_pos := hsp
  word_ne := by
    obtain ⟨x, t', rfl⟩ := List.exists_cons_of_ne_nil htne
    simp [ht x rfl]
  word_chars := fun _ hy => List.all_eq_true.1 List.all_takeWhile _ hy
  rest_head := by
    intro y hy
    have := List.head?_dropWhile_not (Unicode.word.contains ·) t
    rw [hy] at this
    simpa using this
  eq := by rw [hs, List.append_assoc _ (List.takeWhile _ t), List.takeWhile_append_dropWhile]

theorem headed_iff {q : Quoting} {s : List Char} : Headed q s ↔ Nonempty (ColumnHead q s) := by
  constructor
  · rintro ⟨body, hb, hne, sp, hsp, x, rest, hx, hs⟩
    exact ⟨ColumnHead.ofSplit hb hne hsp (by simpa using hx) (List.cons_ne_nil x rest) hs⟩
  · rintro ⟨h⟩
    obtain ⟨x, w, hw⟩ := List.exists_cons_of_ne_nil h.word_ne
    refine ⟨h.body, h.body_mem, h.body_ne, h.spaces, h.spaces_pos, x, w ++ h.rest,
      h.word_chars x (by simp [hw]), ?_⟩
    calc s = _ := h.eq
      _ = _ := by rw [hw]; simp

/-! ## A line has at most one head -/

section Unique

variable {q : Quoting} {i f : Char} (hq : q.OneChar i f)
include hq

theorem mem_nameToken {y : List Char} : y ∈ nameToken q ↔ y = [f, f] ∨ ∃ x, x ≠ f ∧ y = [x] := by
  simp only [nameToken, Language.mem_add, mem_charsWith, hq.escaped_eq, hq.final_eq,
    List.mem_singleton]
  rfl

/-- A name token is fixed by the text it starts. -/
theorem nameToken_eq {y y' t t' : List Char} (hy : y ∈ nameToken q) (hy' : y' ∈ nameToken q)
    (h : y ++ t = y' ++ t') : y = y' ∧ t = t' := by
  rcases (mem_nameToken hq).1 hy with rfl | ⟨x, hx, rfl⟩ <;>
    rcases (mem_nameToken hq).1 hy' with rfl | ⟨x', hx', rfl⟩ <;> simp_all [eq_comm]

/-- No name token starts the final quote followed by a space. -/
theorem nameToken_ne_close {y t r : List Char} (hy : y ∈ nameToken q) :
    y ++ t ≠ f :: ' ' :: r := by
  intro h
  rcases (mem_nameToken hq).1 hy with rfl | ⟨x, hx, rfl⟩
  · simp only [List.cons_append, List.nil_append, List.cons.injEq, true_and] at h
    exact hq.final_ne_space h.1
  · simp only [List.cons_append, List.nil_append, List.cons.injEq] at h
    exact hx h.1

/-- The body of a quoted name that the final quote and a space follow is fixed by the text: it
ends at the first final quote that does not start an escape. -/
theorem quotedBody_unique {a b r r' : List Char} (ha : a ∈ quotedBody q) (hb : b ∈ quotedBody q)
    (h : a ++ f :: ' ' :: r = b ++ f :: ' ' :: r') : a = b := by
  obtain ⟨S, rfl, hS⟩ := Language.mem_kstar.1 ha
  obtain ⟨S', rfl, hS'⟩ := Language.mem_kstar.1 hb
  clear ha hb
  -- compare the two bodies token by token
  induction S generalizing S' with
  | nil =>
    cases S' with
    | nil => rfl
    | cons y' S' =>
      exact absurd (by simpa using h.symm) (nameToken_ne_close hq (hS' y' List.mem_cons_self))
  | cons y S ih =>
    cases S' with
    | nil => exact absurd (by simpa using h) (nameToken_ne_close hq (hS y List.mem_cons_self))
    | cons y' S' =>
      simp only [List.flatten_cons, List.append_assoc] at h ⊢
      obtain ⟨rfl, htail⟩ := nameToken_eq hq (hS y List.mem_cons_self) (hS' y' List.mem_cons_self) h
      rw [ih (fun z hz => hS z (List.mem_cons_of_mem y hz)) S'
        (fun z hz => hS' z (List.mem_cons_of_mem y hz)) htail]

omit hq in
/-- Runs of spaces before two texts that do not start with a space are as long as each other. -/
theorem replicate_space_eq {a b : Nat} {x y : Char} {r r' : List Char} (hx : x ≠ ' ')
    (hy : y ≠ ' ') (h : List.replicate a ' ' ++ x :: r = List.replicate b ' ' ++ y :: r') :
    a = b ∧ x :: r = y :: r' := by
  induction a generalizing b with
  | zero =>
    cases b with
    | zero => simpa using h
    | succ b => simp [List.replicate_succ] at h; exact absurd h.1 hx
  | succ a ih =>
    cases b with
    | zero => simp [List.replicate_succ] at h; exact absurd h.1.symm hy
    | succ b =>
      simp only [List.replicate_succ, List.cons_append, List.cons.injEq, true_and] at h
      obtain ⟨rfl, hr⟩ := ih h
      exact ⟨rfl, hr⟩

/-- A line has at most one head. -/
theorem ColumnHead.unique {s : List Char} (h₁ h₂ : ColumnHead q s) : h₁ = h₂ := by
  have e := h₁.eq.symm.trans h₂.eq
  obtain ⟨sp₁, hsp₁⟩ := Nat.exists_eq_add_of_lt h₁.spaces_pos
  obtain ⟨sp₂, hsp₂⟩ := Nat.exists_eq_add_of_lt h₂.spaces_pos
  obtain ⟨x₁, w₁, hw₁⟩ := List.exists_cons_of_ne_nil h₁.word_ne
  obtain ⟨x₂, w₂, hw₂⟩ := List.exists_cons_of_ne_nil h₂.word_ne
  simp only [hq.initial_eq, hq.final_eq, hsp₁, hsp₂, Nat.zero_add, List.replicate_succ,
    List.append_assoc, List.cons_append, List.nil_append, List.cons.injEq, true_and] at e
  -- the bodies agree, then the runs of spaces, then the type words
  have hbody : h₁.body = h₂.body := quotedBody_unique hq h₁.body_mem h₂.body_mem e
  rw [hbody, List.append_cancel_left_eq, List.cons.injEq, List.cons.injEq] at e
  have hx₁ : x₁ ≠ ' ' := fun hx => by
    simpa [hx, Unicode.word_space] using h₁.word_chars x₁ (by simp [hw₁])
  have hx₂ : x₂ ≠ ' ' := fun hx => by
    simpa [hx, Unicode.word_space] using h₂.word_chars x₂ (by simp [hw₂])
  rw [hw₁, hw₂] at e
  obtain ⟨hsp, hwr'⟩ := replicate_space_eq hx₁ hx₂ (by simpa using e.2)
  have hwr : h₁.word ++ h₁.rest = h₂.word ++ h₂.rest := by
    rw [hw₁, hw₂]
    simpa using hwr'
  have hword : h₁.word = h₂.word := by
    rw [← takeWhile_word h₁.word_chars h₁.rest_head, ← takeWhile_word h₂.word_chars h₂.rest_head,
      hwr]
  rw [hword, List.append_cancel_left_eq] at hwr
  exact ColumnHead.ext hbody (by omega) hword hwr

end Unique

/-! ## What the pieces of the grammars read -/

/-- A run of one or more spaces. -/
def spaceRun : Language Char := {u | u ≠ [] ∧ ∀ x ∈ u, x = ' '}

theorem reads_spaces : Reads spaces spaceRun := by
  refine Reads.plus_chars ((Reads.literal " " (Unicode.all_caseless_punctuation (by decide))).congr ?_)
  ext u
  show u = [' '] ↔ _
  simp [mem_charsWith]

theorem reads_wordChar : Reads wordChar (charsWith fun x => Unicode.word.contains x = true) := by
  refine (Reads.chars _).congr ?_
  ext u
  simp [mem_charsWith, CharClass.anyOf, CharClass.admits, ClassItem.admits]

theorem reads_word : Reads word {u | u ≠ [] ∧ ∀ x ∈ u, Unicode.word.contains x = true} :=
  reads_wordChar.plus_chars

/-- A run of one or more decimal digits. -/
def number : Language Char := {u | u ≠ [] ∧ ∀ x ∈ u, Unicode.digit.contains x = true}

theorem reads_digits : Reads digits number := by
  refine Reads.plus_chars ((Reads.chars _).congr ?_)
  ext u
  simp [mem_charsWith, CharClass.anyOf, CharClass.admits, ClassItem.admits]

/-- A single-quoted string, a quote inside written twice. -/
def quotedString : Language Char :=
  {['\'']} * ({['\'', '\'']} + charsWith (· ∉ ['\'']))∗ * {['\'']}

/-- The arguments of a type as the full column grammar reads them: a number, two numbers with a
comma between them, or one or more quoted strings, each followed by an optional comma. -/
def typeArgText : Language Char :=
  number + (number * {[',']} * number +
    (quotedString * ({[',']} + 1)) * (quotedString * ({[',']} + 1))∗)

theorem reads_typeArgs : Reads typeArgs typeArgText := by
  have hquote : Reads stringLiteral quotedString :=
    ((Reads.literal "'" (Unicode.all_caseless_punctuation (by decide))).seq
      (((Reads.literal "''" (Unicode.all_caseless_punctuation (by decide))).alt
        (Reads.noneOf_chars ['\''] (Unicode.all_caseless_punctuation (by decide)))).star true)).seq
      (Reads.literal "'" (Unicode.all_caseless_punctuation (by decide)))
  have hcomma := Reads.literal "," (Unicode.all_caseless_punctuation (by decide))
  exact reads_digits.alt (((reads_digits.seq hcomma).seq reads_digits).alt
    (hquote.seq hcomma.opt).plus)

section OneChar

variable {q : Quoting} {i f : Char} (hq : q.OneChar i f)
include hq

theorem reads_initial : Reads (literal q.initial) {[i]} := by
  have h := Reads.literal q.initial (by rw [hq.initial_eq]; simpa using hq.initial_caseless)
  rwa [hq.initial_eq] at h

theorem reads_final : Reads (literal q.final) {[f]} := by
  have h := Reads.literal q.final (by rw [hq.final_eq]; simpa using hq.final_caseless)
  rwa [hq.final_eq] at h

/-- The body of a quoted name: one or more name tokens. -/
theorem reads_nameBody : Reads (plus (bodyChar q)) {u | u ∈ quotedBody q ∧ u ≠ []} := by
  have htoken : Reads (bodyChar q) (nameToken q) :=
    (Reads.literal q.escaped (by rw [hq.escaped_eq]; simpa using hq.final_caseless)).alt
      (Reads.noneOf_chars q.final.toList (by rw [hq.final_eq]; simpa using hq.final_caseless))
  refine htoken.plus.congr ?_
  ext u
  have hnil : [] ∉ nameToken q := by
    rw [mem_nameToken hq]
    simp
  exact mem_mul_kstar_iff hnil

end OneChar

/-! ## The start of the column grammars -/

/-- The start that both column grammars share: two spaces, the quoted name, spaces and the type
word. -/
def typeHead (q : Quoting) : Pattern :=
  .atStart ++ literal "  " ++ identifier q ++ spaces ++ .group "coltype" word

/-- The start of the column grammars up to the type word. -/
def nameHead (q : Quoting) : Pattern := .atStart ++ literal "  " ++ identifier q ++ spaces

theorem typeHead_eq (q : Quoting) : typeHead q = nameHead q ++ .group "coltype" word := rfl

theorem anchored_typeHead (q : Quoting) : Anchored (typeHead q) :=
  Anchored.seq (Anchored.seq (Anchored.seq (Anchored.seq anchored_atStart _) _) _) _

theorem groupNames_bodyChars (q : Quoting) : (plus (bodyChar q)).groupNames = [] := by
  simp [plus, bodyChar, noneOf, groupNames]

/-- The first way of matching the type word ends after the longest run of word characters. -/
theorem head?_ways_word {n : Nat} {c : Cursor n} {w r : List Char} (hw : w ≠ [])
    (hwc : ∀ x ∈ w, Unicode.word.contains x = true)
    (hr : ∀ x ∈ r.head?, Unicode.word.contains x = false) (hc : c.rest = w ++ r)
    (caps : Captures) : ∃ v, (word.ways c caps).head? = some v ∧ v.1.rest = r ∧ v.2 = caps := by
  obtain ⟨x, w', rfl⟩ := List.exists_cons_of_ne_nil hw
  have hx : (CharClass.anyOf [.word]).admits x = true := by
    simpa [CharClass.anyOf, CharClass.admits, ClassItem.admits] using hwc x List.mem_cons_self
  have hrun : ((c.skip 1).rest.takeWhile (CharClass.anyOf [.word]).admits).length = w'.length := by
    have hadm : (CharClass.anyOf [.word]).admits = (Unicode.word.contains ·) := by
      funext y
      simp [CharClass.anyOf, CharClass.admits, ClassItem.admits]
    rw [Cursor.rest_skip, hc, hadm, List.cons_append, List.drop_one, List.tail_cons,
      takeWhile_word (fun y hy => hwc y (List.mem_cons_of_mem x hy)) hr]
  refine ⟨((c.skip 1).skip w'.length, caps), ?_, ?_, rfl⟩
  · show ((wordChar ++ .star true wordChar).ways c caps).head? = _
    rw [ways_append, wordChar, oneOf, ways_chars, hc]
    simp only [List.cons_append, hx, if_true, List.flatMap_cons, List.flatMap_nil, List.append_nil]
    rw [ways_many_chars, hrun]
    simp [List.range_succ]
  · simp [hc]

section OneChar

variable {q : Quoting} {i f : Char} (hq : q.OneChar i f)
include hq

/-- Every way of matching the start of the column grammars up to the type word reads two
spaces, the quoted name and spaces, and records the name's body. -/
theorem nameHead_sound {s : List Char} :
    ∀ v ∈ (nameHead q).ways (Cursor.start s) [], ∃ body ∈ quotedBody q, body ≠ [] ∧ ∃ sp, 0 < sp ∧
      s = [' ', ' ', i] ++ body ++ f :: (List.replicate sp ' ' ++ v.1.rest) ∧
      v.2 = [("name", 3, 3 + body.length)] := by
  intro v hv
  -- the pieces in order: anchor, two spaces, initial quote, body, final quote, spaces
  obtain ⟨a, ha, hv⟩ := mem_ways_append.1 hv
  obtain ⟨b, hb, ha⟩ := mem_ways_append.1 ha
  obtain ⟨z, hz, hb⟩ := mem_ways_append.1 hb
  obtain ⟨d, hd, ha⟩ := mem_ways_append.1 ha
  obtain ⟨e, he, hd⟩ := mem_ways_append.1 hd
  have hz' : z = (Cursor.start s, []) := by simpa [Cursor.start] using hz
  subst hz'
  obtain ⟨⟨u₁, hu₁, hsb⟩, hb₂⟩ := (Reads.literal "  " (Unicode.all_caseless_punctuation (by decide))).mem_ways (by simp) hb
  obtain ⟨⟨u₂, hu₂, hbe⟩, he₂⟩ := (reads_initial hq).mem_ways (by simp) he
  rw [ways_group] at hd
  obtain ⟨d', hd', rfl⟩ := List.mem_map.1 hd
  obtain ⟨⟨body, ⟨hbody, hne⟩, hed⟩, hd₂⟩ := (reads_nameBody hq).mem_ways (groupNames_bodyChars q) hd'
  obtain ⟨⟨u₃, hu₃, hda⟩, ha₂⟩ := (reads_final hq).mem_ways (by simp) ha
  obtain ⟨⟨u₄, ⟨hu₄ne, hu₄⟩, hav⟩, hv₂⟩ := reads_spaces.mem_ways (by simp [spaces, plus, groupNames]) hv
  change u₁ = [' ', ' '] at hu₁
  change u₂ = [i] at hu₂
  change u₃ = [f] at hu₃
  subst hu₁ hu₂ hu₃
  simp only [Cursor.start] at hsb
  have hs : s = [' ', ' ', i] ++ body ++ f :: (List.replicate u₄.length ' ' ++ v.1.rest) := by
    rw [← List.eq_replicate_iff.2 ⟨rfl, hu₄⟩]
    exact hsb.trans (by rw [hbe, hed, hda, hav]; simp)
  refine ⟨body, hbody, hne, u₄.length, List.length_pos_iff.2 hu₄ne, hs, ?_⟩
  have he_pos : e.1.pos = 3 := Cursor.pos_of_eq (a := [' ', ' ', i]) e.1 (hsb.trans (by rw [hbe]; rfl))
  have hd_pos : d'.1.pos = 3 + body.length :=
    (Cursor.pos_of_eq (a := [' ', ' ', i] ++ body) d'.1 (hsb.trans (by rw [hbe, hed]; simp))).trans
      (by simp; omega)
  rw [hv₂, ha₂, he_pos, hd_pos, hd₂, he₂, hb₂]

/-- A line that starts with two spaces, a quoted name and spaces has a way of matching the start
of the column grammars up to the type word. -/
theorem nameHead_complete {s body r : List Char} (hb : body ∈ quotedBody q) (hne : body ≠ [])
    {sp : Nat} (hsp : 0 < sp) (hs : s = [' ', ' ', i] ++ body ++ f :: (List.replicate sp ' ' ++ r)) :
    ∃ v ∈ (nameHead q).ways (Cursor.start s) [], v.1.rest = r := by
  have hz : (Cursor.start s, ([] : Captures)) ∈ Pattern.atStart.ways (Cursor.start s) [] := by
    simp [Cursor.start]
  obtain ⟨b, hb', hbr⟩ := (Reads.literal "  " (Unicode.all_caseless_punctuation (by decide))).complete' (by simp)
    (Cursor.start s) [] (u := [' ', ' ']) (r := i :: (body ++ f :: (List.replicate sp ' ' ++ r))) rfl
    (by simp [Cursor.start, hs])
  obtain ⟨e, he, her⟩ := (reads_initial hq).complete' (by simp) b [] (u := [i])
    (r := body ++ f :: (List.replicate sp ' ' ++ r)) rfl (by simp [hbr])
  obtain ⟨d, hd, hdr⟩ := (reads_nameBody hq).complete' (groupNames_bodyChars q) e [] (u := body)
    (r := f :: (List.replicate sp ' ' ++ r)) ⟨hb, hne⟩ her
  obtain ⟨a, ha, har⟩ := (reads_final hq).complete' (by simp) d [("name", e.pos, d.pos)] (u := [f])
    (r := List.replicate sp ' ' ++ r) rfl (by simp [hdr])
  obtain ⟨v, hv, hvr⟩ := reads_spaces.complete' (by simp [spaces, plus, groupNames]) a _
    (u := List.replicate sp ' ') ⟨by simpa using Nat.pos_iff_ne_zero.1 hsp, by simp⟩ har
  refine ⟨(v, [("name", e.pos, d.pos)]), ?_, hvr⟩
  refine mem_ways_append.2 ⟨(a, _), mem_ways_append.2 ⟨(b, []), mem_ways_append.2 ⟨_, hz, hb'⟩,
    mem_ways_append.2 ⟨(d, _), mem_ways_append.2 ⟨(e, []), he, ?_⟩, ha⟩⟩, hv⟩
  rw [ways_group]
  exact List.mem_map.2 ⟨(d, []), hd, rfl⟩

/-- Every way of matching the start of the column grammars ends inside the type word of the
line's head, and records the name's body and the part of the type word read. -/
theorem typeHead_sound {s : List Char} :
    ∀ w ∈ (typeHead q).ways (Cursor.start s) [], ∃ h : ColumnHead q s, ∃ k, 0 < k ∧
      k ≤ h.word.length ∧ w.1.rest = h.word.drop k ++ h.rest ∧ w.2 = h.captures k := by
  intro w hw
  rw [typeHead_eq] at hw
  obtain ⟨v, hv, hw⟩ := mem_ways_append.1 hw
  obtain ⟨body, hb, hne, sp, hsp, hs, hv₂⟩ := nameHead_sound hq v hv
  rw [ways_group] at hw
  obtain ⟨w', hw', rfl⟩ := List.mem_map.1 hw
  obtain ⟨⟨u, ⟨hune, huw⟩, hvw⟩, hw₂⟩ :=
    reads_word.mem_ways (by simp [word, plus, wordChar, oneOf, groupNames]) hw'
  have hstart : ∀ x ∈ (u ++ w'.1.rest).head?, Unicode.word.contains x = true := by
    obtain ⟨x, u', rfl⟩ := List.exists_cons_of_ne_nil hune
    simpa using huw x List.mem_cons_self
  let h : ColumnHead q s := ColumnHead.ofSplit hb hne hsp hstart (by simp [hune])
    (hs.trans (by rw [hq.initial_eq, hq.final_eq, ← hvw]; simp))
  have hword : h.word = u ++ w'.1.rest.takeWhile (Unicode.word.contains ·) :=
    List.takeWhile_append_of_pos huw
  have hrest : h.rest = w'.1.rest.dropWhile (Unicode.word.contains ·) :=
    List.dropWhile_append_of_pos huw
  refine ⟨h, u.length, List.length_pos_iff.2 hune, by simp [hword], ?_, ?_⟩
  · simp [hword, hrest]
  · have htype : h.typeStart = 3 + body.length + 1 + sp := by
      simp [ColumnHead.typeStart, ColumnHead.nameStart, h, ColumnHead.ofSplit, hq.initial_eq,
        hq.final_eq]
    have hv_pos : v.1.pos = h.typeStart := by
      rw [htype, Cursor.pos_of_eq (a := [' ', ' ', i] ++ body ++ f :: List.replicate sp ' ') v.1
        (hs.trans (by simp))]
      simp
      omega
    have hw_pos : w'.1.pos = h.typeStart + u.length := by
      rw [htype, Cursor.pos_of_eq (a := [' ', ' ', i] ++ body ++ f :: List.replicate sp ' ' ++ u)
        w'.1 (hs.trans (by rw [hvw]; simp))]
      simp
      omega
    rw [hw₂, hv₂, hv_pos, hw_pos]
    simp [ColumnHead.captures, ColumnHead.nameStart, h, ColumnHead.ofSplit, hq.initial_eq]

/-- A way of matching the start up to the type word that stops before a word character stops
before the type word of the line's head, with the head's name recorded. -/
theorem nameHead_way_eq {s : List Char} (h : ColumnHead q s) {v : Cursor s.length × Captures}
    (hv : v ∈ (nameHead q).ways (Cursor.start s) [])
    (hword : ∀ x ∈ v.1.rest.head?, Unicode.word.contains x = true) (hne : v.1.rest ≠ []) :
    v.1.rest = h.word ++ h.rest ∧ v.2 = [("name", 3, 3 + h.body.length)] := by
  obtain ⟨body, hb, hbne, sp, hsp, hs, hv₂⟩ := nameHead_sound hq v hv
  let h' : ColumnHead q s := ColumnHead.ofSplit hb hbne hsp hword hne
    (hs.trans (by rw [hq.initial_eq, hq.final_eq]; simp))
  have hh : h' = h := ColumnHead.unique hq h' h
  constructor
  · rw [← hh]
    exact (List.takeWhile_append_dropWhile).symm
  · rw [hv₂, ← hh]
    rfl

/-- The first way of matching the start of the column grammars reads the whole type word of the
line's head. -/
theorem typeHead_first {s : List Char} (h : ColumnHead q s) :
    ∃ w, ((typeHead q).ways (Cursor.start s) []).head? = some w ∧ w.1.rest = h.rest ∧
      w.2 = h.captures h.word.length := by
  have hs : s = [' ', ' ', i] ++ h.body ++ f :: (List.replicate h.spaces ' ' ++ (h.word ++ h.rest)) :=
    h.eq.trans (by rw [hq.initial_eq, hq.final_eq]; simp)
  obtain ⟨v, hv, hvr⟩ := nameHead_complete hq h.body_mem h.body_ne h.spaces_pos hs
  have hvword : ∀ x ∈ v.1.rest.head?, Unicode.word.contains x = true := by
    obtain ⟨x, w, hw⟩ := List.exists_cons_of_ne_nil h.word_ne
    rw [hvr, hw]
    simpa using h.word_chars x (by simp [hw])
  have hvne : v.1.rest ≠ [] := by simp [hvr, h.word_ne]
  -- only the way that stops before the whole type word goes on with the type word
  have huniq : ∀ v' ∈ (nameHead q).ways (Cursor.start s) [],
      (((Pattern.group "coltype" word).ways v'.1 v'.2).head?).isSome → v' = v := by
    intro v' hv' hsome
    obtain ⟨w, hw⟩ := Option.isSome_iff_exists.1 hsome
    rw [ways_group, List.head?_map] at hw
    obtain ⟨w₀, hw₀, -⟩ := Option.map_eq_some_iff.1 hw
    obtain ⟨u, ⟨hune, huw⟩, hvu⟩ := reads_word.sound v'.1 v'.2 w₀ (List.mem_of_head? hw₀)
    obtain ⟨x, u', rfl⟩ := List.exists_cons_of_ne_nil hune
    obtain ⟨hr', hc'⟩ := nameHead_way_eq hq h hv' (by simpa [hvu] using huw x List.mem_cons_self)
      (by simp [hvu])
    obtain ⟨hr, hc⟩ := nameHead_way_eq hq h hv hvword hvne
    exact Prod.ext (Cursor.ext_rest (hr'.trans hr.symm)) (hc'.trans hc.symm)
  obtain ⟨hr, hc⟩ := nameHead_way_eq hq h hv hvword hvne
  obtain ⟨w₀, hw₀, hw₀r, hw₀c⟩ := head?_ways_word h.word_ne h.word_chars h.rest_head hr v.2
  refine ⟨(w₀.1, ("coltype", v.1.pos, w₀.1.pos) :: w₀.2), ?_, hw₀r, ?_⟩
  · rw [typeHead_eq, ways_append, List.head?_flatMap, findSome?_eq_of_unique hv huniq, ways_group,
      List.head?_map, hw₀]
    rfl
  · have hpre : s = [' ', ' ', i] ++ h.body ++ f :: List.replicate h.spaces ' ' ++ v.1.rest :=
      hs.trans (by rw [hr]; simp)
    have hv_pos : v.1.pos = h.typeStart := by
      rw [Cursor.pos_of_eq v.1 hpre]
      simp [ColumnHead.typeStart, ColumnHead.nameStart, hq.initial_eq, hq.final_eq]
      omega
    have hw_pos : w₀.1.pos = h.typeStart + h.word.length := by
      rw [Cursor.pos_of_eq (a := [' ', ' ', i] ++ h.body ++ f :: List.replicate h.spaces ' ' ++ h.word)
        w₀.1 (hs.trans (by rw [hw₀r]; simp)), ← hv_pos, Cursor.pos_of_eq v.1 hpre]
      simp
      omega
    rw [hv_pos, hw_pos, hw₀c, hc]
    simp [ColumnHead.captures, ColumnHead.nameStart, hq.initial_eq]

/-- A line that is not headed has no way of matching the start of the column grammars. -/
theorem typeHead_ways_eq_nil {s : List Char} (hs : ¬ Headed q s) :
    (typeHead q).ways (Cursor.start s) [] = [] := by
  refine List.eq_nil_iff_forall_not_mem.2 fun w hw => ?_
  obtain ⟨h, -⟩ := typeHead_sound hq w hw
  exact hs (headed_iff.2 ⟨h⟩)

end OneChar

end Grammar

end TableDdl

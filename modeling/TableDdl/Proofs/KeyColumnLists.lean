import TableDdl.Proofs.CheckLines
import TableDdl.Proofs.OptionScan
import TableDdl.Render.Key

/-!
# Reading back a written column list

A key's column list, and each column list of a foreign key, is written as its entries joined by
commas: the quoted name, the prefix length in parentheses and the direction after a space
(`KeyColumn.listText`). `keyColumns` reads such a text back by searching the entry grammar again
and again from where the last match ended.

For a convention of one-character quotes escaped by doubling, each search finds the next entry
where it starts. The first way of a quoted name reads its whole escaped body
(`head?_ways_identifier`): the body is read one name character or one doubled quote at a time,
and the final quote that ends it is followed by a parenthesis, a space, a comma or the end, never
by another final quote. The entry grammar then reads the length's digits, the direction and the
comma (`matchAt_keyColumn`). So every entry with a non-empty name, a length of at most 64 bits
and a direction that uppercases to `ASC` or `DESC` reads back as written, the direction in upper
case (`keyColumns_listText`). A direction has few spellings in letter case
(`directionSpellings`), and what reading needs of it is checked over all of them
(`directionWord_of_toUpper`).
-/

namespace TableDdl

open Pattern

/-- The slice of a subject from a position over the text that stands there. -/
theorem Match.slice_of_drop {s u r : List Char} {a : Nat} (h : s.drop a = u ++ r) :
    Match.slice s a (a + u.length) = String.ofList u := by
  simp [Match.slice, h]

namespace Pattern

variable {n : Nat}

theorem head?_ways_group (g : String) (p : Pattern) (c : Cursor n) (caps : Captures) :
    ((Pattern.group g p).ways c caps).head? =
      (p.ways c caps).head?.map fun w => (w.1, (g, c.pos, w.1.pos) :: w.2) := by
  rw [ways_group, List.head?_map]

/-- An optional pattern is taken first when the pattern has a way. -/
theorem head?_ways_opt_of_head? {p : Pattern} {c : Cursor n} {caps : Captures}
    {w : Cursor n × Captures} (h : (p.ways c caps).head? = some w) :
    (p.opt.ways c caps).head? = some w := by
  rw [ways_opt, List.head?_append, h]
  rfl

/-- An optional pattern is skipped when the pattern has no way. -/
theorem head?_ways_opt_of_nil {p : Pattern} {c : Cursor n} {caps : Captures}
    (h : p.ways c caps = []) : (p.opt.ways c caps).head? = some (c, caps) := by
  simp [h]

/-- The first way of a greedy run of a class, at least one long, reads every character of the
class there. -/
theorem head?_ways_plus_chars {k : CharClass} {w r : List Char} (hw : w ≠ [])
    (hwc : ∀ x ∈ w, k.admits x = true) (hr : ∀ x ∈ r.head?, k.admits x = false)
    {c : Cursor n} (hc : c.rest = w ++ r) (caps : Captures) :
    ((plus (.chars k)).ways c caps).head? = some (c.skip w.length, caps) := by
  obtain ⟨x, w', rfl⟩ := List.exists_cons_of_ne_nil hw
  have hrun : ((c.skip 1).rest.takeWhile k.admits).length = w'.length := by
    rw [Cursor.rest_skip, hc, List.cons_append, List.drop_one, List.tail_cons,
      List.takeWhile_append_of_pos fun y hy => hwc y (List.mem_cons_of_mem x hy)]
    cases r with
    | nil => simp
    | cons y r => simp [hr y rfl]
  rw [plus, ways_append, ways_chars, hc]
  simp only [List.cons_append, hwc x List.mem_cons_self, if_true, List.flatMap_singleton]
  rw [head?_ways_many_chars, hrun, Cursor.skip_skip, List.length_cons, Nat.add_comm]

/-- Spaces have no way where no space stands. -/
theorem ways_spaces_eq_nil {c : Cursor n} (hc : c.rest.head? ≠ some ' ') (caps : Captures) :
    spaces.ways c caps = [] :=
  ways_append_eq_nil _ (Grammar.ways_literal_caseless_of_ne rfl (Unicode.caseless_punctuation (by decide)) hc caps)

end Pattern

namespace Unicode

/-- The ASCII digits are decimal digits of the regular expressions. -/
theorem digit_contains_of_isDigit {x : Char} (hx : x.isDigit = true) :
    digit.contains x = true := by
  have h0 : ('0' : Char).val.toNat = 48 := rfl
  have h9 : ('9' : Char).val.toNat = 57 := rfl
  simp only [Char.isDigit, Bool.and_eq_true, decide_eq_true_eq, ge_iff_le,
    UInt32.le_iff_toNat_le, h0, h9] at hx
  have hall : ∀ k < 10, digit.contains (Char.ofNat (48 + k)) = true := fun k hk =>
    digit_decimal (by revert k; decide)
  have h := hall (x.toNat - 48) (by simp only [Char.toNat] at hx ⊢; omega)
  rwa [show 48 + (x.toNat - 48) = x.toNat by simp only [Char.toNat] at hx ⊢; omega,
    Char.ofNat_toNat] at h

end Unicode

namespace Text

/-- A number reads back from its decimal text where it fits in 64 bits, and as nothing where it
does not. -/
theorem readWord_toString_eq (k : Nat) :
    readWord (toString k) = if k ≤ wordMax then some k else none := by
  have hdig : ∀ x ∈ Nat.toDigits 10 k, x.isDigit = true :=
    fun x hx => Nat.isDigit_of_mem_toDigits (by decide) (by decide) hx
  have hvalue : (Nat.toDigits 10 k).foldl (fun n d => 10 * n + (d.toNat - '0'.toNat)) 0 = k :=
    Nat.ofDigitChars_ten_toDigits
  obtain ⟨d, ds, hds⟩ := List.exists_cons_of_ne_nil (Nat.toDigits_ne_nil (b := 10) (n := k))
  have hd : d ≠ '+' := by
    rintro rfl
    exact absurd (hdig '+' (by simp [hds])) (by decide)
  have hall : (d :: ds).all Char.isDigit = true := List.all_eq_true.2 (hds ▸ hdig)
  rw [Nat.toString_eq_ofList_toDigits]
  unfold readWord digitsValue?
  rw [String.toList_ofList, hds]
  rw [hds] at hvalue
  -- no plus sign to strip: the digits are read as they are
  split <;> simp_all

/-- A number of at most 64 bits reads back from its decimal text. -/
theorem readWord_toString {k : Nat} (hk : k ≤ wordMax) : readWord (toString k) = some k := by
  rw [readWord_toString_eq, if_pos hk]

/-- A character that uppercases to another in ASCII is that character or the small letter that
stands 32 code points after it. -/
theorem toUpper_eq_or {x c : Char} (h : x.toUpper = c) : x = c ∨ x.toNat = c.toNat + 32 := by
  unfold Char.toUpper at h
  split at h
  · -- a small letter is shifted onto its capital
    rename_i hl
    have ha : ('a' : Char).val.toNat = 97 := rfl
    have hz : ('z' : Char).val.toNat = 122 := rfl
    have hA : ('A' : Char).val.toNat = 65 := rfl
    simp only [UInt32.le_iff_toNat_le, ha, hz] at hl
    have hv := congrArg (fun y : Char => y.val.toNat) h
    simp only [UInt32.toNat_add, UInt32.toNat_sub, ha, hA] at hv
    right
    change x.val.toNat = c.val.toNat + 32
    omega
  · exact .inl h

end Text

namespace KeyColumn

/-! ## Directions in any letter case -/

/-- The spellings of a word of capitals in any letter case: each capital as it is or small. -/
def caseSpellings : List Char → List (List Char)
  | [] => [[]]
  | c :: cs => (caseSpellings cs).flatMap fun t => [c :: t, Char.ofNat (c.toNat + 32) :: t]

/-- Characters that uppercase to a word are one of its spellings. -/
theorem mem_caseSpellings : ∀ {w l : List Char}, l.map Char.toUpper = w → l ∈ caseSpellings w
  | [], [], _ => List.mem_singleton_self _
  | [], _ :: _, h => absurd h (by simp)
  | _ :: _, [], h => absurd h (by simp)
  | c :: w, x :: l, h => by
    simp only [List.map_cons, List.cons.injEq] at h
    refine List.mem_flatMap.2 ⟨l, mem_caseSpellings h.2, ?_⟩
    rcases Text.toUpper_eq_or h.1 with hx | hx
    · simp [hx]
    · rw [← hx, Char.ofNat_toNat]
      simp

/-- The spellings of the directions `ASC` and `DESC` in any letter case. -/
def directionSpellings : List (List Char) :=
  caseSpellings "ASC".toList ++ caseSpellings "DESC".toList

theorem toList_mem_directionSpellings {d : String} (hd : d.toUpper = "ASC" ∨ d.toUpper = "DESC") :
    d.toList ∈ directionSpellings := by
  have h : ∀ w : String, d.toUpper = w → d.toList.map Char.toUpper = w.toList := fun w hw => by
    rw [← hw, String.toUpper, String.toList_map]
  rcases hd with hd | hd
  · exact List.mem_append_left _ (mem_caseSpellings (h _ hd))
  · exact List.mem_append_right _ (mem_caseSpellings (h _ hd))

/-- What reading a key's columns needs of a direction: the direction grammar reads it whole,
`ASC` tried first; it uppercases alike in ASCII and in full Unicode; it starts with a letter
that starts no clause after a column list; and it holds no closing parenthesis or line break. -/
structure DirectionWord (d : String) : Prop where
  read : (Unicode.foldPrefix "ASC".toList d.toList = true ∧ d.length = 3) ∨
    (Unicode.foldPrefix "ASC".toList d.toList = false ∧
      Unicode.foldPrefix "DESC".toList d.toList = true ∧ d.length = 4)
  upper : Text.upper d = d.toUpper
  head : ∃ x r, d.toList = x :: r ∧ x ≠ ' ' ∧ ∀ k ∈ "UKWC/".toList, x ∉ Unicode.foldOrbit k
  close_not_mem : ')' ∉ d.toList
  newline_not_mem : '\n' ∉ d.toList

/-- The facts of `DirectionWord`, checked over every spelling. -/
theorem directionSpellings_checks : directionSpellings.all (fun l =>
    ((Unicode.foldPrefix "ASC".toList l && l.length == 3) ||
      (!Unicode.foldPrefix "ASC".toList l && Unicode.foldPrefix "DESC".toList l && l.length == 4)) &&
    Text.upperChars l == l.map Char.toUpper &&
    (match l with
      | x :: _ => x != ' ' && "UKWC/".toList.all fun k => !(Unicode.foldOrbit k).contains x
      | [] => false) &&
    !l.contains ')' && !l.contains '\n') = true := by
  decide +kernel

/-- A direction that uppercases to `ASC` or `DESC` is read as the reading of column lists
needs. -/
theorem directionWord_of_toUpper {d : String} (hd : d.toUpper = "ASC" ∨ d.toUpper = "DESC") :
    DirectionWord d := by
  have h := List.all_eq_true.1 directionSpellings_checks _ (toList_mem_directionSpellings hd)
  simp only [Bool.and_eq_true, Bool.or_eq_true, beq_iff_eq, Bool.not_eq_true',
    String.length_toList] at h
  obtain ⟨⟨⟨⟨hread, hupper⟩, hhead⟩, hclose⟩, hnl⟩ := h
  refine ⟨?_, ?_, ?_, by simpa using hclose, by simpa using hnl⟩
  · rcases hread with ⟨hA, hl⟩ | ⟨⟨hA, hD⟩, hl⟩
    · exact .inl ⟨hA, hl⟩
    · exact .inr ⟨by simpa using hA, hD, hl⟩
  · rw [Text.upper, hupper, String.toUpper]
    apply String.toList_inj.1
    rw [String.toList_ofList, String.toList_map]
  · cases hl : d.toList with
    | nil => simp [hl] at hhead
    | cons x r =>
      simp only [hl, Bool.and_eq_true, bne_iff_ne, ne_eq, List.all_eq_true, Bool.not_eq_true']
        at hhead
      exact ⟨x, r, rfl, hhead.1, fun k hk => by simpa using hhead.2 k hk⟩

/-- An entry that reads back as written: a name, a length of at most 64 bits, and a direction
that uppercases to `ASC` or `DESC`, in any letter case. -/
structure Readable (kc : KeyColumn) : Prop where
  name_ne : kc.name ≠ ""
  length_le : ∀ k ∈ kc.length, k ≤ Text.wordMax
  direction_mem : ∀ d ∈ kc.direction, d.toUpper = "ASC" ∨ d.toUpper = "DESC"

/-- The entry as it is read back: its direction in upper case. -/
def upperDirection (kc : KeyColumn) : KeyColumn :=
  { kc with direction := kc.direction.map String.toUpper }

/-- An entry as characters: the quoted name, the length in parentheses, the direction after a
space. -/
theorem text_toList (q : Quoting) (kc : KeyColumn) :
    (kc.text q).toList = (q.quote kc.name).toList ++
      (Render.optionalPart "(" (kc.length.map fun k => toString k ++ ")")).toList ++
      (Render.optionalPart " " kc.direction).toList := by
  simp [text]

theorem listText_singleton (q : Quoting) (kc : KeyColumn) : listText q [kc] = kc.text q := by
  simp [listText]

theorem listText_cons_cons (q : Quoting) (a b : KeyColumn) (cs : List KeyColumn) :
    (listText q (a :: b :: cs)).toList = (a.text q).toList ++ ',' :: (listText q (b :: cs)).toList := by
  simp [listText, String.intercalate_cons_cons]

end KeyColumn

namespace Grammar

variable {n : Nat}

/-! ## The entries of a column list -/

/-- The optional length of an entry reads the written length, or nothing where none is written
and no parenthesis follows. -/
theorem head?_ways_optLength (len : Option Nat) {t : List Char} (ht : t.head? ≠ some '(') {c : Cursor n}
    (hc : c.rest = (Render.optionalPart "(" (len.map fun k => toString k ++ ")")).toList ++ t)
    (caps : Captures) :
    ((literal "(" ++ .group "length" digits ++ literal ")").opt.ways c caps).head? =
      some (c.skip (Render.optionalPart "(" (len.map fun k => toString k ++ ")")).length,
        (len.map fun k => ("length", c.pos + 1, c.pos + 1 + (toString k).length)).toList ++ caps) := by
  have hopen : Unicode.Caseless '(' := Unicode.caseless_punctuation (by decide)
  cases len with
  | none =>
    refine head?_ways_opt_of_nil (ways_append_eq_nil _ (ways_append_eq_nil _ ?_))
    have hct : c.rest = t := by simpa [Render.optionalPart] using hc
    exact ways_literal_caseless_of_ne (x := '(') rfl hopen (hct ▸ ht) caps
  | some k =>
    have hc' : c.rest = '(' :: ((toString k).toList ++ ')' :: t) := by
      simpa [Render.optionalPart] using hc
    have hdigit : ∀ x ∈ (toString k).toList, (CharClass.anyOf [.digit]).admits x = true := by
      intro x hx
      have hx' : x.isDigit = true := Nat.isDigit_of_mem_toDigits (b := 10) (by decide) (by decide)
        (by simpa [Nat.toString_eq_ofList_toDigits] using hx)
      simpa [CharClass.anyOf, CharClass.admits, ClassItem.admits] using
        Unicode.digit_contains_of_isDigit hx'
    have hclose : (CharClass.anyOf [.digit]).admits ')' = false := by
      simp [CharClass.anyOf, CharClass.admits, ClassItem.admits, Unicode.digit_grammar (x := ')') (by decide)]
    have hne : (toString k).toList ≠ [] := by simp [Nat.toDigits_ne_nil]
    -- the opening parenthesis, the digits and the closing parenthesis, each read first
    have hnum : ((digits.ways (c.skip 1) caps).head?) =
        some ((c.skip 1).skip (toString k).length, caps) := by
      rw [digits, digit, oneOf, ← String.length_toList]
      exact head?_ways_plus_chars (r := ')' :: t) hne hdigit (by simp [hclose]) (by simp [hc']) caps
    have hpos1 : (c.skip 1).pos = c.pos + 1 := by simp [hc']
    have hpos2 : ((c.skip 1).skip (toString k).length).pos = c.pos + 1 + (toString k).length := by
      simp [hc', Cursor.skip_skip, ← String.length_toList]
      omega
    have hgroup : ((literal "(" ++ .group "length" digits).ways c caps).head? =
        some ((c.skip 1).skip (toString k).length,
          ("length", c.pos + 1, c.pos + 1 + (toString k).length) :: caps) := by
      refine head?_ways_append_of_head? (v := (c.skip 1, caps))
        (by rw [ways_literal_caseless (x := '(') rfl hopen hc']; rfl) ?_
      rw [head?_ways_group, hnum, Option.map_some, hpos1, hpos2]
    have hrest : ((c.skip 1).skip (toString k).length).rest = ')' :: t := by
      rw [Cursor.rest_skip, Cursor.rest_skip, hc', List.drop_one, List.tail_cons,
        ← String.length_toList, List.drop_left]
    have htext : (Render.optionalPart "(" (some (toString k ++ ")"))).length =
        1 + (toString k).length + 1 := by
      have h1 : "(".length = 1 := rfl
      have h2 : ")".length = 1 := rfl
      simp only [Render.optionalPart, String.length_append, h1, h2]
      omega
    refine head?_ways_opt_of_head? (head?_ways_append_of_head? hgroup ?_)
    rw [ways_literal_caseless (x := ')') rfl (Unicode.caseless_punctuation (by decide)) hrest, List.head?_cons,
      Cursor.skip_skip, Cursor.skip_skip, Option.map_some, htext]
    rfl

/-- The optional direction of an entry reads the written direction after its space, or nothing
where none is written and no space follows. -/
theorem head?_ways_optDirection (dir : Option String) (hdir : ∀ d ∈ dir, KeyColumn.DirectionWord d)
    {t : List Char} (ht : t.head? ≠ some ' ') {c : Cursor n}
    (hc : c.rest = (Render.optionalPart " " dir).toList ++ t) (caps : Captures) :
    ((spaces ++ .group "direction" (.alt (literal "ASC") (literal "DESC"))).opt.ways c caps).head? =
      some (c.skip (Render.optionalPart " " dir).length,
        (dir.map fun d => ("direction", c.pos + 1, c.pos + 1 + d.length)).toList ++ caps) := by
  cases dir with
  | none =>
    have hct : c.rest = t := by simpa [Render.optionalPart] using hc
    exact head?_ways_opt_of_nil (ways_append_eq_nil _ (ways_spaces_eq_nil (hct ▸ ht) caps))
  | some d =>
    have hd := hdir d rfl
    have hc' : c.rest = ' ' :: (d.toList ++ t) := by simpa [Render.optionalPart] using hc
    have hrest : (c.skip 1).rest = d.toList ++ t := by simp [hc']
    -- one space, then the direction's word, `ASC` tried first
    have hword : ((Pattern.alt (literal "ASC") (literal "DESC")).ways (c.skip 1) caps).head? =
        some ((c.skip 1).skip d.length, caps) := by
      rw [ways_alt, ways_literal, ways_literal, hrest]
      rcases hd.read with ⟨hA, hlen⟩ | ⟨hA, hD, hlen⟩
      · rw [Unicode.foldPrefix_append_of_le t (by simp only [String.length_toList, hlen]; decide), hA,
          if_pos rfl, hlen]
        rfl
      · rw [Unicode.foldPrefix_append_of_le t (by simp only [String.length_toList, hlen]; decide), hA,
          Unicode.foldPrefix_append_of_le t (by simp only [String.length_toList, hlen]; decide), hD,
          if_pos rfl, hlen]
        rfl
    have hsp := spaces_oneWay (t := d.toList ++ t)
      (by obtain ⟨x, r, hxr, hx, -⟩ := hd.head; simp [hxr, hx]) hc' caps
    have hpos1 : (c.skip 1).pos = c.pos + 1 := by simp [hc']
    have hpos2 : ((c.skip 1).skip d.length).pos = c.pos + 1 + d.length := by
      simp [hc', Cursor.skip_skip, ← String.length_toList]
      omega
    refine head?_ways_opt_of_head? ?_
    rw [hsp.head?_append, head?_ways_group, hword, Option.map_some, hpos1, hpos2, Cursor.skip_skip]
    simp [Render.optionalPart, String.length_append]
    rfl

/-- An entry ends at a comma, which is read, or at the end of the text. -/
theorem head?_ways_entryEnd {c : Cursor n} (hc : c.rest = [] ∨ c.rest.head? = some ',')
    (caps : Captures) :
    ((Pattern.alt (literal ",") .atEnd).ways c caps).head? =
      some (c.skip (if c.rest = [] then 0 else 1), caps) := by
  have hcomma : Unicode.Caseless ',' := Unicode.caseless_punctuation (by decide)
  rcases hc with hc | hc
  · rw [ways_alt, ways_literal_caseless_of_ne (x := ',') rfl hcomma (by simp [hc]), ways_atEnd]
    simp [hc]
  · obtain ⟨u, hu⟩ : ∃ u, c.rest = ',' :: u := by
      cases h : c.rest with
      | nil => simp [h] at hc
      | cons y u => exact ⟨u, by simpa [h] using hc⟩
    rw [ways_alt, ways_literal_caseless (x := ',') rfl hcomma hu]
    simp [hu]

section OneChar

variable {q : Quoting} {i f : Char} (hq : q.OneChar i f)
include hq

/-! ## The body of a quoted name -/

/-- One character of a name, as the body holds it, is read as one body character: a doubled
final quote by the escape, any other character by itself. -/
theorem ways_bodyChar_token {c : Cursor n} {x : Char} {t : List Char}
    (hc : c.rest = (if x = f then [f, f] else [x]) ++ t) (caps : Captures) :
    (bodyChar q).ways c caps = [(c.skip (if x = f then 2 else 1), caps)] := by
  have hcase := hq.final_caseless
  have hesc : ∀ y ∈ q.escaped.toList, Unicode.Caseless y := by simp [hq.escaped_eq, hcase]
  have hlen : q.escaped.length = 2 := by rw [← String.length_toList, hq.escaped_eq]; rfl
  unfold bodyChar
  rw [ways_alt, ways_literal, hq.final_eq, List.map_singleton, noneOf, ways_chars, hc]
  by_cases hx : x = f
  · subst hx
    have hpre : Unicode.foldPrefix q.escaped.toList (x :: x :: t) = true :=
      (Unicode.foldPrefix_iff hesc _).2 (by simp [hq.escaped_eq])
    have hadm : (CharClass.noneOf [.char x]).admits x = false := by
      simpa using (admits_noneOf_caseless hcase x).not
    simp [hpre, hlen, hadm]
  · have hpre : Unicode.foldPrefix q.escaped.toList (x :: t) = false := by
      rw [Bool.eq_false_iff, Ne, Unicode.foldPrefix_iff hesc, hq.escaped_eq]
      rintro ⟨u, hu⟩
      exact hx (List.cons_eq_cons.1 hu).1.symm
    simp [hx, hpre, (admits_noneOf_caseless hcase x).2 hx]

/-- A final quote that no other final quote follows is no body character. -/
theorem ways_bodyChar_end {c : Cursor n} {r : List Char} (hc : c.rest = f :: r)
    (hr : r.head? ≠ some f) (caps : Captures) : (bodyChar q).ways c caps = [] := by
  have hcase := hq.final_caseless
  have hesc : ∀ y ∈ q.escaped.toList, Unicode.Caseless y := by simp [hq.escaped_eq, hcase]
  have hpre : Unicode.foldPrefix q.escaped.toList c.rest = false := by
    rw [Bool.eq_false_iff, Ne, Unicode.foldPrefix_iff hesc, hq.escaped_eq, hc]
    rintro ⟨u, hu⟩
    simp only [List.cons_append, List.nil_append, List.cons.injEq, true_and] at hu
    exact hr (by simp [← hu])
  have hadm : (CharClass.noneOf [.char f]).admits f = false := by
    simpa using (admits_noneOf_caseless hcase f).not
  unfold bodyChar
  rw [ways_alt, ways_literal, hpre, hq.final_eq, List.map_singleton, noneOf, ways_chars, hc]
  simp [hadm]

/-- Over the characters of a name as the body holds them, before a final quote that no other
final quote follows, the first way of a run of body characters reads them all. -/
theorem head?_ways_bodyRun (l : List Char) {r : List Char} (hr : r.head? ≠ some f)
    {c : Cursor n} (hc : c.rest = (l.flatMap fun x => if x = f then [f, f] else [x]) ++ f :: r)
    (caps : Captures) :
    ((Pattern.star true (bodyChar q)).ways c caps).head? =
      some (c.skip (l.flatMap fun x => if x = f then [f, f] else [x]).length, caps) := by
  -- induction on the name's characters: each is one body character, read before the run stops
  induction l generalizing c with
  | nil =>
    rw [ways_many_of_nil (ways_bodyChar_end hq (by simpa using hc) hr caps)]
    simp
  | cons x l ih =>
    have htok : c.rest = (if x = f then [f, f] else [x]) ++
        ((l.flatMap fun x => if x = f then [f, f] else [x]) ++ f :: r) := by
      rw [hc, List.flatMap_cons, List.append_assoc]
    have hlen : (if x = f then 2 else 1) = (if x = f then [f, f] else [x]).length := by
      split <;> rfl
    have hpos : c.pos < (c.skip (if x = f then 2 else 1)).pos := by
      simp only [Cursor.pos_skip, htok, List.length_append]
      split <;> simp
    rw [head?_ways_many_of_single (ways_bodyChar_token hq htok caps) hpos,
      ih (by rw [Cursor.rest_skip, htok, hlen, List.drop_left]), Cursor.skip_skip, hlen,
      List.flatMap_cons, List.length_append]

/-! ## Quoted names -/

/-- The first way of a quoted identifier over a written name that no final quote follows reads
the whole name and records its escaped body. -/
theorem head?_ways_identifier {name : String} (hn : name ≠ "") {r : List Char}
    (hr : r.head? ≠ some f) {c : Cursor n} (hc : c.rest = (q.quote name).toList ++ r)
    (caps : Captures) :
    ((identifier q).ways c caps).head? =
      some (c.skip ((escapedName f name).length + 2),
        ("name", c.pos + 1, c.pos + 1 + (escapedName f name).length) :: caps) := by
  obtain ⟨x, l, hxl⟩ := List.exists_cons_of_ne_nil (by simpa using hn : name.toList ≠ [])
  have hesc : escapedName f name = (if x = f then [f, f] else [x]) ++
      (l.flatMap fun x => if x = f then [f, f] else [x]) := by
    simp [escapedName, hxl]
  have hc' : c.rest = i :: (escapedName f name ++ f :: r) := by
    rw [hc, quote_toList hq]
    simp
  have hlen : 0 < (escapedName f name).length := by
    rw [hesc]
    split <;> simp
  -- the initial quote
  have hinit : (literal q.initial).ways c caps = [(c.skip 1, caps)] :=
    ways_literal_caseless hq.initial_eq hq.initial_caseless hc' caps
  -- the body: its first character, then the run of the others
  have hfirst : (bodyChar q).ways (c.skip 1) caps =
      [((c.skip 1).skip (if x = f then 2 else 1), caps)] :=
    ways_bodyChar_token hq (t := (l.flatMap fun x => if x = f then [f, f] else [x]) ++ f :: r)
      (by simp [hc', hesc]) caps
  have hrun := head?_ways_bodyRun hq l hr (c := (c.skip 1).skip (if x = f then 2 else 1))
    (by rw [Cursor.skip_skip, Cursor.rest_skip, hc', hesc]; split <;> simp) caps
  have hbody : ((plus (bodyChar q)).ways (c.skip 1) caps).head? =
      some (c.skip (1 + (escapedName f name).length), caps) := by
    rw [plus, ways_append, hfirst, List.flatMap_singleton, hrun, Cursor.skip_skip, Cursor.skip_skip,
      hesc, List.length_append]
    split <;> simp
  -- the final quote
  have hfinal : ((literal q.final).ways (c.skip (1 + (escapedName f name).length))
      (("name", c.pos + 1, c.pos + 1 + (escapedName f name).length) :: caps)).head? =
      some (c.skip ((escapedName f name).length + 2),
        ("name", c.pos + 1, c.pos + 1 + (escapedName f name).length) :: caps) := by
    rw [ways_literal_caseless hq.final_eq hq.final_caseless (r := r)
      (by rw [Cursor.rest_skip, hc', Nat.add_comm, List.drop_succ_cons, List.drop_left]),
      Cursor.skip_skip]
    simp [Nat.add_comm 1, Nat.add_assoc]
  have hpos1 : (c.skip 1).pos = c.pos + 1 := by simp [hc']
  have hpos2 : (c.skip (1 + (escapedName f name).length)).pos =
      c.pos + 1 + (escapedName f name).length := by
    simp [hc']
    omega
  have hhead : ((literal q.initial ++ .group "name" (plus (bodyChar q))).ways c caps).head? =
      some (c.skip (1 + (escapedName f name).length),
        ("name", c.pos + 1, c.pos + 1 + (escapedName f name).length) :: caps) := by
    refine head?_ways_append_of_head? (v := (c.skip 1, caps)) (by rw [hinit]; rfl) ?_
    rw [head?_ways_group, hbody, Option.map_some, hpos1, hpos2]
  exact head?_ways_append_of_head? hhead hfinal

/-! ## Entries -/

/-- The groups that the entry grammar records for an entry written at position `p`, the last
one first: the direction, the length and the name's escaped body. -/
def entryCaptures (f : Char) (kc : KeyColumn) (p : Nat) : Captures :=
  let afterName := p + (escapedName f kc.name).length + 2
  let afterLength :=
    afterName + (Render.optionalPart "(" (kc.length.map fun k => toString k ++ ")")).length
  (kc.direction.map fun d => ("direction", afterLength + 1, afterLength + 1 + d.length)).toList ++
    (kc.length.map fun k => ("length", afterName + 1, afterName + 1 + (toString k).length)).toList ++
    [("name", p + 1, p + 1 + (escapedName f kc.name).length)]

/-- The first way of the entry grammar over a written entry reads the entry and the comma after
it, and records the entry's groups. -/
theorem head?_ways_keyColumn (hf : f ≠ '(' ∧ f ≠ ',') {kc : KeyColumn} (hkc : kc.Readable)
    {r : List Char} (hr : r = [] ∨ r.head? = some ',') {c : Cursor n}
    (hc : c.rest = (kc.text q).toList ++ r) :
    ((keyColumn q).ways c []).head? =
      some (c.skip ((kc.text q).length + if r = [] then 0 else 1), entryCaptures f kc c.pos) := by
  -- the entry's pieces after the name
  set L := (Render.optionalPart "(" (kc.length.map fun k => toString k ++ ")")).toList with hL
  set D := (Render.optionalPart " " kc.direction).toList with hD
  have hrD : (D ++ r).head? ≠ some '(' ∧ (D ++ r).head? ≠ some f := by
    have hsp := hq.final_ne_space.symm
    rw [hD]
    rcases hr with rfl | hr
    · cases kc.direction <;> simp [Render.optionalPart, hsp]
    · cases kc.direction <;> simp [Render.optionalPart, hr, hf.2.symm, hsp]
  have hrL : (L ++ D ++ r).head? ≠ some f := by
    rw [hL]
    cases kc.length with
    | none => simpa [Render.optionalPart] using hrD.2
    | some k => simp [Render.optionalPart, hf.1.symm]
  have hesc : (q.quote kc.name).toList.length = (escapedName f kc.name).length + 2 := by
    simp [quote_toList hq]
  have htoList : (kc.text q).toList = (q.quote kc.name).toList ++ L ++ D := by
    rw [KeyColumn.text_toList]
  have htext : (kc.text q).length = (escapedName f kc.name).length + 2 +
      ((Render.optionalPart "(" (kc.length.map fun k => toString k ++ ")")).length +
        (Render.optionalPart " " kc.direction).length) := by
    rw [← String.length_toList, htoList, List.length_append, List.length_append, hesc, hL, hD,
      String.length_toList, String.length_toList, Nat.add_assoc]
  -- the name, the length, the direction and the end, each read first
  have hI := head?_ways_identifier hq hkc.name_ne (r := L ++ D ++ r) hrL
    (by rw [hc, htoList, List.append_assoc, List.append_assoc, List.append_assoc]) []
  have h1 : (c.skip ((escapedName f kc.name).length + 2)).rest = L ++ (D ++ r) := by
    rw [Cursor.rest_skip, hc, htoList, ← hesc, List.append_assoc, List.append_assoc,
      List.drop_left]
  have hLen := head?_ways_optLength kc.length hrD.1 h1
    [("name", c.pos + 1, c.pos + 1 + (escapedName f kc.name).length)]
  have h2 : ((c.skip ((escapedName f kc.name).length + 2)).skip L.length).rest = D ++ r := by
    rw [Cursor.rest_skip, h1, List.drop_left]
  have hr' : r.head? ≠ some ' ' := by
    rcases hr with rfl | hr
    · simp
    · simp [hr]
  have hDir := head?_ways_optDirection kc.direction
    (fun d hd => KeyColumn.directionWord_of_toUpper (hkc.direction_mem d hd)) hr' h2
    ((kc.length.map fun k => ("length", (c.skip ((escapedName f kc.name).length + 2)).pos + 1,
      (c.skip ((escapedName f kc.name).length + 2)).pos + 1 + (toString k).length)).toList ++
      [("name", c.pos + 1, c.pos + 1 + (escapedName f kc.name).length)])
  have h3 : (((c.skip ((escapedName f kc.name).length + 2)).skip L.length).skip D.length).rest = r := by
    rw [Cursor.rest_skip, h2, List.drop_left]
  have hEnd := head?_ways_entryEnd (c := ((c.skip ((escapedName f kc.name).length + 2)).skip
    L.length).skip D.length) (by rw [h3]; exact hr.imp id id)
  -- where each piece starts
  have hlen : (escapedName f kc.name).length + 2 + L.length + D.length ≤ c.rest.length := by
    rw [hc, List.length_append, htoList, List.length_append, List.length_append, hesc]
    omega
  have hpos1 : (c.skip ((escapedName f kc.name).length + 2)).pos =
      c.pos + (escapedName f kc.name).length + 2 := by
    simp only [Cursor.pos_skip]
    omega
  have hpos2 : ((c.skip ((escapedName f kc.name).length + 2)).skip L.length).pos =
      c.pos + (escapedName f kc.name).length + 2 + L.length := by
    simp only [Cursor.skip_skip, Cursor.pos_skip]
    omega
  simp only [hL, hD, String.length_toList] at hLen hDir hEnd hpos2 h3
  rw [keyColumn]
  refine head?_ways_append_of_head? (head?_ways_append_of_head? (head?_ways_append_of_head? hI hLen)
    hDir) ?_
  rw [hEnd, h3, Cursor.skip_skip, Cursor.skip_skip, Cursor.skip_skip, htext, hpos1, hpos2]
  simp only [entryCaptures, Nat.add_assoc, List.append_assoc]

end OneChar

end Grammar

namespace Reader

open Grammar

/-- The entry that `keyColumns` reads from a match of the entry grammar. -/
def keyColumnOfMatch (q : Quoting) (s : List Char) (m : Match) : KeyColumn :=
  { name := q.unescape ((m.group? s "name").getD "")
    length := (m.group? s "length").bind Text.readWord
    direction := (m.group? s "direction").map Text.upper }

theorem keyColumns_eq (q : Quoting) (keyColumn : Pattern) (text : String) :
    keyColumns q keyColumn text = (keyColumn.findAll text.toList).map (keyColumnOfMatch q text.toList) :=
  rfl

/-- Entries are read the same way from matches that agree on their groups. -/
theorem map_keyColumnOfMatch_congr (q : Quoting) (s : List Char) {ms ms' : List Match}
    (h : List.Forall₂ Match.Agrees ms ms') :
    ms.map (keyColumnOfMatch q s) = ms'.map (keyColumnOfMatch q s) := by
  induction h with
  | nil => rfl
  | cons hm _ ih =>
    rw [List.map_cons, List.map_cons, ih]
    simp only [keyColumnOfMatch, hm.group? s]

section OneChar

variable {q : Quoting} {i f : Char} (hq : q.OneChar i f)
include hq

/-- The groups recorded for a written entry read back the entry, its direction in upper
case. -/
theorem keyColumnOfMatch_entry {kc : KeyColumn} (hkc : kc.Readable) {s r : List Char} {p e : Nat}
    (hs : s.drop p = (kc.text q).toList ++ r) :
    keyColumnOfMatch q s ⟨p, e, entryCaptures f kc p⟩ = kc.upperDirection := by
  obtain ⟨name, len, dir⟩ := kc
  have hquote := quote_toList hq name
  -- the name's body stands after the initial quote, the length after the name and its
  -- parenthesis, the direction after the length and its space
  have hname : s.drop (p + 1) = escapedName f name ++
      (f :: ((Render.optionalPart "(" (len.map fun k => toString k ++ ")")).toList ++
        (Render.optionalPart " " dir).toList ++ r)) := by
    rw [← List.drop_drop, hs, KeyColumn.text_toList, hquote]
    simp
  have hgname : Match.group? ⟨p, e, entryCaptures f ⟨name, len, dir⟩ p⟩ s "name" =
      some (String.ofList (escapedName f name)) := by
    cases len <;> cases dir <;>
      simp [Match.group?, Match.span?, entryCaptures, Match.slice_of_drop hname]
  have hglen : (Match.group? ⟨p, e, entryCaptures f ⟨name, len, dir⟩ p⟩ s "length").bind
      Text.readWord = len := by
    cases len with
    | none => cases dir <;> simp [Match.group?, Match.span?, entryCaptures]
    | some k =>
      have hdrop : s.drop (p + (escapedName f name).length + 2 + 1) =
          (toString k).toList ++ (')' :: ((Render.optionalPart " " dir).toList ++ r)) := by
        rw [show p + (escapedName f name).length + 2 + 1 = p + ((escapedName f name).length + 3) by
          omega, ← List.drop_drop, hs, KeyColumn.text_toList, hquote]
        simp [Render.optionalPart]
      have hslice := Match.slice_of_drop hdrop
      have hread := Text.readWord_toString (hkc.length_le k rfl)
      rw [String.length_toList, String.ofList_toList] at hslice
      simp only [Nat.toString_eq_repr] at hslice hread
      cases dir <;> simp [Match.group?, Match.span?, entryCaptures, hslice, hread]
  have hgdir : (Match.group? ⟨p, e, entryCaptures f ⟨name, len, dir⟩ p⟩ s "direction").map
      Text.upper = dir.map String.toUpper := by
    cases dir with
    | none => cases len <;> simp [Match.group?, Match.span?, entryCaptures]
    | some d =>
      have hdrop : s.drop (p + (escapedName f name).length + 2 +
          (Render.optionalPart "(" (len.map fun k => toString k ++ ")")).length + 1) =
          d.toList ++ r := by
        have hlist : (KeyColumn.text q ⟨name, len, some d⟩).toList ++ r =
            ((i :: escapedName f name ++ [f]) ++
              (Render.optionalPart "(" (len.map fun k => toString k ++ ")")).toList) ++
              ' ' :: (d.toList ++ r) := by
          rw [KeyColumn.text_toList, hquote]
          simp [Render.optionalPart]
        have hlen : p + (escapedName f name).length + 2 +
            (Render.optionalPart "(" (len.map fun k => toString k ++ ")")).length + 1 =
            p + (((i :: escapedName f name ++ [f]) ++
              (Render.optionalPart "(" (len.map fun k => toString k ++ ")")).toList).length + 1) := by
          simp only [List.length_append, List.length_cons, List.length_nil, String.length_toList]
          omega
        rw [hlen, ← List.drop_drop, hs, hlist, List.drop_append]
        simp
      have hslice := Match.slice_of_drop hdrop
      rw [String.length_toList, String.ofList_toList] at hslice
      have hup := (KeyColumn.directionWord_of_toUpper (hkc.direction_mem d rfl)).upper
      simp only [Nat.toString_eq_repr] at hslice
      simp [Match.group?, Match.span?, entryCaptures, hslice, hup]
  simp only [keyColumnOfMatch, hgname, hglen, hgdir, Option.getD_some, unescape_escapedName hq,
    KeyColumn.upperDirection]

/-- The entry grammar, searched where a written entry starts, matches the entry and the comma
after it. -/
theorem matchAt_keyColumn (hf : f ≠ '(' ∧ f ≠ ',') {kc : KeyColumn} (hkc : kc.Readable)
    {s r : List Char} {pos : Nat} (hs : s.drop pos = (kc.text q).toList ++ r)
    (hr : r = [] ∨ r.head? = some ',') :
    (keyColumn q).matchAt ((Cursor.start s).skip pos) =
      some ⟨pos, pos + ((kc.text q).length + if r = [] then 0 else 1), entryCaptures f kc pos⟩ := by
  have hlen : (kc.text q).toList.length + r.length = s.length - pos := by
    rw [← List.length_append, ← hs, List.length_drop]
  have hne : 0 < (kc.text q).toList.length := by
    simp [KeyColumn.text_toList, quote_toList hq]
  have hle : pos ≤ s.length := by omega
  have hend : (if r = [] then 0 else 1) ≤ r.length := by
    rcases hr with rfl | hr
    · simp
    · cases r with
      | nil => simp at hr
      | cons y r => simp
  have hk : pos + ((kc.text q).length + if r = [] then 0 else 1) ≤ s.length := by
    rw [← String.length_toList]
    omega
  rw [matchAt_eq_head?, head?_ways_keyColumn hq hf hkc hr (by rw [rest_skip_start, hs]),
    Option.map_some, pos_skip_start hle, Cursor.skip_skip, pos_skip_start hk]

/-- The entry grammar has no match at the end of the subject. -/
theorem allFrom_keyColumn_end (s : List Char) : (keyColumn q).allFrom s s.length = [] := by
  rw [allFrom, leftmostFrom_eq_none]
  intro j hj _
  have hnil : ((Cursor.start s).skip j).rest = [] := by
    rw [rest_skip_start, List.drop_eq_nil_iff]
    exact hj
  have hways : (keyColumn q).ways ((Cursor.start s).skip j) [] = [] := by
    unfold keyColumn identifier
    iterate 5 apply ways_append_eq_nil
    rw [ways_literal, hnil, hq.initial_eq]
    rfl
  rw [matchAt_eq_head?, hways]
  rfl

/-- Searching the entry grammar again and again over a written column list, from where its
first entry starts, reads every entry back, in order, its direction in upper case. -/
theorem allFrom_keyColumn (hf : f ≠ '(' ∧ f ≠ ',') {s : List Char} :
    ∀ (cs : List KeyColumn) {pos : Nat}, cs ≠ [] → (∀ kc ∈ cs, kc.Readable) →
      s.drop pos = (KeyColumn.listText q cs).toList →
      ((keyColumn q).allFrom s pos).map (keyColumnOfMatch q s) = cs.map KeyColumn.upperDirection
  | [], _, hne, _, _ => absurd rfl hne
  | [kc], pos, _, hcs, hs => by
    have hs' : s.drop pos = (kc.text q).toList ++ [] := by
      rw [hs, KeyColumn.listText_singleton, List.append_nil]
    have hm := matchAt_keyColumn hq hf (hcs kc List.mem_cons_self) hs' (.inl rfl)
    have hlen : (kc.text q).toList.length = s.length - pos := by
      rw [← List.length_drop, hs', List.append_nil]
    have hne : 0 < (kc.text q).toList.length := by
      simp [KeyColumn.text_toList, quote_toList hq]
    -- the one entry runs to the end of the subject
    have hstop : pos + ((kc.text q).length + if ([] : List Char) = [] then 0 else 1) = s.length := by
      simp only [if_true, ← String.length_toList]
      omega
    rw [hstop] at hm
    have hres : (⟨pos, s.length, entryCaptures f kc pos⟩ : Match).resume = s.length :=
      if_pos (show pos < s.length by omega)
    rw [allFrom, leftmostFrom_eq_some (Nat.le_refl pos) (by omega) (fun j h1 h2 => by omega) hm]
    dsimp only
    rw [hres, if_pos ⟨by omega, Nat.le_refl _⟩, allFrom_keyColumn_end hq s, List.map_singleton,
      keyColumnOfMatch_entry hq (hcs kc List.mem_cons_self) hs', List.map_singleton]
  | a :: b :: cs, pos, _, hcs, hs => by
    have hs' : s.drop pos = (a.text q).toList ++ ',' :: (KeyColumn.listText q (b :: cs)).toList := by
      rw [hs, KeyColumn.listText_cons_cons]
    have hm := matchAt_keyColumn hq hf (hcs a List.mem_cons_self) hs' (.inr rfl)
    have hlen : (a.text q).toList.length + 1 + (KeyColumn.listText q (b :: cs)).toList.length =
        s.length - pos := by
      rw [← List.length_drop, hs', List.length_append, List.length_cons]
      omega
    have hne : 0 < (a.text q).toList.length := by
      simp [KeyColumn.text_toList, quote_toList hq]
    have hrest : 0 < (KeyColumn.listText q (b :: cs)).toList.length := by
      cases cs with
      | nil => simp [KeyColumn.listText_singleton, KeyColumn.text_toList, quote_toList hq]
      | cons c cs => simp [KeyColumn.listText_cons_cons, KeyColumn.text_toList, quote_toList hq]
    -- the next search starts after the comma, where the next entry starts
    have hnext : s.drop (pos + ((a.text q).length + 1)) = (KeyColumn.listText q (b :: cs)).toList := by
      rw [← List.drop_drop, hs', ← String.length_toList]
      simp
    have hif : (if (',' :: (KeyColumn.listText q (b :: cs)).toList) = [] then 0 else 1) = 1 := rfl
    rw [hif] at hm
    have hlt : pos < pos + ((a.text q).length + 1) := by omega
    have hle : pos + ((a.text q).length + 1) ≤ s.length := by
      rw [← String.length_toList]
      omega
    have hres : (⟨pos, pos + ((a.text q).length + 1), entryCaptures f a pos⟩ : Match).resume =
        pos + ((a.text q).length + 1) :=
      if_pos hlt
    rw [allFrom, leftmostFrom_eq_some (Nat.le_refl pos) (by omega) (fun j h1 h2 => by omega) hm]
    dsimp only
    rw [hres, if_pos ⟨hlt, hle⟩,
      List.map_cons, keyColumnOfMatch_entry hq (hcs a List.mem_cons_self) hs', List.map_cons,
      allFrom_keyColumn hf (b :: cs) (List.cons_ne_nil b cs)
        (fun kc hkc => hcs kc (List.mem_cons_of_mem a hkc)) hnext]

end OneChar

/-- For the backtick and ANSI conventions, the compiled search of the entry grammar reads the
entries of its leftmost-first matches, searched again and again from the start. -/
theorem keyColumns_eq_allFrom {q : Quoting} (hq : q = .backtick ∨ q = .ansi) (text : String) :
    keyColumns q (keyColumn q) text =
      ((keyColumn q).allFrom text.toList 0).map (keyColumnOfMatch q text.toList) := by
  have hsearch : (keyColumn q).Progressive ∧ (keyColumn q).groupNames.Nodup := by
    rcases hq with rfl | rfl <;> decide
  rw [keyColumns_eq, map_keyColumnOfMatch_congr q _ (Program.findAll_agrees hsearch.1 hsearch.2 _)]

/-- The backtick and the double quote are one-character quotes escaped by doubling, and neither
is an opening parenthesis or a comma. -/
theorem oneChar_of_preset {q : Quoting} (hq : q = .backtick ∨ q = .ansi) :
    ∃ i, q.OneChar i i ∧ i ≠ '(' ∧ i ≠ ',' := by
  rcases hq with rfl | rfl
  · exact ⟨_, Quoting.oneChar_backtick, by decide, by decide⟩
  · exact ⟨_, Quoting.oneChar_ansi, by decide, by decide⟩

/-- For the backtick and ANSI conventions, a written column list reads back as written when its
entries have names, lengths of at most 64 bits and directions that uppercase to `ASC` or `DESC`:
whatever the names hold, quotes, commas, parentheses, spaces or the words themselves, and with
each direction in upper case. -/
theorem keyColumns_listText {q : Quoting} (hq : q = .backtick ∨ q = .ansi) {cs : List KeyColumn}
    (hne : cs ≠ []) (hcs : ∀ kc ∈ cs, kc.Readable) :
    keyColumns q (keyColumn q) (KeyColumn.listText q cs) = cs.map KeyColumn.upperDirection := by
  obtain ⟨i, hqi, hf⟩ := oneChar_of_preset hq
  rw [keyColumns_eq_allFrom hq]
  exact allFrom_keyColumn hqi hf cs hne hcs List.drop_zero

/-- A name holding a doubled backtick, a comma, a closing parenthesis and ` DESC`, with a length
and a direction in small letters, and a second entry with a direction in mixed case, read back
with the directions in upper case. -/
theorem keyColumns_listText_mixed_case :
    ((Quoting.backtick = .backtick ∨ Quoting.backtick = .ansi) ∧
      [(⟨"a`b,c) DESC", some 32, some "desc"⟩ : KeyColumn), ⟨"x", none, some "Asc"⟩] ≠ [] ∧
      ∀ kc ∈ [(⟨"a`b,c) DESC", some 32, some "desc"⟩ : KeyColumn), ⟨"x", none, some "Asc"⟩],
        kc.Readable) ∧
    keyColumns .backtick (keyColumn .backtick)
        (KeyColumn.listText .backtick [⟨"a`b,c) DESC", some 32, some "desc"⟩, ⟨"x", none, some "Asc"⟩]) =
      [⟨"a`b,c) DESC", some 32, some "DESC"⟩, ⟨"x", none, some "ASC"⟩] := by
  have hdesc : "desc".toUpper = "DESC" := by
    apply String.toList_inj.1
    rw [String.toUpper, String.toList_map]
    decide
  have hasc : "Asc".toUpper = "ASC" := by
    apply String.toList_inj.1
    rw [String.toUpper, String.toList_map]
    decide
  have hcs : ∀ kc ∈ [(⟨"a`b,c) DESC", some 32, some "desc"⟩ : KeyColumn), ⟨"x", none, some "Asc"⟩],
      kc.Readable := by
    intro kc hkc
    simp only [List.mem_cons, List.not_mem_nil, or_false] at hkc
    rcases hkc with rfl | rfl
    · exact ⟨by decide, by simp [Text.wordMax], by simp [hdesc]⟩
    · exact ⟨by decide, by simp, by simp [hasc]⟩
  refine ⟨⟨.inl rfl, by simp, hcs⟩, ?_⟩
  rw [keyColumns_listText (.inl rfl) (by simp) hcs]
  simp [KeyColumn.upperDirection, hdesc, hasc]

end Reader

end TableDdl

import TableDdl.Quoting

/-!
# Reading back quoted qualified names

A qualified name is written as its names, each quoted, joined by dots; `Quoting.splitQualified`
reads such a text back. Whether it gives the names back depends on how the tokens of the
convention overlap. Reading the body of a quoted name stops at the first final quote that is
not the start of an escaped one and that a dot or the end follows, so three things must hold:

* the escaped form starts with the final quote, so that escaping never hides a final quote
  inside a name and unescaping undoes escaping (`replaceNonempty_replaceNonempty`);
* what follows the final quote in the escaped form does not start with a dot, so that a final
  quote before the dot of the next name is not read as an escape;
* the final quote does not overlap itself, so that the end of a name cannot complete a final
  quote early (`not_prefix_replaceNonempty_append`).

The doubled quotes of MySQL and of ANSI SQL are such conventions; a convention whose escape does
not start with its final quote is not, whatever `Quoting.make?` accepts
(`splitQualified_misreads_foreign_escape`).
-/

namespace TableDdl

namespace Text

section replaceNonempty

variable {pat rep : List Char} (hpat : pat ≠ [])

@[simp] theorem replaceNonempty_nil : replaceNonempty pat rep hpat [] = [] := by
  rw [replaceNonempty]

theorem replaceNonempty_of_startsWith {s : List Char} (h : pat <+: s) :
    replaceNonempty pat rep hpat s = rep ++ replaceNonempty pat rep hpat (s.drop pat.length) := by
  cases s with
  | nil => exact absurd (List.prefix_nil.1 h) hpat
  | cons c r =>
    rw [replaceNonempty, if_pos (List.isPrefixOf_iff_prefix.2 h)]

theorem replaceNonempty_cons_of_not_startsWith {c : Char} {r : List Char} (h : ¬ pat <+: c :: r) :
    replaceNonempty pat rep hpat (c :: r) = c :: replaceNonempty pat rep hpat r := by
  rw [replaceNonempty, if_neg (mt List.isPrefixOf_iff_prefix.1 h)]

/-- When the replacement starts with the pattern, replacing changes nothing in the first
`pat.length` characters of any continuation: a copied character stays, and a replaced
occurrence starts as the pattern did. -/
theorem take_replaceNonempty_append (hrep : pat <+: rep) (s x : List Char) {k : Nat}
    (hk : k ≤ pat.length) :
    (replaceNonempty pat rep hpat s ++ x).take k = (s ++ x).take k := by
  induction s using replaceNonempty.induct pat hpat generalizing k with
  | case1 => simp
  | case2 c r hpre _ =>
    rw [replaceNonempty_of_startsWith hpat (List.isPrefixOf_iff_prefix.1 hpre)]
    obtain ⟨t, rfl⟩ := hrep
    obtain ⟨u, hu⟩ := List.isPrefixOf_iff_prefix.1 hpre
    rw [← hu, List.append_assoc, List.append_assoc, List.append_assoc,
      List.take_append_of_le_length hk, List.take_append_of_le_length hk]
  | case3 c r hnpre ih =>
    rw [replaceNonempty_cons_of_not_startsWith hpat (mt List.isPrefixOf_iff_prefix.2 hnpre)]
    cases k with
    | zero => rfl
    | succ k => simp [ih (Nat.le_of_succ_le hk)]

/-- When the replacement starts with the pattern, replacing the replacement back undoes the
replacing. -/
theorem replaceNonempty_replaceNonempty (hrep : pat <+: rep) (hrep' : rep ≠ []) (s : List Char) :
    replaceNonempty rep pat hrep' (replaceNonempty pat rep hpat s) = s := by
  induction s using replaceNonempty.induct pat hpat with
  | case1 => simp
  | case2 c r hpre ih =>
    rw [replaceNonempty_of_startsWith hpat (List.isPrefixOf_iff_prefix.1 hpre),
      replaceNonempty_of_startsWith hrep' (List.prefix_append rep _), List.drop_left, ih]
    obtain ⟨u, hu⟩ := List.isPrefixOf_iff_prefix.1 hpre
    rw [← hu, List.drop_left]
  | case3 c r hnpre ih =>
    have hnp : ¬ pat <+: c :: r := mt List.isPrefixOf_iff_prefix.2 hnpre
    rw [replaceNonempty_cons_of_not_startsWith hpat hnp]
    -- the replaced text starts as the text did, so the replacement cannot start it
    have hnrep : ¬ rep <+: c :: replaceNonempty pat rep hpat r := by
      intro h
      have htake := take_replaceNonempty_append hpat hrep (c :: r) [] (Nat.le_refl pat.length)
      rw [replaceNonempty_cons_of_not_startsWith hpat hnp, List.append_nil, List.append_nil] at htake
      apply hnp
      rw [List.prefix_iff_eq_take, ← htake]
      exact List.prefix_iff_eq_take.1 (hrep.trans h)
    rw [replaceNonempty_cons_of_not_startsWith hrep' hnrep, ih]

theorem replaceChars_of_ne (rep s : List Char) : replaceChars pat rep s = replaceNonempty pat rep hpat s :=
  dif_neg hpat

/-- A text overlaps itself when a non-empty proper beginning of it is also its end, as `]]` and
`aba` do. -/
def OverlapsItself (f : List Char) : Prop :=
  ∃ k, 0 < k ∧ k < f.length ∧ f.take k = f.drop (f.length - k)

/-- When the replacement starts with the pattern and the pattern does not overlap itself, a
text that does not start with the pattern, replaced and followed by the pattern, does not start
with the pattern either: the end of the text cannot complete the pattern early. -/
theorem not_prefix_replaceNonempty_append (hrep : pat <+: rep) (hno : ¬ OverlapsItself pat)
    {n : List Char} (hn : n ≠ []) (hnp : ¬ pat <+: n) (tail : List Char) :
    ¬ pat <+: replaceNonempty pat rep hpat n ++ (pat ++ tail) := by
  intro h
  rw [List.prefix_iff_eq_take, take_replaceNonempty_append hpat hrep n _ (Nat.le_refl _)] at h
  by_cases hlen : pat.length ≤ n.length
  · rw [List.take_append_of_le_length hlen] at h
    exact hnp (List.prefix_iff_eq_take.2 h)
  · -- the pattern would be `n` followed by a proper beginning of itself, hence overlap itself
    have hlt : n.length < pat.length := Nat.lt_of_not_le hlen
    have hn0 : 0 < n.length := List.length_pos_iff.2 hn
    rw [List.take_append, List.take_of_length_le (Nat.le_of_lt hlt),
      List.take_append_of_le_length (Nat.sub_le _ _)] at h
    apply hno
    refine ⟨pat.length - n.length, by omega, by omega, ?_⟩
    have hdrop : pat.drop n.length = pat.take (pat.length - n.length) := by
      have := congrArg (List.drop n.length) h
      rwa [List.drop_left] at this
    rw [show pat.length - (pat.length - n.length) = n.length by omega, hdrop]

/-- Replacing by a non-empty text keeps a non-empty text non-empty. -/
theorem replaceNonempty_ne_nil (hrep : rep ≠ []) {s : List Char} (hs : s ≠ []) :
    replaceNonempty pat rep hpat s ≠ [] := by
  obtain ⟨c, r, rfl⟩ := List.exists_cons_of_ne_nil hs
  by_cases h : pat <+: c :: r
  · rw [replaceNonempty_of_startsWith hpat h]
    simp [hrep]
  · rw [replaceNonempty_cons_of_not_startsWith hpat h]
    simp

end replaceNonempty

end Text

namespace Quoting

/-- The conventions under which every quoted qualified name reads back: the escaped form is the
final quote followed by more text that does not start with a dot, and the final quote does not
overlap itself. -/
structure Unambiguous (q : Quoting) : Prop where
  escaped_extends : ∃ s, q.escaped.toList = q.final.toList ++ s ∧ s.head? ≠ some '.'
  final_not_overlapping : ¬ Text.OverlapsItself q.final.toList

/-- A one-character final quote, escaped by itself followed by text that does not start with a
dot, makes an unambiguous convention. -/
theorem unambiguous_of_single {q : Quoting} {c : Char} {s : List Char} (hf : q.final.toList = [c])
    (he : q.escaped.toList = c :: s) (hs : s.head? ≠ some '.') : q.Unambiguous where
  escaped_extends := ⟨s, by rw [he, hf]; rfl, hs⟩
  final_not_overlapping := by
    rintro ⟨k, hk0, hk1, -⟩
    rw [hf] at hk1
    simp at hk1
    omega

theorem unambiguous_backtick : backtick.Unambiguous :=
  unambiguous_of_single (c := '`') (s := ['`']) rfl rfl (by decide)

theorem unambiguous_ansi : ansi.Unambiguous :=
  unambiguous_of_single (c := '"') (s := ['"']) rfl rfl (by decide)

section unambiguous

variable {q : Quoting} (hq : q.Unambiguous)
include hq

theorem final_prefix_escaped : q.final.toList <+: q.escaped.toList := by
  obtain ⟨s, he, -⟩ := hq.escaped_extends
  exact ⟨s, he.symm⟩

/-- Unescaping undoes escaping. -/
theorem unescape_replace (n : String) : q.unescape (Text.replace n q.final q.escaped) = n := by
  simp only [unescape, Text.replace, String.toList_ofList,
    Text.replaceChars_of_ne q.final_toList_ne, Text.replaceChars_of_ne q.escaped_toList_ne,
    Text.replaceNonempty_replaceNonempty q.final_toList_ne (final_prefix_escaped hq),
    String.ofList_toList]

/-- A final quote followed by the end of the text or by a dot is not an escaped final quote:
what the escape adds to the final quote is not empty and does not start with a dot. -/
theorem not_escaped_prefix_final (tail : List Char)
    (htail : tail.head? = none ∨ tail.head? = some '.') :
    ¬ q.escaped.toList <+: q.final.toList ++ tail := by
  obtain ⟨s, he, hs⟩ := hq.escaped_extends
  have hs0 : s ≠ [] := by
    rintro rfl
    exact q.escaped_ne_final (String.toList_inj.1 (by simpa using he))
  rw [he, List.prefix_append_right_inj]
  intro hst
  cases tail with
  | nil => exact hs0 (List.prefix_nil.1 hst)
  | cons c t =>
    obtain ⟨d, s', rfl⟩ := List.exists_cons_of_ne_nil hs0
    obtain ⟨rfl, -⟩ := List.cons_prefix_cons.1 hst
    simp_all

/-- The body of a quoted name reads back as it was written: the escaped name, up to the final
quote, when the end of the text or a dot follows that quote. -/
theorem scanBody_escaped (n tail : List Char) (htail : tail.head? = none ∨ tail.head? = some '.') :
    q.scanBody (Text.replaceChars q.final.toList q.escaped.toList n ++ q.final.toList ++ tail) =
      some (Text.replaceChars q.final.toList q.escaped.toList n, tail) := by
  have hF := q.final_toList_ne
  rw [Text.replaceChars_of_ne hF]
  induction n using Text.replaceNonempty.induct q.final.toList hF with
  | case1 =>
    -- the final quote right away: not an escape, since no more of the escape follows
    rw [Text.replaceNonempty_nil, List.nil_append, scanBody,
      dif_neg (mt List.isPrefixOf_iff_prefix.1 (not_escaped_prefix_final hq tail htail)),
      if_pos (List.isPrefixOf_iff_prefix.2 (List.prefix_append _ _))]
    rcases htail with h | h <;> simp [← String.length_toList, h]
  | case2 c r hpre ih =>
    -- an escaped final quote, read as written
    rw [Text.replaceNonempty_of_startsWith hF (List.isPrefixOf_iff_prefix.1 hpre), scanBody,
      dif_pos (List.isPrefixOf_iff_prefix.2 (by simp [List.append_assoc]))]
    simp [← String.length_toList, List.append_assoc] at ih ⊢
    simp [ih]
  | case3 c r hnpre ih =>
    -- a character of the name: neither an escape nor the final quote starts here
    have hnp : ¬ q.final.toList <+: c :: r := mt List.isPrefixOf_iff_prefix.2 hnpre
    have hnF := Text.not_prefix_replaceNonempty_append hF (final_prefix_escaped hq)
      hq.final_not_overlapping (List.cons_ne_nil c r) hnp tail
    rw [Text.replaceNonempty_cons_of_not_startsWith hF hnp] at hnF ⊢
    have hnE : ¬ q.escaped.toList <+: c :: Text.replaceNonempty q.final.toList q.escaped.toList hF r ++
        (q.final.toList ++ tail) := fun h => hnF ((final_prefix_escaped hq).trans h)
    rw [scanBody, dif_neg (mt List.isPrefixOf_iff_prefix.1 (by simpa [List.append_assoc] using hnE)),
      if_neg (mt List.isPrefixOf_iff_prefix.1 (by simpa [List.append_assoc] using hnF))]
    simp only [List.append_assoc] at ih
    simp [ih]

/-- A quoted name at the start of a text reads as its escaped body, when the end of the text or
a dot follows it. -/
theorem takeQuoted_quote (n : String) (tail : List Char)
    (htail : tail.head? = none ∨ tail.head? = some '.') :
    q.takeQuoted ((q.quote n).toList ++ tail) =
      some (Text.replaceChars q.final.toList q.escaped.toList n.toList, tail) := by
  have hsplit : (q.quote n).toList ++ tail = q.initial.toList ++
      (Text.replaceChars q.final.toList q.escaped.toList n.toList ++ q.final.toList ++ tail) := by
    simp [quote, Text.replace, List.append_assoc]
  rw [hsplit, takeQuoted, if_pos (List.isPrefixOf_iff_prefix.2 (List.prefix_append _ _)),
    ← String.length_toList, List.drop_left]
  exact scanBody_escaped hq n.toList tail htail

/-- Splitting a text that starts with a quoted non-empty name gives the name, then the names of
what follows its dot. -/
theorem splitNames_quote {n : String} (hn : n ≠ "") (tail : List Char)
    (htail : tail = [] ∨ ∃ rest, tail = '.' :: rest) :
    q.splitNames ((q.quote n).toList ++ tail) = n :: q.splitNames (dropDot tail) := by
  have htake := takeQuoted_quote hq n tail (by rcases htail with rfl | ⟨rest, rfl⟩ <;> simp)
  have hs : (q.quote n).toList ++ tail ≠ [] := by
    simp [quote, String.toList_eq_nil_iff, q.initial_ne]
  have hbody : Text.replaceChars q.final.toList q.escaped.toList n.toList ≠ [] := by
    rw [Text.replaceChars_of_ne q.final_toList_ne]
    exact Text.replaceNonempty_ne_nil _ q.escaped_toList_ne (by simpa using hn)
  rw [splitNames, dif_neg hs]
  split
  · rename_i body after h
    rw [htake, Option.some.injEq, Prod.mk.injEq] at h
    obtain ⟨rfl, rfl⟩ := h
    have hunescape : q.unescape (String.ofList (Text.replaceChars q.final.toList q.escaped.toList
        n.toList)) = n := unescape_replace hq n
    simp [hbody, hunescape]
  · rename_i h
    rw [htake] at h
    cases h

/-- Names, each non-empty, quoted and joined by dots read back as the names, and unescaping
undoes the escaping of every name, under an unambiguous convention. -/
theorem splitQualified_quoteQualified {names : List String} (hne : names ≠ [])
    (hnames : ∀ n ∈ names, n ≠ "") :
    q.splitQualified (q.quoteQualified names) = names ∧
      ∀ n, q.unescape (Text.replace n q.final q.escaped) = n := by
  refine ⟨?_, unescape_replace hq⟩
  induction names with
  | nil => exact absurd rfl hne
  | cons n rest ih =>
    cases rest with
    | nil =>
      have h := splitNames_quote hq (hnames n (by simp)) [] (.inl rfl)
      rw [List.append_nil] at h
      rw [splitQualified, quoteQualified, List.map_singleton, String.intercalate_singleton, h]
      simp [dropDot, splitNames]
    | cons m rest =>
      -- the first name, its dot, then the other names as they are written alone
      have hwritten : (q.quoteQualified (n :: m :: rest)).toList =
          (q.quote n).toList ++ '.' :: (q.quoteQualified (m :: rest)).toList := by
        simp [quoteQualified]
      rw [splitQualified, hwritten, splitNames_quote hq (hnames n (by simp)) _ (.inr ⟨_, rfl⟩)]
      simp only [dropDot]
      rw [← splitQualified, ih (by simp) (fun x hx => hnames x (List.mem_cons_of_mem n hx))]

end unambiguous

/-- Under the convention of MySQL, a qualified name with an escaped quote reads back. -/
theorem splitQualified_quoteQualified_backtick :
    Quoting.backtick.Unambiguous ∧ ["db", "we`ird"] ≠ [] ∧ (∀ n ∈ ["db", "we`ird"], n ≠ "") ∧
      (Quoting.backtick.splitQualified (Quoting.backtick.quoteQualified ["db", "we`ird"]) =
          ["db", "we`ird"] ∧
        ∀ n, Quoting.backtick.unescape (Text.replace n Quoting.backtick.final
          Quoting.backtick.escaped) = n) :=
  ⟨unambiguous_backtick, by decide, by decide,
    splitQualified_quoteQualified unambiguous_backtick (by decide) (by decide)⟩

/-- Tokens that `make?` accepts do not make every qualified name read back: with `x` as the
escaped form of `]`, the name `x` is written `[x]`, which reads as the name `]`. -/
theorem splitQualified_misreads_foreign_escape :
    ∃ q : Quoting, Quoting.make? "[" "]" "x" = .ok q ∧
      q.splitQualified (q.quoteQualified ["x"]) = ["]"] ∧
      q.unescape (Text.replace "x" q.final q.escaped) = "]" :=
  ⟨_, rfl, by decide +kernel, by decide +kernel⟩

end Quoting

end TableDdl

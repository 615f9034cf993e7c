import TableDdl.Reader.Table
import TableDdl.Proofs.SortedOptions

/-!
# Reading a definition line by line

Each line of a table definition is read on its own: what a line adds to the table and to the
warnings does not depend on the lines before it. `readLine_eq_merge` says so for one line:
reading a line after any table merges what the line alone gives into that table, and appends
what it alone warns about. By induction over the lines, reading lines from any table and
warnings merges what the lines alone give (`foldl_readLine_eq_merge`). The lines of
`a ++ "\n" ++ b` are the lines of `a` followed by those of `b`, so reading that text merges the
readings of `a` and `b` (`parse_append_lines`).

Options are the one part of a table where merging is not appending: a later option of a name
replaces an earlier one. Every table that reading reaches keeps its options sorted, and on
sorted options the merge is associative.
-/

namespace TableDdl

namespace OptionMap

/-- A union into the empty map is the right map, when that map is sorted. -/
theorem empty_union {n : OptionMap} (hn : n.Sorted) : empty.union n = n :=
  ext_of_sorted (sorted_empty.union n) hn fun k => by
    rw [get?_union _ hn, get?_empty, Option.or_none]

end OptionMap

namespace Table

@[simp] theorem merge_empty (t : Table) (c : String) : t.merge (empty c) = t := by
  cases t
  simp [merge, empty]

/-- Merging into a table read from nothing over the table's own character set gives the table. -/
theorem empty_merge {t : Table} {c : String} (hc : t.charset = c) (ht : t.options.Sorted) :
    (empty c).merge t = t := by
  obtain ⟨name, charset, columns, options, keys, foreignKeys, checks, partitions⟩ := t
  subst hc
  simp [merge, empty, OptionMap.empty_union ht]

theorem merge_assoc {a b c : Table} (ha : a.options.Sorted) (hb : b.options.Sorted)
    (hc : c.options.Sorted) : (a.merge b).merge c = a.merge (b.merge c) := by
  simp [merge, OptionMap.union_assoc ha hb hc, Option.or_assoc]

theorem sorted_merge {a : Table} (ha : a.options.Sorted) (b : Table) :
    (a.merge b).options.Sorted :=
  ha.union b.options

@[simp] theorem charset_merge (a b : Table) : (a.merge b).charset = a.charset := rfl

@[simp] theorem charset_empty (c : String) : (empty c).charset = c := rfl

theorem sorted_empty (c : String) : (empty c).options.Sorted := OptionMap.sorted_empty

end Table

namespace Reader

variable (r : Reader) (g : LineGrammars)

/-- The options of a line are inserted one after the other; on sorted options that is the
union with the options the line gives alone. -/
theorem addOptions_eq_union {m : OptionMap} (hm : m.Sorted) (line : String) :
    r.addOptions m line = m.union (r.addOptions .empty line) := by
  unfold addOptions
  generalize (scanOptions line).entries = es
  -- insertions keep a map sorted, whatever the entries
  have hsorted : ∀ (es : List (String × String)) {m : OptionMap}, m.Sorted →
      (es.foldl (fun acc (x : String × String) => acc.insert (r.dialect ++ "_" ++ x.1) x.2) m).Sorted := by
    intro es
    induction es with
    | nil => exact id
    | cons e rest ih => exact fun hm => ih (hm.insert _ _)
  induction es generalizing m with
  | nil => rfl
  | cons e rest ih =>
    obtain ⟨k, v⟩ := e
    simp only [List.foldl_cons]
    rw [ih (hm.insert _ v), ih (OptionMap.sorted_empty.insert _ v),
      ← OptionMap.union_assoc hm (OptionMap.sorted_empty.insert _ v)
        (hsorted rest OptionMap.sorted_empty), OptionMap.union_insert_empty]

/-- Reading one line after a table merges what the line gives alone into the table, and the
line's warnings follow those already there. -/
theorem readLine_eq_merge {t : Table} (ht : t.options.Sorted) (ws : List Warning)
    (line c : String) :
    r.readLine g (t, ws) line =
      (t.merge (r.readLine g (.empty c, []) line).1, ws ++ (r.readLine g (.empty c, []) line).2) := by
  obtain ⟨name, charset, columns, options, keys, foreignKeys, checks, partitions⟩ := t
  rcases hk : r.classify line
  case column => simp [readLine, hk, Table.merge, Table.empty]
  case tableOptions => simp [readLine, hk, Table.merge, Table.empty, ← addOptions_eq_union r ht]
  case tableName =>
    rcases hf : g.tableName.find? line.toList with _ | m <;>
      simp [readLine, hk, hf, Table.merge, Table.empty]
  case terminator | empty => simp [readLine, hk]
  case constraint =>
    rcases hc : readConstraint g r.quoting line with _ | c
    · simp [readLine, hk, hc]
    · cases c <;> simp [readLine, hk, hc, Table.merge, Table.empty, Table.addConstraint]

/-- Reading a line keeps the options sorted. -/
theorem sorted_readLine {t : Table} (ht : t.options.Sorted) (ws : List Warning) (line : String) :
    (r.readLine g (t, ws) line).1.options.Sorted := by
  rw [readLine_eq_merge r g ht ws line t.charset]
  exact Table.sorted_merge ht _

theorem sorted_foldl_readLine (lines : List String) {t : Table} (ht : t.options.Sorted)
    (ws : List Warning) : (lines.foldl (r.readLine g) (t, ws)).1.options.Sorted := by
  induction lines generalizing t ws with
  | nil => exact ht
  | cons line rest ih =>
    have hs := sorted_readLine r g ht ws line
    rcases hstep : r.readLine g (t, ws) line with ⟨t', ws'⟩
    rw [hstep] at hs
    rw [List.foldl_cons, hstep]
    exact ih hs ws'

/-- Reading lines after a table merges what the lines give alone into the table; their
warnings follow those already there. -/
theorem foldl_readLine_eq_merge (lines : List String) {t : Table} (ht : t.options.Sorted)
    (ws : List Warning) (c : String) :
    lines.foldl (r.readLine g) (t, ws) =
      (t.merge (lines.foldl (r.readLine g) (.empty c, [])).1,
        ws ++ (lines.foldl (r.readLine g) (.empty c, [])).2) := by
  induction lines generalizing t ws with
  | nil => simp
  | cons line rest ih =>
    -- the line's own reading, from nothing
    rcases hd : r.readLine g (.empty c, []) line with ⟨d, w⟩
    have hdo : d.options.Sorted := by
      have := sorted_readLine r g (Table.sorted_empty c) [] line
      rwa [hd] at this
    have hrest := sorted_foldl_readLine r g rest (Table.sorted_empty c) []
    simp only [List.foldl_cons]
    rw [readLine_eq_merge r g ht ws line c, hd, ih (Table.sorted_merge ht d), ih hdo,
      Table.merge_assoc ht hdo hrest]
    simp

/-- Reading lines keeps the character set. -/
theorem charset_foldl_readLine (lines : List String) {t : Table} (ht : t.options.Sorted)
    (ws : List Warning) : (lines.foldl (r.readLine g) (t, ws)).1.charset = t.charset := by
  rw [foldl_readLine_eq_merge r g lines ht ws t.charset]
  rfl

/-- A list of the table that merging appends to, such as its columns, collects over the lines
what each line gives alone, in the order of the lines. -/
theorem foldl_readLine_field {α : Type} (f : Table → List α)
    (hf : ∀ a b : Table, f (a.merge b) = f a ++ f b) (lines : List String) {t : Table}
    (ht : t.options.Sorted) (ws : List Warning) (c : String) :
    f (lines.foldl (r.readLine g) (t, ws)).1 =
      f t ++ lines.flatMap fun l => f (r.readLine g (.empty c, []) l).1 := by
  induction lines generalizing t ws with
  | nil => simp
  | cons line rest ih =>
    rw [List.foldl_cons, readLine_eq_merge r g ht ws line c, ih (Table.sorted_merge ht _), hf,
      List.flatMap_cons, List.append_assoc]

/-- The warnings of lines collect, in the order of the lines, what each line warns about alone. -/
theorem foldl_readLine_warnings (lines : List String) {t : Table} (ht : t.options.Sorted)
    (ws : List Warning) (c : String) :
    (lines.foldl (r.readLine g) (t, ws)).2 =
      ws ++ lines.flatMap fun l => (r.readLine g (.empty c, []) l).2 := by
  induction lines generalizing t ws with
  | nil => simp
  | cons line rest ih =>
    rw [List.foldl_cons, readLine_eq_merge r g ht ws line c, ih (Table.sorted_merge ht _),
      List.flatMap_cons, List.append_assoc]

/-- Reading two texts joined by a line feed: the table is the merge of the tables read from
each text alone, over the same character set, and the warnings of the first text and then of
the second follow those already given. -/
theorem parse_append_lines (a b cs : String) (ws : List Warning) :
    r.parse (a ++ "\n" ++ b) cs ws =
        ((r.parse a cs []).1.merge (r.parse b cs []).1,
          ws ++ (r.parse a cs []).2 ++ (r.parse b cs []).2) ∧
      (r.parse (a ++ "\n" ++ b) cs ws).1.charset = cs := by
  have hE := Table.sorted_empty cs
  have hA := sorted_foldl_readLine r (LineGrammars.of r.quoting) (definitionLines a) hE []
  have hAc := charset_foldl_readLine r (LineGrammars.of r.quoting) (definitionLines a) hE []
  rw [Table.charset_empty] at hAc
  have hsplit : r.parse (a ++ "\n" ++ b) cs ws =
      ((r.parse a cs []).1.merge (r.parse b cs []).1,
        ws ++ (r.parse a cs []).2 ++ (r.parse b cs []).2) := by
    simp only [parse, definitionLines_append, List.foldl_append]
    rw [foldl_readLine_eq_merge r _ _ hE ws cs, Table.empty_merge hAc hA,
      foldl_readLine_eq_merge r _ _ hA _ cs]
  refine ⟨hsplit, ?_⟩
  rw [hsplit, Table.charset_merge]
  exact hAc

end Reader

end TableDdl

import TableDdl.Proofs.LineByLine

/-!
# Every line is accounted for

Reading a definition drops no line silently. A column line gives a column, or a warning that it
is no column definition; a constraint line gives a key, a foreign key, a check or a partition
line, or a warning that it defines nothing known; the lines of the other kinds warn about
nothing. A column that only the loose grammar reads comes with a warning that it was read in
part, and a column whose type name the registry does not know comes with a warning and the
family `null`. A warning about a line carries the line as it was read, and the warnings follow
the order of the lines.

The proof rests on reading line by line: the columns, constraints and warnings of a text are
those of its lines read alone, in order (`LineByLine`). One case analysis over a single line
(`readAlone_accounts`) then settles every count, and the counts of a text are sums over its
lines.
-/

namespace TableDdl

namespace TypeRegistry

/-- Whether the registry has an entry under the given name, taken as it is: the registry keeps
its names lowercased, as a column keeps its type name. -/
def knows (reg : TypeRegistry) (key : String) : Bool :=
  reg.entries.any (·.1 == key)

/-- A registry resolves a name exactly when it knows the name lowercased. -/
theorem resolve_eq_none_iff (reg : TypeRegistry) (n : String) :
    reg.resolve n = none ↔ reg.knows (Text.lower n) = false := by
  simp [resolve, knows, List.find?_eq_none]

end TypeRegistry

namespace Reader

/-- What one line gives when it is read alone over the character set: its table and its
warnings. -/
def readAlone (r : Reader) (cs line : String) : Table × List Warning :=
  r.readLine (LineGrammars.of r.quoting) (.empty cs, []) line

/-- The accounting of one line read alone: against its kind, the columns, constraints and
warnings that it gives. -/
structure LineAccount (r : Reader) (line : String) (t : Table) (ws : List Warning) : Prop where
  /-- A column line gives one column or one warning that it is none; other lines neither. -/
  columns : t.columns.length + ws.countP (· matches .unknownColumnDefinition _) =
    if r.classify line = .column then 1 else 0
  /-- A constraint line gives one constraint or one warning that it is none; other lines
  neither. -/
  constraints : t.keys.length + t.foreignKeys.length + t.checks.length + t.partitions.length +
    ws.countP (· matches .unknownSchemaContent _) = if r.classify line = .constraint then 1 else 0
  /-- A warning that a column was read in part for each degraded column. -/
  incomplete : ws.countP (· matches .incompleteColumnReflection _) = t.columns.countP (·.degraded)
  /-- A warning about the type for each column whose type name the registry does not know. -/
  unrecognized : ws.countP (· matches .unrecognizedType _ _) =
    t.columns.countP (!r.registry.knows ·.type.name)
  /-- A column whose type name the registry does not know is of the family `null`. -/
  null_kind : ∀ c ∈ t.columns, r.registry.knows c.type.name = false → c.type.kind = .null
  /-- A warning about a line is about this line. -/
  line_of : ∀ w ∈ ws, w.line? = none ∨ w.line? = some line
  /-- Lines that are neither columns nor constraints warn about nothing. -/
  quiet : r.classify line ≠ .column → r.classify line ≠ .constraint → ws = []

section columnOfMatch

variable (q : Quoting) (reg : TypeRegistry) (s : List Char) (m : Match) (full : Bool)

@[simp] theorem degraded_columnOfMatch : (columnOfMatch q reg s m full).1.degraded = !full := rfl

theorem typeName_columnOfMatch :
    (columnOfMatch q reg s m full).1.type.name = Text.lower ((m.group? s "coltype").getD "") :=
  rfl

/-- A column read from a match warns about its type exactly when the registry does not know
the type name. -/
theorem warnings_columnOfMatch :
    (columnOfMatch q reg s m full).2 =
      if reg.knows (columnOfMatch q reg s m full).1.type.name then []
      else [.unrecognizedType (columnOfMatch q reg s m full).1.name
        ((m.group? s "coltype").getD "")] := by
  rw [typeName_columnOfMatch]
  rcases h : reg.resolve ((m.group? s "coltype").getD "") with _ | k
  · have hk := (reg.resolve_eq_none_iff _).1 h
    simp [columnOfMatch, h, hk]
  · have hk : reg.knows (Text.lower ((m.group? s "coltype").getD "")) = true := by
      by_contra hne
      have := (reg.resolve_eq_none_iff _).2 (by simpa using hne)
      simp [h] at this
    simp [columnOfMatch, h, hk]

theorem kind_columnOfMatch (h : reg.knows (columnOfMatch q reg s m full).1.type.name = false) :
    (columnOfMatch q reg s m full).1.type.kind = .null := by
  rw [typeName_columnOfMatch, ← reg.resolve_eq_none_iff] at h
  simp [columnOfMatch, h]

end columnOfMatch

/-- A column line gives a column, read in full or in part, or no column and the warning that
it is none. -/
theorem readColumn_cases (g : LineGrammars) (q : Quoting) (reg : TypeRegistry) (line : String) :
    (∃ m full, readColumn g q reg line =
      (some (columnOfMatch q reg line.toList m full).1,
        (if full then [] else [.incompleteColumnReflection line]) ++
          (columnOfMatch q reg line.toList m full).2)) ∨
    readColumn g q reg line = (none, [.unknownColumnDefinition line]) := by
  unfold readColumn
  rcases h₁ : g.column.find? line.toList with _ | m
  · rcases h₂ : g.looseColumn.find? line.toList with _ | m
    · exact .inr (by simp [h₁, h₂])
    · exact .inl ⟨m, false, by simp [h₁, h₂]⟩
  · exact .inl ⟨m, true, by simp [h₁]⟩

/-- A constraint line defines one constraint or gives the warning that it defines none. -/
theorem readAlone_constraint (r : Reader) (cs line : String) (hk : r.classify line = .constraint) :
    (∃ c, r.readAlone cs line = ((Table.empty cs).addConstraint c, [])) ∨
      r.readAlone cs line = (.empty cs, [.unknownSchemaContent line]) := by
  rcases hc : readConstraint (LineGrammars.of r.quoting) r.quoting line with _ | c
  · exact .inr (by simp [readAlone, readLine, hk, hc])
  · exact .inl ⟨c, by simp [readAlone, readLine, hk, hc]⟩

/-- Every line read alone is accounted for. -/
theorem readAlone_accounts (r : Reader) (cs line : String) :
    LineAccount r line (r.readAlone cs line).1 (r.readAlone cs line).2 := by
  rcases hk : r.classify line
  case column =>
    obtain ⟨m, full, hc⟩ | hc :=
      readColumn_cases (LineGrammars.of r.quoting) r.quoting r.registry line
    · -- one column, with a warning if it was read in part and one if its type is unknown
      have hw := warnings_columnOfMatch r.quoting r.registry line.toList m full
      have hkind := kind_columnOfMatch r.quoting r.registry line.toList m full
      have hread : r.readAlone cs line =
          ({ Table.empty cs with columns := [(columnOfMatch r.quoting r.registry line.toList m full).1] },
            (if full then [] else [.incompleteColumnReflection line]) ++
              (columnOfMatch r.quoting r.registry line.toList m full).2) := by
        simp [readAlone, readLine, hk, hc, Table.empty]
      rw [hread]
      by_cases hkn :
          r.registry.knows (columnOfMatch r.quoting r.registry line.toList m full).1.type.name <;>
        cases full <;> constructor <;> simp_all [Table.empty, Warning.line?]
    · constructor <;> simp [readAlone, readLine, hk, hc, Table.empty, Warning.line?]
  case constraint =>
    obtain ⟨c, hc⟩ | hc := readAlone_constraint r cs line hk
    · rw [hc]
      constructor <;> cases c <;> simp [hk, Table.empty, Table.addConstraint]
    · rw [hc]
      constructor <;> simp [hk, Table.empty, Warning.line?]
  case tableName =>
    rcases hf : (LineGrammars.of r.quoting).tableName.find? line.toList with _ | m <;>
      constructor <;> simp [readAlone, readLine, hk, hf, Table.empty]
  all_goals
    constructor <;> simp [readAlone, readLine, hk, Table.empty]

/-- The column of a line read alone is the column its line reads to, for a column line, and
none for any other line. -/
theorem columns_readAlone (r : Reader) (cs line : String) :
    (r.readAlone cs line).1.columns =
      (if r.classify line = .column then
        (readColumn (LineGrammars.of r.quoting) r.quoting r.registry line).1 else none).toList := by
  rcases hk : r.classify line
  case tableName =>
    rcases hf : (LineGrammars.of r.quoting).tableName.find? line.toList with _ | m <;>
      simp [readAlone, readLine, hk, hf, Table.empty]
  case constraint =>
    rcases hc : readConstraint (LineGrammars.of r.quoting) r.quoting line with _ | c
    · simp [readAlone, readLine, hk, hc, Table.empty]
    · cases c <;> simp [readAlone, readLine, hk, hc, Table.empty, Table.addConstraint]
  all_goals simp [readAlone, readLine, hk, Table.empty]

section lines

variable (r : Reader) (cs : String)

/-- What merging appends to, such as the columns of the table read from a text, collects what
the lines give alone. -/
theorem parse_field {α : Type} (f : Table → List α) (hf : ∀ a b : Table, f (a.merge b) = f a ++ f b)
    (hempty : f (.empty cs) = []) (text : String) :
    f (r.parse text cs []).1 = (definitionLines text).flatMap fun l => f (r.readAlone cs l).1 := by
  have h := foldl_readLine_field r (LineGrammars.of r.quoting) f hf (definitionLines text)
    (Table.sorted_empty cs) [] cs
  rw [hempty, List.nil_append] at h
  exact h

theorem parse_warnings (text : String) :
    (r.parse text cs []).2 = (definitionLines text).flatMap fun l => (r.readAlone cs l).2 := by
  have h := foldl_readLine_warnings r (LineGrammars.of r.quoting) (definitionLines text)
    (Table.sorted_empty cs) [] cs
  rw [List.nil_append] at h
  exact h

theorem count_column_lines (L : List String) :
    (L.flatMap fun l => (r.readAlone cs l).1.columns).length +
        (L.flatMap fun l => (r.readAlone cs l).2).countP (· matches .unknownColumnDefinition _) =
      L.countP (r.classify · = .column) := by
  induction L with
  | nil => rfl
  | cons l L ih =>
    have h := (readAlone_accounts r cs l).columns
    simp only [List.flatMap_cons, List.length_append, List.countP_append, List.countP_cons, ← ih]
    by_cases hc : r.classify l = .column
    · simp only [decide_eq_true_eq, if_pos hc] at h ⊢
      omega
    · simp only [decide_eq_true_eq, if_neg hc] at h ⊢
      omega

theorem count_constraint_lines (L : List String) :
    (L.flatMap fun l => (r.readAlone cs l).1.keys).length +
        (L.flatMap fun l => (r.readAlone cs l).1.foreignKeys).length +
        (L.flatMap fun l => (r.readAlone cs l).1.checks).length +
        (L.flatMap fun l => (r.readAlone cs l).1.partitions).length +
        (L.flatMap fun l => (r.readAlone cs l).2).countP (· matches .unknownSchemaContent _) =
      L.countP (r.classify · = .constraint) := by
  induction L with
  | nil => rfl
  | cons l L ih =>
    have h := (readAlone_accounts r cs l).constraints
    simp only [List.flatMap_cons, List.length_append, List.countP_append, List.countP_cons, ← ih]
    by_cases hc : r.classify l = .constraint
    · simp only [decide_eq_true_eq, if_pos hc] at h ⊢
      omega
    · simp only [decide_eq_true_eq, if_neg hc] at h ⊢
      omega

/-- A count of warnings that each line matches with a count of its columns matches over any
lines. -/
theorem countP_lines {p : Warning → Bool} {q : Column → Bool}
    (h : ∀ l, (r.readAlone cs l).2.countP p = (r.readAlone cs l).1.columns.countP q)
    (L : List String) :
    (L.flatMap fun l => (r.readAlone cs l).2).countP p =
      (L.flatMap fun l => (r.readAlone cs l).1.columns).countP q := by
  induction L with
  | nil => rfl
  | cons l L ih => simp only [List.flatMap_cons, List.countP_append, h l, ih]

end lines

/-- Reading a definition accounts for every line. Column lines give columns, in the order of the
lines, or warnings that they are none; constraint lines give constraints or warnings that they
define nothing known; a warning marks each column read in part and each column of a type the
registry does not know, which then has the family `null`. The warnings are those of the lines in
order; a line that is neither a column nor a constraint warns about nothing, and a warning about
a line carries that line. -/
theorem parse_accounts_for_every_line (r : Reader) (text cs : String) :
    let L := definitionLines text
    let T := (r.parse text cs []).1
    let W := (r.parse text cs []).2
    (T.columns.length + W.countP (· matches .unknownColumnDefinition _) =
        L.countP (r.classify · = .column) ∧
      T.columns = L.filterMap fun l =>
        if r.classify l = .column then
          (readColumn (LineGrammars.of r.quoting) r.quoting r.registry l).1 else none) ∧
    T.keys.length + T.foreignKeys.length + T.checks.length + T.partitions.length +
        W.countP (· matches .unknownSchemaContent _) = L.countP (r.classify · = .constraint) ∧
    W.countP (· matches .incompleteColumnReflection _) = T.columns.countP (·.degraded) ∧
    (W.countP (· matches .unrecognizedType _ _) = T.columns.countP (!r.registry.knows ·.type.name) ∧
      ∀ c ∈ T.columns, r.registry.knows c.type.name = false → c.type.kind = .null) ∧
    W = L.flatMap (fun l => (r.readAlone cs l).2) ∧
    ∀ l ∈ L, (r.classify l ≠ .column → r.classify l ≠ .constraint → (r.readAlone cs l).2 = []) ∧
      ∀ w ∈ (r.readAlone cs l).2, w.line? = none ∨ w.line? = some l := by
  intro L T W
  -- every list of the table, and the warnings, collect what the lines give alone
  have hcols := parse_field r cs Table.columns (fun _ _ => rfl) rfl text
  have hkeys := parse_field r cs Table.keys (fun _ _ => rfl) rfl text
  have hfks := parse_field r cs Table.foreignKeys (fun _ _ => rfl) rfl text
  have hchecks := parse_field r cs Table.checks (fun _ _ => rfl) rfl text
  have hparts := parse_field r cs Table.partitions (fun _ _ => rfl) rfl text
  have hW : W = L.flatMap (fun l => (r.readAlone cs l).2) := parse_warnings r cs text
  refine ⟨⟨?_, ?_⟩, ?_, ?_, ⟨?_, ?_⟩, hW, ?_⟩
  · rw [hcols, hW]
    exact count_column_lines r cs L
  · rw [hcols, List.filterMap_eq_flatMap_toList]
    exact List.flatMap_congr fun l _ => columns_readAlone r cs l
  · rw [hkeys, hfks, hchecks, hparts, hW]
    exact count_constraint_lines r cs L
  · rw [hW, hcols]
    exact countP_lines r cs (fun l => (readAlone_accounts r cs l).incomplete) L
  · rw [hW, hcols]
    exact countP_lines r cs (fun l => (readAlone_accounts r cs l).unrecognized) L
  · intro c hc
    rw [hcols] at hc
    obtain ⟨l, -, hl⟩ := List.mem_flatMap.1 hc
    exact (readAlone_accounts r cs l).null_kind c hl
  · intro l _
    exact ⟨(readAlone_accounts r cs l).quiet, (readAlone_accounts r cs l).line_of⟩

end Reader

end TableDdl

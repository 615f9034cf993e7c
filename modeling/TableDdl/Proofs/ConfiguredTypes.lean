import Mathlib.Data.String.Basic
import Mathlib.Data.Finset.Card
import TableDdl.Config.Basic
import TableDdl.Proofs.LineAccounting

/-!
# Configured type names

A configuration registers its extra type names over MySQL's, in increasing order of name, each
registration replacing the family of the name it lowercases to. So the family a name resolves
to is decided by the greatest configured name that lowercases like it (names compare by code
point, which is the byte order of their UTF-8 forms); without one, by MySQL's list. The registry
knows MySQL's names and the lowercased configured ones, each once, and the reader that a
configuration builds resolves every column's type token in it.

The argument is last-write-wins over a run of registrations (`resolve_registerAll`) and the
sorting that puts the greatest matching name last (`getLast?_filter_of_greatest`).
-/

namespace TableDdl

namespace TypeRegistry

/-- The names the registry knows. -/
def names (r : TypeRegistry) : List String := r.entries.map Prod.fst

/-! ## Runs of registrations -/

/-- Resolving after a run of registrations gives the family of the last registered name that
lowercases like the name, and the answer of the registry they were made over when none does. -/
theorem resolve_registerAll (base : TypeRegistry) (ts : List (String × TypeKind)) (n : String) :
    (base.registerAll ts).resolve n =
      ((ts.filter fun e => Text.lower e.1 = Text.lower n).getLast?.map Prod.snd).or
        (base.resolve n) := by
  -- induction on the registrations, the registry growing by the first of them
  induction ts generalizing base with
  | nil => simp
  | cons t ts ih =>
    obtain ⟨name, kind⟩ := t
    rw [registerAll_cons, ih, resolve_register]
    by_cases h : Text.lower name = Text.lower n
    · cases hl : (ts.filter fun e => Text.lower e.1 = Text.lower n).getLast? <;>
        simp [h, List.getLast?_cons, hl]
    · simp [h]

theorem mem_names_register {r : TypeRegistry} {name key : String} {kind : TypeKind} :
    key ∈ (r.register name kind).names ↔ key = Text.lower name ∨ key ∈ r.names := by
  by_cases h : key = Text.lower name <;> simp [names, register, h]

/-- A run of registrations adds the lowercased names it registers. -/
theorem mem_names_registerAll {base : TypeRegistry} {ts : List (String × TypeKind)} {key : String} :
    key ∈ (base.registerAll ts).names ↔ key ∈ base.names ∨ ∃ e ∈ ts, Text.lower e.1 = key := by
  induction ts generalizing base with
  | nil => simp
  | cons t ts ih =>
    obtain ⟨name, kind⟩ := t
    rw [registerAll_cons, ih, mem_names_register]
    constructor
    · rintro ((rfl | h) | ⟨e, he, rfl⟩)
      · exact .inr ⟨_, List.mem_cons_self, rfl⟩
      · exact .inl h
      · exact .inr ⟨e, List.mem_cons_of_mem _ he, rfl⟩
    · rintro (h | ⟨e, he, rfl⟩)
      · exact .inl (.inr h)
      · rcases List.mem_cons.1 he with rfl | he
        · exact .inl (.inl rfl)
        · exact .inr ⟨e, he, rfl⟩

/-- A registry holds each of its names once, so its size is the number of names it knows. -/
theorem size_eq_card_names (r : TypeRegistry) : r.size = r.names.toFinset.card := by
  rw [names, List.toFinset_card_of_nodup r.names_nodup, List.length_map]
  rfl

/-! ## MySQL's names -/

/-- MySQL's type names are lowercase and distinct. -/
theorem mysqlTypes_lower : mysqlTypes.all (fun e => Text.lower e.1 == e.1) = true := by
  decide +kernel

theorem mysqlTypes_nodup : (mysqlTypes.map Prod.fst).Nodup := by
  decide

/-- Among entries with distinct names, those under one name are the entry `lookup` finds. -/
theorem getLast?_filter_eq_lookup {l : List (String × TypeKind)} (hl : (l.map Prod.fst).Nodup)
    (key : String) : (l.filter fun e => e.1 = key).getLast?.map Prod.snd = l.lookup key := by
  induction l with
  | nil => rfl
  | cons e l ih =>
    obtain ⟨name, kind⟩ := e
    rw [List.map_cons, List.nodup_cons] at hl
    by_cases h : name = key
    · subst h
      -- no later entry has the name
      have hnone : (l.filter fun e => e.1 = name) = [] :=
        List.filter_eq_nil_iff.2 fun e he hname =>
          hl.1 (List.mem_map.2 ⟨e, he, of_decide_eq_true hname⟩)
      simp [hnone, List.lookup_cons_self]
    · have hkey : (key == name) = false := by simpa using Ne.symm h
      rw [List.filter_cons_of_neg (by simpa using h), ih hl.2]
      simp [List.lookup_cons, hkey]

/-- A name resolves in MySQL's registry to the family MySQL's list gives its lowercase form. -/
theorem resolve_mysql (n : String) : mysql.resolve n = mysqlTypes.lookup (Text.lower n) := by
  have hlower : ∀ e ∈ mysqlTypes, Text.lower e.1 = e.1 := fun e he => by
    simpa using List.all_eq_true.1 mysqlTypes_lower e he
  have hfilter : (mysqlTypes.filter fun e => Text.lower e.1 = Text.lower n) =
      mysqlTypes.filter fun e => e.1 = Text.lower n :=
    List.filter_congr fun e he => by rw [hlower e he]
  rw [mysql, resolve_registerAll, hfilter, getLast?_filter_eq_lookup mysqlTypes_nodup]
  cases mysqlTypes.lookup (Text.lower n) <;> rfl

theorem mem_names_mysql {key : String} : key ∈ mysql.names ↔ key ∈ mysqlTypes.map Prod.fst := by
  rw [mysql, mem_names_registerAll]
  constructor
  · rintro (h | ⟨e, he, rfl⟩)
    · simp [names, empty] at h
    · have hlower : Text.lower e.1 = e.1 := by simpa using List.all_eq_true.1 mysqlTypes_lower e he
      rw [hlower]
      exact List.mem_map_of_mem he
  · intro h
    obtain ⟨e, he, rfl⟩ := List.mem_map.1 h
    exact .inr ⟨e, he, by simpa using List.all_eq_true.1 mysqlTypes_lower e he⟩

end TypeRegistry

namespace Config

/-! ## The order of registration -/

/-- Entries with distinct names come out of sorting in strictly increasing order of name. -/
theorem sortTypes_increasing {ts : List (String × TypeKind)} (h : (ts.map Prod.fst).Nodup) :
    (sortTypes ts).Pairwise fun a b => a.1 < b.1 := by
  have hperm := List.mergeSort_perm ts fun a b => !(b.1 < a.1)
  -- the comparison sorting uses is `≤` on names
  have hcmp : ∀ a b : String × TypeKind, (!decide (b.1 < a.1)) = true ↔ a.1 ≤ b.1 := fun a b => by
    rw [Bool.not_eq_true', decide_eq_false_iff_not, not_lt]
  have hle : (sortTypes ts).Pairwise fun a b => a.1 ≤ b.1 := by
    refine (List.pairwise_mergeSort (fun a b c hab hbc => ?_) (fun a b => ?_) ts).imp ?_
    · exact (hcmp a c).2 (((hcmp a b).1 hab).trans ((hcmp b c).1 hbc))
    · rw [Bool.or_eq_true, hcmp, hcmp]
      exact le_total a.1 b.1
    · exact fun h => (hcmp _ _).1 h
  have hne : (sortTypes ts).Pairwise fun a b => a.1 ≠ b.1 :=
    List.pairwise_map.1 ((hperm.map Prod.fst).nodup_iff.2 h)
  exact (hle.and hne).imp fun ⟨h₁, h₂⟩ => lt_of_le_of_ne h₁ h₂

/-- In a list of strictly increasing names, the last entry whose name passes a test is the one
with the greatest such name. -/
theorem getLast?_filter_of_greatest {l : List (String × TypeKind)}
    (hl : l.Pairwise fun a b => a.1 < b.1) (p : String → Bool) {k : String} {v : TypeKind}
    (hkv : (k, v) ∈ l) (hk : p k = true) (hmax : ∀ e ∈ l, p e.1 = true → e.1 ≤ k) :
    (l.filter fun e => p e.1).getLast? = some (k, v) := by
  set m := l.filter fun e => p e.1 with hm
  have hmem : (k, v) ∈ m := List.mem_filter.2 ⟨hkv, hk⟩
  have hne : m ≠ [] := List.ne_nil_of_mem hmem
  have hsorted : m.Pairwise fun a b => a.1 < b.1 := hl.filter _
  -- the last entry has a name at most `k`, and every earlier one a smaller name than it
  have hlast : (m.getLast hne).1 ≤ k := by
    have := List.mem_filter.1 (List.getLast_mem hne)
    exact hmax _ this.1 this.2
  rw [List.getLast?_eq_some_getLast hne, Option.some_inj]
  have hsplit := List.dropLast_append_getLast hne
  rcases List.mem_append.1 (hsplit ▸ hmem) with hearly | hend
  · have hlt : k < (m.getLast hne).1 :=
      (List.pairwise_append.1 (hsplit ▸ hsorted)).2.2 _ hearly _ (List.mem_singleton_self _)
    exact absurd hlast (not_le.2 hlt)
  · exact (List.mem_singleton.1 hend).symm

/-! ## Resolving through a configuration -/

/-- The configured type names are distinct. -/
theorem names_nodup (c : Config) : (c.types.map Prod.fst).Nodup :=
  List.pairwise_map.2 (c.types_sorted.imp ne_of_lt)

/-- A name resolves to the family of the greatest configured name that lowercases like it. -/
theorem resolve_registry_of_greatest (c : Config) {n k : String}
    {v : TypeKind} (hkv : (k, v) ∈ c.types) (hk : Text.lower k = Text.lower n)
    (hmax : ∀ k' ∈ c.types.map Prod.fst, Text.lower k' = Text.lower n → k' ≤ k) :
    c.registry.resolve n = some v := by
  have hperm := List.mergeSort_perm c.types fun a b => !(b.1 < a.1)
  have hlast := getLast?_filter_of_greatest (sortTypes_increasing c.names_nodup)
    (fun s => decide (Text.lower s = Text.lower n)) (hperm.mem_iff.2 hkv) (by simpa using hk)
    (fun e he he' => hmax e.1 (List.mem_map_of_mem (hperm.mem_iff.1 he)) (by simpa using he'))
  rw [registry, TypeRegistry.resolve_registerAll, hlast]
  rfl

/-- A name that no configured name lowercases like resolves as in MySQL's list. -/
theorem resolve_registry_of_none (c : Config) {n : String}
    (hnone : ∀ k ∈ c.types.map Prod.fst, Text.lower k ≠ Text.lower n) :
    c.registry.resolve n = TypeRegistry.mysqlTypes.lookup (Text.lower n) := by
  have hperm := List.mergeSort_perm c.types fun a b => !(b.1 < a.1)
  have hfilter : ((sortTypes c.types).filter fun e => Text.lower e.1 = Text.lower n) = [] :=
    List.filter_eq_nil_iff.2 fun e he he' =>
      hnone e.1 (List.mem_map_of_mem (hperm.mem_iff.1 he)) (by simpa using he')
  rw [registry, TypeRegistry.resolve_registerAll, hfilter, List.getLast?_nil, Option.map_none,
    Option.none_or, TypeRegistry.resolve_mysql]

/-- The registry of a configuration knows MySQL's names and the lowercased configured ones,
each once. -/
theorem size_registry (c : Config) :
    c.registry.size = ((TypeRegistry.mysqlTypes.map Prod.fst).toFinset ∪
      (c.types.map fun e => Text.lower e.1).toFinset).card := by
  have hperm := List.mergeSort_perm c.types fun a b => !(b.1 < a.1)
  rw [TypeRegistry.size_eq_card_names]
  refine congrArg Finset.card ?_
  ext key
  simp only [List.mem_toFinset, Finset.mem_union, registry, TypeRegistry.mem_names_registerAll,
    TypeRegistry.mem_names_mysql, List.mem_map]
  constructor
  · rintro (h | ⟨e, he, rfl⟩)
    · exact .inl h
    · exact .inr ⟨e, hperm.mem_iff.1 he, rfl⟩
  · rintro (h | ⟨e, he, rfl⟩)
    · exact .inl h
    · exact .inr ⟨e, hperm.mem_iff.2 he, rfl⟩

/-- The reader of a configuration uses the configuration's registry. -/
theorem registry_reader {c : Config} {r : Reader} (h : c.reader = .ok r) :
    r.registry = c.registry := by
  unfold reader at h
  split at h
  · split at h
    · cases h
      rfl
    · cases h
  · cases h

end Config

namespace Reader

/-- The type of a column read from a match: its name is the lowercased type token, and its
family is the one the registry resolves the token to, `null` when it knows none. -/
theorem type_columnOfMatch (q : Quoting) (reg : TypeRegistry) (s : List Char) (m : Match)
    (full : Bool) :
    (columnOfMatch q reg s m full).1.type.name = Text.lower ((m.group? s "coltype").getD "") ∧
      (columnOfMatch q reg s m full).1.type.kind =
        (reg.resolve ((m.group? s "coltype").getD "")).getD .null := by
  unfold columnOfMatch
  dsimp only
  cases h : reg.resolve ((m.group? s "coltype").getD "") <;> exact ⟨rfl, rfl⟩

/-- Every column that a line reads to has the family the registry resolves its type token to. -/
theorem kind_readColumn {g : LineGrammars} {q : Quoting} {reg : TypeRegistry} {line : String}
    {col : Column} (h : col ∈ (readColumn g q reg line).1) :
    ∃ t, col.type.name = Text.lower t ∧ col.type.kind = (reg.resolve t).getD .null := by
  unfold readColumn at h
  dsimp only at h
  split at h
  · rename_i m _
    rcases hc : columnOfMatch q reg line.toList m true with ⟨c, ws⟩
    rw [hc] at h
    obtain rfl := Option.mem_some_iff.1 h
    exact ⟨_, hc ▸ type_columnOfMatch q reg _ _ true⟩
  · split at h
    · rename_i m _
      rcases hc : columnOfMatch q reg line.toList m false with ⟨c, ws⟩
      rw [hc] at h
      obtain rfl := Option.mem_some_iff.1 h
      exact ⟨_, hc ▸ type_columnOfMatch q reg _ _ false⟩
    · cases h

/-- The table read from a text does not depend on the warnings given before. -/
theorem parse_table_warnings (r : Reader) (text cs : String) (ws : List Warning) :
    (r.parse text cs ws).1 = (r.parse text cs []).1 := by
  have hE := Table.sorted_empty cs
  unfold parse
  -- both readings merge the same table, read from nothing, into the empty one
  rw [foldl_readLine_eq_merge r _ _ hE ws cs]
  conv_rhs => rw [foldl_readLine_eq_merge r _ _ hE [] cs]

/-- Every column of a table read from a text has the family the reader's registry resolves its
type token to. -/
theorem kind_parse (r : Reader) (text cs : String) (ws : List Warning) :
    ∀ col ∈ (r.parse text cs ws).1.columns,
      ∃ t, col.type.name = Text.lower t ∧ col.type.kind = (r.registry.resolve t).getD .null := by
  intro col hcol
  rw [parse_table_warnings, parse_field r cs Table.columns (fun _ _ => rfl) rfl text] at hcol
  obtain ⟨l, -, hl⟩ := List.mem_flatMap.1 hcol
  rw [columns_readAlone] at hl
  split at hl
  · exact kind_readColumn (Option.mem_toList.1 hl)
  · cases hl

end Reader

namespace Config

/-! ## The registry of a configuration -/

/-- Configured type names layer over MySQL's, the greatest configured name winning among those
that lowercase alike: a name resolves to the family of the greatest configured name that
lowercases like it, and else to the family MySQL's list gives its lowercase form; the registry
knows MySQL's names and the lowercased configured ones, each once; and the reader a
configuration builds gives every column it reads the family of its type token in that
registry. -/
theorem registry_layers_types_over_mysql (c : Config) (n : String) :
    (∀ k v, (k, v) ∈ c.types → Text.lower k = Text.lower n →
        (∀ k' ∈ c.types.map Prod.fst, Text.lower k' = Text.lower n → k' ≤ k) →
        c.registry.resolve n = some v) ∧
    ((∀ k ∈ c.types.map Prod.fst, Text.lower k ≠ Text.lower n) →
        c.registry.resolve n = TypeRegistry.mysqlTypes.lookup (Text.lower n)) ∧
    c.registry.size = ((TypeRegistry.mysqlTypes.map Prod.fst).toFinset ∪
      (c.types.map fun e => Text.lower e.1).toFinset).card ∧
    ∀ r, c.reader = .ok r → ∀ text cs ws, ∀ col ∈ (r.parse text cs ws).1.columns,
      ∃ t, col.type.name = Text.lower t ∧ col.type.kind = (c.registry.resolve t).getD .null := by
  refine ⟨fun k v hkv hk hmax => resolve_registry_of_greatest c hkv hk hmax,
    fun hnone => resolve_registry_of_none c hnone, size_registry c, ?_⟩
  intro r hr text cs ws
  rw [← registry_reader hr]
  exact Reader.kind_parse r text cs ws

/-- `Serial` and `SERIAL` both lowercase to `serial`; `Serial` is the greater and wins. -/
theorem registry_serial_resolves_to_greater :
    (⟨"mysql", "utf8mb4", ⟨.backtick, none, none, none⟩,
        [("SERIAL", .integer), ("Serial", .numeric)], by decide +kernel⟩ : Config).registry.resolve
      "serial" = some .numeric :=
  (registry_layers_types_over_mysql ⟨"mysql", "utf8mb4", ⟨.backtick, none, none, none⟩,
      [("SERIAL", .integer), ("Serial", .numeric)], by decide +kernel⟩ "serial").1
    "Serial" .numeric (by simp) (by decide +kernel) (by decide +kernel)

end Config

end TableDdl

import Mathlib.Data.String.Basic
import TableDdl.Schema.Options

/-!
# Option maps stay sorted

`OptionMap.insert` keeps the entries sorted by name when they were, with each name once. On
maps of that shape the lookups decide the map (`ext_of_sorted`): two sorted maps that answer
every name alike are the same list of entries. From it follow the laws of `union` that reading
a definition in pieces needs: looking a name up in a union prefers the right map
(`get?_union`), and union is associative (`union_assoc`).
-/

namespace TableDdl

namespace OptionMap

/-- The entries are sorted by name, strictly, so that no name occurs twice. -/
def Sorted (m : OptionMap) : Prop :=
  m.entries.Pairwise fun a b => a.1 < b.1

theorem sorted_empty : empty.Sorted := List.Pairwise.nil

/-- An entry of an insertion is the inserted entry or one that was there. -/
theorem mem_insertSorted {k v : String} {e : String × String} {es : List (String × String)}
    (h : e ∈ insertSorted k v es) : e = (k, v) ∨ e ∈ es := by
  induction es with
  | nil => simpa [insertSorted] using h
  | cons e' r ih =>
    simp only [insertSorted] at h
    split at h
    · simpa using h
    · split at h
      · simp only [List.mem_cons] at h ⊢
        tauto
      · simp only [List.mem_cons] at h ⊢
        rcases h with rfl | h
        · exact .inr (.inl rfl)
        · rcases ih h with h | h
          · exact .inl h
          · exact .inr (.inr h)

theorem pairwise_insertSorted (k v : String) {es : List (String × String)}
    (h : es.Pairwise fun a b => a.1 < b.1) :
    (insertSorted k v es).Pairwise fun a b => a.1 < b.1 := by
  induction es with
  | nil => simp [insertSorted]
  | cons e r ih =>
    obtain ⟨hlt, hr⟩ := List.pairwise_cons.1 h
    simp only [insertSorted]
    split
    · rename_i hk
      refine List.Pairwise.cons (fun a ha => ?_) h
      rcases List.mem_cons.1 ha with rfl | ha
      · exact hk
      · exact lt_trans hk (hlt a ha)
    · split
      · rename_i hk
        subst hk
        exact List.Pairwise.cons hlt hr
      · rename_i hlt' hne
        -- the new name is past `e`, so `e` still comes first
        have hgt : e.1 < k := lt_of_le_of_ne (not_lt.1 hlt') (Ne.symm hne)
        refine List.Pairwise.cons (fun a ha => ?_) (ih hr)
        rcases mem_insertSorted ha with rfl | ha
        · exact hgt
        · exact hlt a ha

theorem Sorted.insert {m : OptionMap} (h : m.Sorted) (k v : String) : (m.insert k v).Sorted :=
  pairwise_insertSorted k v h

/-- A sorted list finds each of its entries by the entry's name. -/
theorem find?_of_mem {es : List (String × String)} (h : es.Pairwise fun a b => a.1 < b.1)
    {e : String × String} (he : e ∈ es) : es.find? (·.1 == e.1) = some e := by
  induction es with
  | nil => cases he
  | cons a r ih =>
    obtain ⟨hlt, hr⟩ := List.pairwise_cons.1 h
    rcases List.mem_cons.1 he with rfl | he
    · simp
    · have hne : (a.1 == e.1) = false := by simpa using ne_of_lt (hlt e he)
      simp only [List.find?_cons, hne, ih hr he]

/-- A name past every name of a list is not found in it. -/
theorem find?_eq_none_of_lt {k : String} {es : List (String × String)}
    (h : ∀ e ∈ es, k < e.1) : es.find? (·.1 == k) = none := by
  rw [List.find?_eq_none]
  intro e he
  simpa using (ne_of_lt (h e he)).symm

/-- Lookups in a union: the right map's value when it has the name, the left map's otherwise. -/
theorem get?_union (m : OptionMap) {n : OptionMap} (hn : n.Sorted) (k : String) :
    (m.union n).get? k = (n.get? k).or (m.get? k) := by
  obtain ⟨es⟩ := n
  simp only [union, get?, Sorted] at hn ⊢
  induction es generalizing m with
  | nil => simp
  | cons e r ih =>
    obtain ⟨hlt, hr⟩ := List.pairwise_cons.1 hn
    obtain ⟨k', v'⟩ := e
    have hins := get?_insert m k' v' k
    simp only [get?] at hins
    rw [List.foldl_cons, ih (m.insert k' v') hr, hins, List.find?_cons]
    by_cases hk : k' = k
    · subst hk
      -- the rest of a sorted list does not repeat the name
      simp [find?_eq_none_of_lt hlt]
    · have hb : (k' == k) = false := by simpa using hk
      simp [hk, hb]

theorem Sorted.union {m : OptionMap} (hm : m.Sorted) (n : OptionMap) : (m.union n).Sorted := by
  obtain ⟨es⟩ := n
  show (es.foldl _ m).Sorted
  induction es generalizing m with
  | nil => exact hm
  | cons e r ih => exact ih (hm.insert e.1 e.2)

/-- Sorted entries name each entry once. -/
theorem nodup_of_pairwise {es : List (String × String)} (h : es.Pairwise fun a b => a.1 < b.1) :
    es.Nodup :=
  h.imp fun hab => by rintro rfl; exact lt_irrefl _ hab

/-- An entry of a sorted list is an entry of every list that looks each name up alike. -/
theorem mem_of_find?_eq {es fs : List (String × String)} (hes : es.Pairwise fun a b => a.1 < b.1)
    (h : ∀ k, (es.find? (·.1 == k)).map (·.2) = (fs.find? (·.1 == k)).map (·.2))
    {e : String × String} (he : e ∈ es) : e ∈ fs := by
  have hfind := h e.1
  rw [find?_of_mem hes he] at hfind
  obtain ⟨e', he', hv⟩ := Option.map_eq_some_iff.1 hfind.symm
  have hk : e'.1 = e.1 := by simpa using List.find?_some he'
  have : e' = e := Prod.ext hk hv
  exact this ▸ List.mem_of_find?_eq_some he'

/-- Two sorted maps with the same lookups are equal. -/
theorem ext_of_sorted {m n : OptionMap} (hm : m.Sorted) (hn : n.Sorted)
    (h : ∀ k, m.get? k = n.get? k) : m = n := by
  obtain ⟨es⟩ := m
  obtain ⟨fs⟩ := n
  simp only [Sorted, get?] at hm hn h
  -- both sides hold the same entries, so they are permutations, and sortedness fixes the order
  have hperm : es.Perm fs :=
    (List.perm_ext_iff_of_nodup (nodup_of_pairwise hm) (nodup_of_pairwise hn)).2 fun _ =>
      ⟨mem_of_find?_eq hm h, mem_of_find?_eq hn fun k => (h k).symm⟩
  congr 1
  exact List.Perm.eq_of_pairwise (fun a b _ _ hab hba => absurd (lt_trans hab hba) (lt_irrefl _))
    hm hn hperm

@[simp] theorem union_empty (m : OptionMap) : m.union empty = m := rfl

/-- A union with a map of one entry is an insertion. -/
@[simp] theorem union_insert_empty (m : OptionMap) (k v : String) :
    m.union (empty.insert k v) = m.insert k v := rfl

theorem union_assoc {m n p : OptionMap} (hm : m.Sorted) (hn : n.Sorted) (hp : p.Sorted) :
    (m.union n).union p = m.union (n.union p) := by
  apply ext_of_sorted ((hm.union n).union p) (hm.union _)
  intro k
  rw [get?_union _ hp, get?_union _ hn, get?_union _ (hn.union p), get?_union _ hp]
  cases p.get? k <;> simp

end OptionMap

end TableDdl

/-!
# Table options

The options of a table, such as its engine and default character set, form a map from names to
values, kept sorted by name. `OptionMap.insert` replaces the value of a name already present.

Looking a name up after an insertion or an erasure gives the new value, or nothing, for that
name and the old answer for every other (`get?_insert`, `get?_erase`); neither fact needs the
entries to be sorted.
-/

namespace TableDdl

/-- Option names and their values, sorted by name, each name once. -/
structure OptionMap where
  entries : List (String × String)
  deriving Repr, DecidableEq

namespace OptionMap

/-- The map without entries. -/
def empty : OptionMap := ⟨[]⟩

/-- Inserts an entry into a list sorted by name, replacing the entry of the same name. -/
def insertSorted (k v : String) : List (String × String) → List (String × String)
  | [] => [(k, v)]
  | (k', v') :: r =>
    if k < k' then (k, v) :: (k', v') :: r
    else if k = k' then (k, v) :: r
    else (k', v') :: insertSorted k v r

/-- The map with `k` mapped to `v`. -/
def insert (m : OptionMap) (k v : String) : OptionMap := ⟨insertSorted k v m.entries⟩

/-- The value of `k`. -/
def get? (m : OptionMap) (k : String) : Option String :=
  (m.entries.find? (·.1 == k)).map (·.2)

/-- The map without the entry of `k`. -/
def erase (m : OptionMap) (k : String) : OptionMap := ⟨m.entries.filter (·.1 != k)⟩

/-- The map with every entry of `n` inserted, so that `n` wins where both have a name. -/
def union (m n : OptionMap) : OptionMap :=
  n.entries.foldl (fun acc (k, v) => acc.insert k v) m

@[simp] theorem get?_empty (k : String) : empty.get? k = none := rfl

/-- The inserted entry comes before every other entry of its name, and the entries of other
names keep their order. -/
theorem find?_insertSorted (k v k' : String) (es : List (String × String)) :
    (insertSorted k v es).find? (·.1 == k') =
      if k = k' then some (k, v) else es.find? (·.1 == k') := by
  induction es with
  | nil => by_cases h : k = k' <;> simp [insertSorted, h]
  | cons e r ih =>
    obtain ⟨k'', v''⟩ := e
    simp only [insertSorted]
    split
    · by_cases h : k = k' <;> simp [h]
    · split
      · rename_i h
        subst h
        by_cases h : k = k' <;> simp [h]
      · rename_i _ hne
        rw [List.find?_cons, List.find?_cons, ih]
        by_cases h' : k'' = k'
        · subst h'
          simp [hne]
        · have hb : (k'' == k') = false := by simpa using h'
          simp only [hb]

@[simp] theorem get?_insert (m : OptionMap) (k v k' : String) :
    (m.insert k v).get? k' = if k = k' then some v else m.get? k' := by
  simp only [get?, insert, find?_insertSorted]
  split <;> simp

@[simp] theorem get?_erase (m : OptionMap) (k k' : String) :
    (m.erase k).get? k' = if k = k' then none else m.get? k' := by
  simp only [get?, erase, List.find?_filter]
  by_cases h : k = k'
  · subst h
    simp
  · have hp : (fun a : String × String => !decide (a.fst = k) && decide (a.fst = k')) =
        (fun a => a.fst == k') := by
      funext a
      by_cases ha : a.fst = k'
      · simp [ha, Ne.symm h]
      · simp [ha]
    simp [h, hp]

end OptionMap

end TableDdl

/-!
# Replacing every occurrence of a text

`replaceAll pat rep s` scans `s` from the left and replaces each occurrence of `pat` that does
not overlap an earlier one by `rep`. An empty `pat` occurs before every character and at the
end.
-/

namespace TableDdl.Text

/-- Replaces the occurrences of the non-empty `pat` in `s`, scanning from the left. -/
def replaceNonempty (pat rep : List Char) (hpat : pat ≠ []) : List Char → List Char
  | [] => []
  | c :: r =>
    if pat.isPrefixOf (c :: r) then rep ++ replaceNonempty pat rep hpat ((c :: r).drop pat.length)
    else c :: replaceNonempty pat rep hpat r
termination_by s => s.length
decreasing_by
  · have : pat.length ≠ 0 := by simpa using hpat
    simp; omega
  · simp

/-- Replaces every occurrence of `pat` in `s` by `rep`, scanning from the left. -/
def replaceChars (pat rep s : List Char) : List Char :=
  if hpat : pat = [] then rep ++ s.flatMap (· :: rep) else replaceNonempty pat rep hpat s

/-- Whether `pat` occurs in `s`. -/
def occursIn (pat : List Char) : List Char → Bool
  | [] => pat.isEmpty
  | c :: r => pat.isPrefixOf (c :: r) || occursIn pat r

/-- Whether the text `pat` occurs in the text `s`. -/
def contains (s pat : String) : Bool :=
  occursIn pat.toList s.toList

/-- Replaces every occurrence of `pat` in the text by `rep`, scanning from the left. -/
def replace (s pat rep : String) : String :=
  String.ofList (replaceChars pat.toList rep.toList s.toList)

end TableDdl.Text

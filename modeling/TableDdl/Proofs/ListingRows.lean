import TableDdl.Describe.Row

/-!
# Reading a DESCRIBE listing line by line

`readRows` reads the lines of a listing in order and stops at the first line it cannot read.
Which lines those are is said here without the reading loop. Once its final carriage returns are
gone, a line is `Blank` when nothing but white space is left, a `Header` when its first two
tab-separated cells are `Field` and `Type` in any ASCII case, and `Bad` when it is not blank and
either has fewer than three cells, or is no header and its null cell, uppercased, is neither
`YES` nor `NO`. The cell count is checked first, so a header of two cells is bad.

Each line is read on its own (`ofLine_eq`), so the listing fails exactly at its first bad line,
reported with its number counted over all lines, blank and header lines included, and with the
check that it fails; a listing without bad lines gives one row for each line that is neither
blank nor a header, in order (`readRows_fails_at_first_bad_line`).
-/

namespace TableDdl.DescribeRow

/-- The cells of a listing line: its tab-separated pieces once its final carriage returns are
gone. -/
def cellsOf (raw : String) : List String := Text.split '\t' (Text.dropFinalReturns raw)

/-- A line with nothing but white space once its final carriage returns are gone. -/
def Blank (raw : String) : Prop := Text.isBlank (Text.dropFinalReturns raw) = true

/-- A header line: its first two cells are `Field` and `Type`, ASCII letters in any case. -/
def Header (raw : String) : Prop :=
  (cellsOf raw).head?.any (Text.sameIgnoringAsciiCase · "Field") = true ∧
    (cellsOf raw)[1]?.any (Text.sameIgnoringAsciiCase · "Type") = true

/-- The null cell of a line, uppercased. -/
def nullCell (raw : String) : String := Text.upper ((cellsOf raw).getD 2 "")

/-- A line that cannot be read: not blank, and with fewer than three cells, or no header and a
null cell that is neither `YES` nor `NO`. -/
def Bad (raw : String) : Prop :=
  ¬ Blank raw ∧ ((cellsOf raw).length < 3 ∨ ¬ Header raw ∧ nullCell raw ≠ "YES" ∧ nullCell raw ≠ "NO")

/-- A line that describes a column: neither blank nor a header. -/
def Data (raw : String) : Prop := ¬ Blank raw ∧ ¬ Header raw

instance : DecidablePred Blank := fun _ => inferInstanceAs (Decidable (_ = true))

instance : DecidablePred Header := fun _ => inferInstanceAs (Decidable (_ ∧ _))

instance : DecidablePred Bad := fun _ => inferInstanceAs (Decidable (_ ∧ _))

instance : DecidablePred Data := fun _ => inferInstanceAs (Decidable (_ ∧ _))

/-- The error of a bad line with its number: too few cells when it has fewer than three, else
the uppercased null cell. -/
def fault (lineNo : Nat) (raw : String) : RowError :=
  if (cellsOf raw).length < 3 then .tooFewCells lineNo (Text.dropFinalReturns raw)
  else .badNull lineNo (nullCell raw)

/-- The row of a data line: the name, the type, whether the null cell reads `YES`, and the
default and extra cells when present and not empty. -/
def rowOf (raw : String) : DescribeRow :=
  ⟨(cellsOf raw).getD 0 "", (cellsOf raw).getD 1 "", nullCell raw = "YES", cell? (cellsOf raw) 4,
    cell? (cellsOf raw) 5⟩

/-- One line is read on its own: the fault of a bad line, the row of a data line, and nothing
for a blank or header line. -/
theorem ofLine_eq (n : Nat) (raw : String) :
    ofLine n raw = if Bad raw then .error (fault n raw)
      else .ok (if Data raw then some (rowOf raw) else none) := by
  by_cases hb : Blank raw
  · have hb' : Text.isBlank (Text.dropFinalReturns raw) = true := hb
    simp [ofLine, hb', Bad, Data, hb]
  · have hb' : Text.isBlank (Text.dropFinalReturns raw) = false := by simpa [Blank] using hb
    have hcells : Text.split '\t' (Text.dropFinalReturns raw) = cellsOf raw := rfl
    simp only [ofLine, hb', Bool.false_eq_true, if_false, hcells]
    match h : cellsOf raw with
    | [] => simp [Bad, hb, h, fault]
    | [f] => simp [Bad, hb, h, fault]
    | [f, t] => simp [Bad, hb, h, fault]
    | f :: t :: x :: rest =>
      have hlen : ¬ (cellsOf raw).length < 3 := by simp [h]
      have hnull : nullCell raw = Text.upper x := by simp [nullCell, h]
      have hheader : Header raw ↔
          (Text.sameIgnoringAsciiCase f "Field" && Text.sameIgnoringAsciiCase t "Type") = true := by
        simp [Header, h]
      -- the header check comes first, then the null cell
      by_cases hh : Header raw
      · have hnb : ¬ Bad raw := fun hbad => (hbad.2.resolve_left hlen).1 hh
        simp [hheader.1 hh, hnb, Data, hh]
      · have hh' :
            (Text.sameIgnoringAsciiCase f "Field" && Text.sameIgnoringAsciiCase t "Type") = false := by
          simpa [hheader] using hh
        by_cases hx : Text.upper x = "YES" ∨ Text.upper x = "NO"
        · have hnb : ¬ Bad raw := fun hbad => by
            obtain ⟨-, hy, hn⟩ := hbad.2.resolve_left hlen
            rw [hnull] at hy hn
            exact hx.elim hy hn
          simp [hh', hx, hnb, Data, hb, hh, rowOf, h, hnull]
        · have hbad : Bad raw := ⟨hb, .inr ⟨hh, by rw [hnull]; exact fun hy => hx (.inl hy),
            by rw [hnull]; exact fun hn => hx (.inr hn)⟩⟩
          simp [hh', hx, hbad, fault, hlen, hnull]

/-- The listing's lines numbered from `k` on, as `readRows` hands them to `ofLines`. -/
def numbered (k : Nat) (ls : List String) : List (Nat × String) :=
  (ls.zipIdx k).map fun (l, i) => (i, l)

@[simp] theorem numbered_nil (k : Nat) : numbered k [] = [] := rfl

@[simp] theorem numbered_cons (k : Nat) (raw : String) (ls : List String) :
    numbered k (raw :: ls) = (k, raw) :: numbered (k + 1) ls := by
  simp [numbered, List.zipIdx_cons]

/-- Numbered lines fail exactly at their first bad line, with that line's number. -/
theorem ofLines_eq_error (ls : List String) {k : Nat} {e : RowError} :
    ofLines (numbered k ls) = .error e ↔
      ∃ pre raw post, ls = pre ++ raw :: post ∧ (∀ l ∈ pre, ¬ Bad l) ∧ Bad raw ∧
        e = fault (k + pre.length) raw := by
  induction ls generalizing k with
  | nil => simp [ofLines]
  | cons raw ls ih =>
    simp only [numbered_cons, ofLines, ofLine_eq]
    by_cases hbad : Bad raw
    · simp only [hbad, if_true, Except.error.injEq]
      constructor
      · intro he
        exact ⟨[], raw, ls, rfl, by simp, hbad, by simp [he]⟩
      · rintro ⟨pre, x, post, hls, hpre, hx, rfl⟩
        cases pre with
        | nil =>
          obtain ⟨rfl, rfl⟩ := List.cons_eq_cons.1 hls
          simp
        | cons y pre =>
          obtain ⟨rfl, -⟩ := List.cons_eq_cons.1 hls
          exact absurd hbad (hpre raw List.mem_cons_self)
    · -- a line that is not bad is read, and the error can only come from the lines after it
      have hfirst : (∃ pre x post, raw :: ls = pre ++ x :: post ∧ (∀ l ∈ pre, ¬ Bad l) ∧ Bad x ∧
            e = fault (k + pre.length) x) ↔
          ∃ pre x post, ls = pre ++ x :: post ∧ (∀ l ∈ pre, ¬ Bad l) ∧ Bad x ∧
            e = fault (k + 1 + pre.length) x := by
        constructor
        · rintro ⟨pre, x, post, hls, hpre, hx, he⟩
          cases pre with
          | nil =>
            obtain ⟨rfl, -⟩ := List.cons_eq_cons.1 hls
            exact absurd hx hbad
          | cons y pre =>
            obtain ⟨rfl, rfl⟩ := List.cons_eq_cons.1 hls
            exact ⟨pre, x, post, rfl, fun l hl => hpre l (List.mem_cons_of_mem _ hl), hx,
              by rw [he]; congr 1; simp; omega⟩
        · rintro ⟨pre, x, post, rfl, hpre, hx, he⟩
          refine ⟨raw :: pre, x, post, rfl, ?_, hx, by rw [he]; congr 1; simp; omega⟩
          simpa [hbad] using hpre
      have hrest := @ih (k + 1)
      simp only [hbad, if_false, hfirst]
      cases hr : ofLines (numbered (k + 1) ls) <;> simpa [hr] using hrest

/-- Numbered lines without a bad one give the rows of their data lines, in order. -/
theorem ofLines_of_forall_not_bad {ls : List String} (h : ∀ l ∈ ls, ¬ Bad l) (k : Nat) :
    ofLines (numbered k ls) = .ok ((ls.filter fun l => decide (Data l)).map rowOf) := by
  induction ls generalizing k with
  | nil => rfl
  | cons raw ls ih =>
    have hbad : ¬ Bad raw := h raw List.mem_cons_self
    simp only [numbered_cons, ofLines, ofLine_eq, hbad, if_false,
      ih (fun l hl => h l (List.mem_cons_of_mem _ hl))]
    by_cases hd : Data raw <;> simp [hd]

end TableDdl.DescribeRow

namespace TableDdl

open DescribeRow

/-- A DESCRIBE listing fails exactly at its first bad line: the error names that line's number,
counted from one over all lines, and the check it fails. A listing without bad lines gives one
row for each line that is neither blank nor a header, in order. -/
theorem readRows_fails_at_first_bad_line (text : String) :
    (∀ e, readRows text = .error e ↔
      ∃ pre raw post, Text.lines text = pre ++ raw :: post ∧ (∀ l ∈ pre, ¬ Bad l) ∧ Bad raw ∧
        e = fault (pre.length + 1) raw) ∧
    ((∀ l ∈ Text.lines text, ¬ Bad l) →
      readRows text = .ok (((Text.lines text).filter fun l => decide (Data l)).map rowOf)) := by
  have hnum : readRows text = ofLines (numbered 1 (Text.lines text)) := rfl
  refine ⟨fun e => ?_, fun h => hnum.trans (ofLines_of_forall_not_bad h 1)⟩
  rw [hnum, ofLines_eq_error]
  simp only [Nat.add_comm 1]

end TableDdl

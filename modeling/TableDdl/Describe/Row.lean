import TableDdl.Text.Lines
import TableDdl.Text.Case
import TableDdl.Text.Literal

/-!
# Rows of a DESCRIBE listing

`DESCRIBE t` lists one column per line in tab-separated cells: field, type, null, key, default
and extra. `readRows` reads such a listing. Blank lines and header lines (whose first two
cells are `Field` and `Type`) are skipped; every other line needs three cells, and its third
must read `YES` or `NO` in any letter case. The first line that breaks a rule is reported with
its number, counting every line.
-/

namespace TableDdl

/-- A column as a DESCRIBE listing shows it. -/
structure DescribeRow where
  name : String
  colType : String
  nullable : Bool
  defaultValue : Option String
  extra : Option String
  deriving Repr, DecidableEq

/-- Why a line of a DESCRIBE listing cannot be read. -/
inductive RowError where
  /-- The line, with its number, has fewer than three cells. -/
  | tooFewCells (lineNo : Nat) (line : String)
  /-- The line's null cell, uppercased, is neither `YES` nor `NO`. -/
  | badNull (lineNo : Nat) (cell : String)
  deriving Repr, DecidableEq

/-- The explanation of the error, as it follows the general message on DESCRIBE rows. -/
def RowError.detail : RowError → String
  | .tooFewCells n l => "第 " ++ toString n ++ " 行至少需要 Field、Type、Null 三列: " ++ Text.literal l
  | .badNull n c => "第 " ++ toString n ++ " 行 Null 列只能是 YES 或 NO: " ++ Text.literal c

namespace DescribeRow

/-- The cell, if the line has it and it is not empty. -/
def cell? (cells : List String) (i : Nat) : Option String :=
  (cells[i]?).filter (· ≠ "")

/-- Reads one line with its number: nothing for a blank or header line, a row, or the error. -/
def ofLine (lineNo : Nat) (raw : String) : Except RowError (Option DescribeRow) :=
  let line := Text.dropFinalReturns raw
  if Text.isBlank line then .ok none
  else
    let cells := Text.split '\t' line
    match cells with
    | f :: t :: n :: _ =>
      if Text.sameIgnoringAsciiCase f "Field" && Text.sameIgnoringAsciiCase t "Type" then .ok none
      else
        let nullCell := Text.upper n
        if nullCell = "YES" ∨ nullCell = "NO" then
          .ok (some ⟨f, t, nullCell = "YES", cell? cells 4, cell? cells 5⟩)
        else .error (.badNull lineNo nullCell)
    | _ => .error (.tooFewCells lineNo line)

/-- Reads numbered lines in order, stopping at the first error. -/
def ofLines : List (Nat × String) → Except RowError (List DescribeRow)
  | [] => .ok []
  | (n, l) :: rest =>
    match ofLine n l with
    | .error e => .error e
    | .ok r =>
      match ofLines rest with
      | .error e => .error e
      | .ok rows => .ok (r.toList ++ rows)

end DescribeRow

/-- The rows of a DESCRIBE listing, or the first line that cannot be read. -/
def readRows (text : String) : Except RowError (List DescribeRow) :=
  DescribeRow.ofLines ((Text.lines text).zipIdx 1 |>.map fun (l, i) => (i, l))

end TableDdl

import TableDdl.Pattern.Iterate
import TableDdl.Grammar.Basic
import TableDdl.Schema.Column
import TableDdl.Schema.Key
import TableDdl.Text.Case

/-!
# Values inside a definition line

Type arguments and key column lists are read by searching a grammar repeatedly over the
captured text. Numbers are unsigned 64-bit words: digits of other scripts, or a value that does
not fit, give no number, and the argument or length is dropped.
-/

/-! ## Unsigned 64-bit decimal numerals

`readWord` reads the text of an unsigned 64-bit number: an optional plus sign and one or more
ASCII digits, whose value is below 2^64. Anything else, digits of other scripts and values that
do not fit included, reads as nothing.
-/

namespace TableDdl.Text

/-- The largest value of an unsigned 64-bit word. -/
def wordMax : Nat := Nat.pow 2 64 - 1

/-- The value of a non-empty run of ASCII digits. -/
def digitsValue? : List Char → Option Nat
  | [] => none
  | ds => if ds.all Char.isDigit then some (ds.foldl (fun n d => 10 * n + (d.toNat - '0'.toNat)) 0) else none

/-- The value of an unsigned 64-bit numeral, if the text is one. -/
def readWord (s : String) : Option Nat :=
  let ds := match s.toList with
    | '+' :: r => r
    | r => r
  match digitsValue? ds with
  | some v => if v ≤ wordMax then some v else none
  | none => none

end TableDdl.Text

namespace TableDdl.Reader

open Pattern

/-- The arguments of a column type. A text that starts and ends with a single quote gives each
quoted string, quotes kept; any other gives the value of each run of digits. -/
def typeArgs : Option String → List TypeArg
  | none => []
  | some a =>
    let s := a.toList
    if s.isEmpty then []
    else if 2 ≤ s.length && s.head? = some '\'' && s.getLast? = some '\'' then
      (Grammar.stringLiteral.findAll s).map fun m => .text (m.text s)
    else
      (Grammar.digits.findAll s).filterMap fun m => (Text.readWord (m.text s)).map .num

/-- The columns of a key's column list, in order. -/
def keyColumns (q : Quoting) (keyColumn : Pattern) (text : String) : List KeyColumn :=
  let s := text.toList
  (keyColumn.findAll s).map fun m =>
    { name := q.unescape ((m.group? s "name").getD "")
      length := (m.group? s "length").bind Text.readWord
      direction := (m.group? s "direction").map Text.upper }

end TableDdl.Reader

import TableDdl.Unicode.GraphemeExtend
import TableDdl.Unicode.Unprintable

/-!
# Text written as a double-quoted literal

`Text.literal s` writes `s` between double quotes so that every character can be read off: the
NUL, tab, carriage return and line feed, the backslash and the double quote get their backslash
escapes, while grapheme extenders and unprintable characters are written as `\u` and their code
point in lowercase hexadecimal between braces. Every other character, the single quote
included, stands as it is.
-/

namespace TableDdl.Text

/-- The lowercase hexadecimal digits of `n`, without leading zeros. -/
def hexDigits (n : Nat) : List Char :=
  Nat.toDigits 16 n

/-- How one character is written inside a double-quoted literal. -/
def escapeChar (c : Char) : List Char :=
  if c = '\x00' then ['\\', '0']
  else if c = '\t' then ['\\', 't']
  else if c = '\r' then ['\\', 'r']
  else if c = '\n' then ['\\', 'n']
  else if c = '\\' then ['\\', '\\']
  else if c = '"' then ['\\', '"']
  else if Unicode.graphemeExtend.contains c || Unicode.unprintable.contains c then
    ['\\', 'u', '\x7b'] ++ hexDigits c.toNat ++ ['\x7d']
  else [c]

/-- The text between double quotes, each character escaped as `escapeChar` says. -/
def literal (s : String) : String :=
  String.ofList ('"' :: s.toList.flatMap escapeChar ++ ['"'])

end TableDdl.Text

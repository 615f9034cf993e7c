/-!
# JSON values and their text

`Json` is the value tree of a JSON document, with objects keeping their members in the order
given. `Json.compact` writes a value on one line with no spaces; `Json.pretty` writes one member
or element per line, indented by two spaces per level, with `": "` after a member's name and
empty arrays and objects written `[]` and `{}`. Strings escape the double quote, the backslash
and the control characters below U+0020; every other character is written as it is.
-/

namespace TableDdl

/-- A JSON value; numbers are natural numbers. -/
inductive Json where
  | null
  | bool (b : Bool)
  | num (n : Nat)
  | str (s : String)
  | arr (xs : List Json)
  | obj (members : List (String × Json))
  deriving Repr

namespace Json

/-- A string, or `null`. -/
def ofOption {α : Type} (f : α → Json) : Option α → Json
  | some a => f a
  | none => null

/-- The four lowercase hexadecimal digits of a code unit below 2^16. -/
def hex4 (n : Nat) : List Char :=
  let ds := Nat.toDigits 16 n
  List.replicate (4 - ds.length) '0' ++ ds

/-- How a character is written inside a JSON string. -/
def escapeChar (c : Char) : List Char :=
  if c = '"' then ['\\', '"']
  else if c = '\\' then ['\\', '\\']
  else if c = '\n' then ['\\', 'n']
  else if c = '\r' then ['\\', 'r']
  else if c = '\t' then ['\\', 't']
  else if c = '\x08' then ['\\', 'b']
  else if c = '\x0c' then ['\\', 'f']
  else if c.toNat < 0x20 then ['\\', 'u'] ++ hex4 c.toNat
  else [c]

/-- A JSON string literal. -/
def quoteString (s : String) : String :=
  String.ofList ('"' :: s.toList.flatMap escapeChar ++ ['"'])

mutual

/-- The value on one line, without spaces. -/
def compact : Json → String
  | null => "null"
  | bool b => if b then "true" else "false"
  | num n => toString n
  | str s => quoteString s
  | arr xs => "[" ++ compactElems xs ++ "]"
  | obj ms => "\x7b" ++ compactMembers ms ++ "\x7d"

/-- Elements separated by commas. -/
def compactElems : List Json → String
  | [] => ""
  | [x] => compact x
  | x :: xs => compact x ++ "," ++ compactElems xs

/-- Members separated by commas. -/
def compactMembers : List (String × Json) → String
  | [] => ""
  | [(k, v)] => quoteString k ++ ":" ++ compact v
  | (k, v) :: ms => quoteString k ++ ":" ++ compact v ++ "," ++ compactMembers ms

end

/-- Two spaces per level. -/
def indent (level : Nat) : String :=
  String.ofList (List.replicate (2 * level) ' ')

mutual

/-- The value written with one element or member per line, at the given indentation level. -/
def prettyAt (level : Nat) : Json → String
  | arr [] => "[]"
  | obj [] => "\x7b\x7d"
  | arr xs => "[\n" ++ prettyElems (level + 1) xs ++ "\n" ++ indent level ++ "]"
  | obj ms => "\x7b\n" ++ prettyMembers (level + 1) ms ++ "\n" ++ indent level ++ "\x7d"
  | null => "null"
  | bool b => if b then "true" else "false"
  | num n => toString n
  | str s => quoteString s

/-- Elements at the given level, one per line. -/
def prettyElems (level : Nat) : List Json → String
  | [] => ""
  | [x] => indent level ++ prettyAt level x
  | x :: xs => indent level ++ prettyAt level x ++ ",\n" ++ prettyElems level xs

/-- Members at the given level, one per line. -/
def prettyMembers (level : Nat) : List (String × Json) → String
  | [] => ""
  | [(k, v)] => indent level ++ quoteString k ++ ": " ++ prettyAt level v
  | (k, v) :: ms => indent level ++ quoteString k ++ ": " ++ prettyAt level v ++ ",\n" ++ prettyMembers level ms

end

/-- The value written with one element or member per line. -/
def pretty (v : Json) : String := prettyAt 0 v

end Json

end TableDdl

import TableDdl.Pattern.Basic

/-!
# The grammar of table options

A table option is a directive, an optional equals sign with blanks around it or at least one
blank, and a value. String directives take a single-quoted value, word directives a word, and
three directives values of their own shape. Each grammar records the directive as written in
`directive` and the value in `val`.
-/

namespace TableDdl.Grammar

open Pattern

/-- Between a directive and its value: blanks, an equals sign and blanks, or blanks alone. -/
def optionalEquals : Pattern :=
  .alt (many space ++ literal "=" ++ many space) (plus space)

/-- Directives with a single-quoted value. -/
def stringDirectives : List String :=
  ["COMMENT", "DATA DIRECTORY", "INDEX DIRECTORY", "PASSWORD", "CONNECTION"]

/-- Directives with a word as value. -/
def wordDirectives : List String :=
  ["ENGINE", "TYPE", "AUTO_INCREMENT", "AVG_ROW_LENGTH", "CHARACTER SET", "DEFAULT CHARSET",
   "CHECKSUM", "COLLATE", "DELAY_KEY_WRITE", "INSERT_METHOD", "MAX_ROWS", "MIN_ROWS",
   "PACK_KEYS", "ROW_FORMAT", "KEY_BLOCK_SIZE"]

/-- Directives with a value of their own shape. -/
def shapedDirectives : List (String × Pattern) :=
  [("UNION", literal "(" ++ plus (noneOf [.char ')']) ++ literal ")"),
   ("TABLESPACE", manyLazy anyChar ++ literal " STORAGE DISK"),
   ("RAID_TYPE", plus wordChar ++ plus space ++ literal "RAID_CHUNKS" ++ many space ++ literal "=" ++
      many space ++ plus wordChar ++ literal "RAID_CHUNKSIZE" ++ many space ++ literal "=" ++
      many space ++ plus wordChar)]

/-- The directive, the separator and a value of the given shape. -/
def option (directive : String) (value : Pattern) : Pattern :=
  .group "directive" (literal directive) ++ optionalEquals ++ .group "val" value

/-- The value of a string directive: a single-quoted string, doubled quotes inside. -/
def quotedOptionValue : Pattern :=
  many (.alt (noneOf [.char '\'']) (literal "''"))

/-- A string directive with its quoted value; the group `val` holds the inside. -/
def stringOption (directive : String) : Pattern :=
  .group "directive" (literal directive) ++ optionalEquals ++ literal "'" ++
    .group "val" quotedOptionValue ++ literal "'"

end TableDdl.Grammar

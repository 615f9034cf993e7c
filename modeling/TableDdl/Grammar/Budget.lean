import TableDdl.Quoting
import TableDdl.Automaton.Parse
import TableDdl.Automaton.Size

/-!
# The size budget of the line grammars

The line grammars are regular expressions that ignore case, written as text with the quote
tokens of the convention in them, each character with a meaning of its own escaped. Each is
run as an automaton, built once reading forwards and once backwards, and neither may take more
than `automatonLimit` bytes. The quote tokens appear in most of the grammars, several times in
the one for foreign keys, and every character of a token adds states, so a convention with
long enough tokens cannot be used to read.
-/

namespace TableDdl

namespace Grammar

/-- The bytes that the automaton of a line grammar may take in either direction: 10 MiB. -/
def automatonLimit : Nat := 10 * 1024 * 1024

/-- The characters with a meaning of their own in the text of a pattern. -/
def specialChars : List Char :=
  ['\\', '.', '+', '*', '?', '(', ')', '|', '[', ']', '{', '}', '^', '$', '#', '&', '-', '~']

/-- The text with a backslash before each character that has a meaning of its own, so that the
pattern matches the text itself. -/
def escapeText (s : String) : String :=
  String.ofList (s.toList.flatMap fun c => if specialChars.contains c then ['\\', c] else [c])

/-- The actions of a foreign key on delete and on update. -/
def referentialActions : String :=
  "RESTRICT|CASCADE|SET NULL|NO ACTION"

/-- The texts of the line grammars of a convention: the table's name, the columns of a key, a
string and a number of a list of values, a column, a column read loosely, a key, the version
comment of a key, a foreign key, a check and a partition. -/
def patternTexts (q : Quoting) : List String :=
  let iq := escapeText q.initial
  let fq := escapeText q.final
  let esc := escapeText q.escaped
  let ident := iq ++ "(?P<name>(?:" ++ esc ++ "|[^" ++ fq ++ "])+)" ++ fq
  let action := "(?P<ondelete>" ++ referentialActions ++ ")"
  let update := "(?P<onupdate>" ++ referentialActions ++ ")"
  [r"^CREATE (?:\w+ +)?TABLE +" ++ ident ++ r" +\($",
   ident ++ r"(?:\((?P<length>\d+)\))?(?: +(?P<direction>ASC|DESC))?(?:,|$)",
   r"'(?:''|[^'])*'",
   r"\d+",
   r"^  " ++ ident ++ r" +" ++
     r"(?P<coltype>\w+)" ++
     r"(?:\((?P<arg>(?:\d+|\d+,\d+|(?:'(?:''|[^'])*',?)+))\))?" ++
     r"(?: +(?P<unsigned>UNSIGNED))?" ++
     r"(?: +(?P<zerofill>ZEROFILL))?" ++
     r"(?: +CHARACTER SET +(?P<charset>[\w_]+))?" ++
     r"(?: +COLLATE +(?P<collate>[\w_]+))?" ++
     r"(?: +(?P<notnull>(?:NOT )?NULL))?" ++
     r"(?: +DEFAULT +(?P<default>" ++
     r"(?:NULL|'(?:''|[^'])*'|[\w\.\(\)]+" ++
     r"(?: +ON UPDATE [\w\.\(\)]+)?)" ++
     r"))?" ++
     r"(?: +(?:GENERATED ALWAYS)? ?AS +(?P<generated>\(" ++
     r".*\))? ?(?P<persistence>VIRTUAL|STORED)?)?" ++
     r"(?: +(?P<autoincr>AUTO_INCREMENT))?" ++
     r"(?: +COMMENT +'(?P<comment>(?:''|[^'])*)')?" ++
     r"(?: +COLUMN_FORMAT +(?P<colfmt>\w+))?" ++
     r"(?: +STORAGE +(?P<storage>\w+))?" ++
     r"(?: +(?P<extra>.*))?" ++
     r",?$",
   r"^  " ++ ident ++ r" +" ++
     r"(?P<coltype>\w+)" ++
     r"(?:\((?P<arg>(?:\d+|\d+,\d+|'(?:''|[^'])+'))\))?" ++
     r"(?:.*? (?P<notnull>NOT NULL))?",
   r"^  (?:(?P<type>\S+) )?KEY" ++
     r"(?: +" ++ ident ++ r")?" ++
     r"(?: +USING +(?P<using_pre>[^\s,]+))?" ++
     r" +\((?P<columns>.+?)\)" ++
     r"(?: +USING +(?P<using_post>[^\s,]+))?" ++
     r"(?: +KEY_BLOCK_SIZE *[ =]? *(?P<keyblock>[^\s,]+))?" ++
     r"(?: +WITH PARSER +(?P<parser>[^\s,]+))?" ++
     r"(?: +COMMENT +(?P<comment>(?:''|'[^']*?')+))?" ++
     r"(?: +/\*(?P<version_sql>.+)\*/ *)?" ++
     r",?$",
   r"^!\d+ (?: *WITH PARSER +(?P<parser>\S+) *)?",
   r"^  CONSTRAINT +" ++ ident ++ r" +" ++
     r"FOREIGN KEY +" ++
     r"\((?P<local>[^\)]+?)\) REFERENCES +" ++
     r"(?P<table>" ++ iq ++ "[^" ++ fq ++ "]+" ++ fq ++
     r"(?:\." ++ iq ++ "[^" ++ fq ++ "]+" ++ fq ++ r")?) +" ++
     r"\((?P<foreign>[^\)]+?)\)" ++
     r"(?: +(?P<match>MATCH \w+))?" ++
     r"(?: +ON DELETE " ++ action ++ r")?" ++
     r"(?: +ON UPDATE " ++ update ++ r")?",
   r"^  CONSTRAINT +" ++ ident ++ r" +CHECK +\((?P<sqltext>.+)\),?",
   r"^.*(?:SUB)?PARTITION"]

/-- Whether the automata of a pattern's text, forwards and backwards, fit in the limit. Most
texts fit by the bound alone, and only the others are built. A text that the reader of
patterns does not know is taken to fit. -/
def textFits (text : String) : Bool :=
  match Automaton.Expr.ofPattern? text with
  | some e =>
    Automaton.automatonBound e ≤ automatonLimit ||
      (Automaton.automatonBytes .forward e ≤ automatonLimit &&
        Automaton.automatonBytes .backward e ≤ automatonLimit)
  | none => true

end Grammar

/-- Whether every line grammar of the convention builds within the size limit. -/
def Quoting.grammarsFit (q : Quoting) : Bool :=
  (Grammar.patternTexts q).all Grammar.textFits

end TableDdl

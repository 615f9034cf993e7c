import TableDdl.Pattern.Iterate
import TableDdl.Grammar.Options
import TableDdl.Grammar.Basic
import TableDdl.Schema.Options
import TableDdl.Text.Case
import TableDdl.Text.Replace

/-!
# Reading table options

The options after the closing parenthesis are read directive by directive, in a fixed order:
the string directives, the word directives, then the directives with values of their own shape.
For each directive the first match on the line gives the value, and every match is then
removed from the line, so that a value cannot be read again as another directive. The
directive is recorded lowercased. `AUTO_INCREMENT`, `DATA DIRECTORY` and `INDEX DIRECTORY` are
read and then dropped.
-/

namespace TableDdl.Reader

/-- A string option's value with doubled backslashes and doubled quotes made single. -/
def unescapeOption (v : String) : String :=
  Text.replace (Text.replace v "\\\\" "\\") "''" "'"

/-- Every option grammar in the order of reading, with the cleaning of its value. -/
def optionGrammars : List (Pattern × (String → String)) :=
  Grammar.stringDirectives.map (fun d => (Grammar.stringOption d, unescapeOption)) ++
  Grammar.wordDirectives.map (fun d => (Grammar.option d Grammar.word, id)) ++
  Grammar.shapedDirectives.map (fun (d, v) => (Grammar.option d v, id))

/-- Options that are read but not kept. -/
def discardedOptions : List String := ["auto_increment", "data directory", "index directory"]

/-- One directive's step: record the first match, then remove all matches from the line. -/
def scanStep (acc : OptionMap × List Char) (g : Pattern × (String → String)) :
    OptionMap × List Char :=
  let (opts, rest) := acc
  let (pat, clean) := g
  match pat.find? rest with
  | none => (opts, rest)
  | some m =>
    (opts.insert (Text.lower ((m.group? rest "directive").getD ""))
      (clean ((m.group? rest "val").getD "")), pat.deleteAll rest)

/-- The options of a table options line. -/
def scanOptions (line : String) : OptionMap :=
  if line = "" ∨ line = ")" then .empty
  else
    let (opts, _) := optionGrammars.foldl scanStep (.empty, line.toList)
    discardedOptions.foldl OptionMap.erase opts

end TableDdl.Reader

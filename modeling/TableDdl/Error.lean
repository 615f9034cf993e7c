import TableDdl.Quoting
import TableDdl.Describe.Row

/-!
# Errors

What can go wrong outside the reading of a table definition, which never fails: a quoting
convention that breaks a rule, a convention whose line grammars are too large to build, a
DESCRIBE line that cannot be read, a configuration that is not valid TOML or does not fit the
configuration's shape, and a file that cannot be read or written.
-/

namespace TableDdl

/-- An error of the library. -/
inductive ReflectError where
  | invalidQuoting (e : QuotingError)
  | describeRow (e : RowError)
  /-- A line grammar of the quoting convention builds to an automaton over the size limit. -/
  | pattern
  /-- The configuration text is not TOML of the configuration's shape. -/
  | config
  /-- A file could not be read or written. -/
  | io
  deriving Repr, DecidableEq

namespace ReflectError

/-- The error's kind. -/
def kind : ReflectError → String
  | .invalidQuoting _ => "InvalidQuoting"
  | .describeRow _ => "DescribeRow"
  | .pattern => "Pattern"
  | .config => "Config"
  | .io => "Io"

/-- The error's message, for the kinds that have one of their own. -/
def message? : ReflectError → Option String
  | .invalidQuoting e => some ("标识符引号配置无效: " ++ e.detail)
  | .describeRow e => some ("DESCRIBE 行格式无效: " ++ e.detail)
  | .pattern | .config | .io => none

/-- The error as the library describes it: its message, or the name of its kind of failure. -/
def describe (e : ReflectError) : String :=
  match e with
  | .pattern => "正则表达式编译失败: Compiled regex exceeds size limit of 10485760 bytes."
  | .config => "配置错误"
  | .io => "IO 错误"
  | _ => e.message?.getD e.kind

end ReflectError

end TableDdl

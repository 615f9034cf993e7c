import TableDdl.Cli.Run

/-!
# The command line

The program reads its arguments, takes a snapshot of the files its run may look at, runs
`Cli.Invocation.run` on it, prints what the run printed, writes back the files the run wrote,
and exits with the run's status. A run whose arguments are refused prints the usage or the
version and exits with the status that `ArgError.exitCode` gives.
-/

namespace TableDdl.Cli

/-- The usage text. -/
def usage : String :=
  "从 SHOW CREATE TABLE / DESCRIBE 输出中反射表结构\n\n" ++
  "Usage: reflect-cli [OPTIONS] <COMMAND>\n\n" ++
  "Commands:\n" ++
  "  parse        解析 SHOW CREATE TABLE 输出\n" ++
  "  describe     解析 DESCRIBE 输出\n" ++
  "  init-config  生成默认配置文件\n" ++
  "  help         Print this message or the help of the given subcommand(s)\n\n" ++
  "Options:\n" ++
  "  -c, --config <FILE>  配置文件路径\n" ++
  "  -v, --verbose        输出调试日志\n" ++
  "  -h, --help           Print help\n" ++
  "  -V, --version        Print version\n"

/-- The content of the file at the path, if it can be read. -/
def readIfPresent (p : String) : IO (Option String) := do
  try
    return some (← IO.FS.readFile p)
  catch _ =>
    return none

/-- Whether something is at the path: a file, or a directory, which opens but cannot be read. -/
def present (p : String) : IO Bool := do
  try
    let _ ← IO.FS.Handle.mk p .read
    return true
  catch _ =>
    return false

/-- The snapshot of the paths: the files that can be read, and the others that are present. -/
def snapshot (paths : List String) : IO WorkDir :=
  let take (d : WorkDir) (p : String) : IO WorkDir := do
    let n := WorkDir.normalize p
    if n.isEmpty then return d
    match ← readIfPresent n with
    | some text => return ⟨WorkDir.insertFile n text d.files, d.dirs⟩
    | none => return if ← present n then ⟨d.files, n :: d.dirs⟩ else d
  paths.foldlM take ⟨[], []⟩

/-- Writes the files of `after` that differ from `before`; the first that cannot be written
gives its failure. -/
def writeBack (before after : WorkDir) : IO (Option Failure) :=
  let put (failed : Option Failure) (file : String × String) : IO (Option Failure) := do
    if failed.isSome || before.read? file.1 == some file.2 then return failed
    try
      IO.FS.writeFile file.1 file.2
      return none
    catch _ =>
      return some (writeFailure file.1)
  after.files.foldlM put none

end TableDdl.Cli

/-- Runs the tool on the command line. -/
def main (args : List String) : IO UInt32 := do
  match TableDdl.Cli.Invocation.ofArgs args with
  | .error e =>
    match e with
    | .displayVersion => IO.print TableDdl.Cli.versionText
    | .displayHelp => IO.print TableDdl.Cli.usage
    | _ => IO.eprint ("error: " ++ e.kindName ++ "\n\n" ++ TableDdl.Cli.usage)
    return e.exitCode.toUInt32
  | .ok inv =>
    let dir ← TableDdl.Cli.snapshot inv.paths
    let stdin ← if inv.readsStdin then (← IO.getStdin).readToEnd else pure ""
    let o := inv.run stdin dir
    IO.print o.stdout
    let failure ← match o.failure with
      | some f => pure (some f)
      | none => TableDdl.Cli.writeBack dir o.dir
    match failure with
    | some f =>
      IO.eprintln f.text
      return 1
    | none => return 0

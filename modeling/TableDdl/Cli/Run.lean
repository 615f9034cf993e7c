import TableDdl.Cli.Args
import TableDdl.Config.Toml
import TableDdl.Describe.Create
import TableDdl.Report
import TableDdl.Text.Lines

/-!
# Running a command

`Cli.run` runs the tool on its arguments, its standard input and the files of its working
directory, and gives the exit status, what was printed, the files afterwards and, for a failed
run, the failure: an outer message and the library error behind it, if there is one.

Except for `init-config`, a run first loads the configuration, from the file named by
`--config` or else from `reflect.toml` or `.reflect.toml`, whichever exists first, and builds
the reader from it. `parse` prints the report of the definition it reads; `describe` prints the
report of the table its DESCRIBE listing describes, or with `--show-ddl` the `CREATE TABLE`
statement. With `--strict`, a run whose reading gave warnings fails after printing its report.
`init-config` writes the default configuration, refusing to replace a file unless forced.
-/

namespace TableDdl.Cli

/-- The device files that every run finds: the null device and the three standard streams. -/
inductive Device where
  /-- Reads as empty; what is written to it is dropped. -/
  | null
  /-- The standard input, which every reading gives whole. -/
  | input
  /-- The standard output: what is written to it is printed; read before anything is
  printed, it is empty. -/
  | output
  /-- The standard error, which shows nothing of a run and reads as empty. -/
  | error
  deriving Repr, DecidableEq

/-- The components of an absolute path, with empty and `.` components dropped and each `..`
removing the component before it; nothing for a relative path or one that ends in `/`. -/
def absoluteParts (p : String) : Option (List String) :=
  let step (acc : List String) (part : String) : List String :=
    if part = "" || part = "." then acc
    else if part = ".." then acc.drop 1
    else part :: acc
  match p.toList, p.toList.getLast? with
  | '/' :: _, some c => if c = '/' then none else some ((Text.split '/' p).foldl step []).reverse
  | _, _ => none

/-- The standard stream with the descriptor number, as the name of a descriptor file. -/
def Device.ofDescriptor? : String → Option Device
  | "0" => some .input
  | "1" => some .output
  | "2" => some .error
  | _ => none

/-- The device that the path names, if it names one: `/dev/null`, the standard streams under
their names in `/dev`, and the descriptor files `/dev/fd/N` and `/proc/self/fd/N`. -/
def Device.ofPath? (p : String) : Option Device :=
  match absoluteParts p with
  | some ["dev", "null"] => some .null
  | some ["dev", "stdin"] => some .input
  | some ["dev", "stdout"] => some .output
  | some ["dev", "stderr"] => some .error
  | some ["dev", "fd", n] => Device.ofDescriptor? n
  | some ["proc", "self", "fd", n] => Device.ofDescriptor? n
  | _ => none

/-- The files of a working directory, by relative name and sorted by name, and the
directories known besides those that hold a file. -/
structure WorkDir where
  files : List (String × String)
  dirs : List String
  deriving Repr

namespace WorkDir

/-- A path without leading `./` parts; the directory itself is `.`. -/
def normalize (p : String) : String :=
  let rec strip : Nat → List Char → List Char
    | 0, s => s
    | n + 1, '.' :: '/' :: r => strip n (r.dropWhile (· = '/'))
    | _, s => s
  let s := strip p.length p.toList
  if s.isEmpty && !p.isEmpty then "." else String.ofList s

/-- Whether the path names a directory: the directory itself, a known one, or one that holds
a file. -/
def isDir (d : WorkDir) (p : String) : Bool :=
  let n := normalize p
  n = "." || d.dirs.contains n || d.files.any fun (f, _) => (n ++ "/").isPrefixOf f

/-- The content of the file at the path. -/
def read? (d : WorkDir) (p : String) : Option String :=
  let n := normalize p
  (d.files.find? (·.1 == n)).map (·.2)

/-- Whether something exists at the path: a file, a directory or a device. -/
def «exists» (d : WorkDir) (p : String) : Bool :=
  (Device.ofPath? p).isSome || (d.read? p).isSome || d.isDir p

/-- Inserts a file into a list sorted by name, replacing a file of the same name. -/
def insertFile (name content : String) : List (String × String) → List (String × String)
  | [] => [(name, content)]
  | (f, c) :: r =>
    if name < f then (name, content) :: (f, c) :: r
    else if name = f then (name, content) :: r
    else (f, c) :: insertFile name content r

/-- The directory that holds the path, or the empty string for the working directory. -/
def parent (p : String) : String :=
  String.ofList ((p.toList.reverse.dropWhile (· ≠ '/')).drop 1).reverse

/-- The directory with the file written, or nothing if the path is a directory or its parent
directory does not exist. -/
def write (d : WorkDir) (p content : String) : Option WorkDir :=
  let n := normalize p
  if n.isEmpty || d.isDir n then none
  else if (parent n).isEmpty || d.isDir (parent n) then
    some ⟨insertFile n content d.files, d.dirs⟩
  else none

end WorkDir

/-- The part of a run that failed: writing the configuration, loading it and building the
reader, or the command itself. -/
inductive Stage where
  | initConfig
  | setup
  | command
  deriving Repr, DecidableEq

/-- The line that a failure at this stage is reported under. -/
def Stage.label : Stage → String
  | .initConfig => "❌ 初始化配置失败"
  | .setup => "❌ 应用初始化失败"
  | .command => "❌ 操作失败"

/-- Why a run failed: the stage, the outer message, and the library error behind it. -/
structure Failure where
  stage : Stage
  message : String
  cause : Option ReflectError
  deriving Repr

/-- The failure as one line: the stage, the message and the cause, each after the one before. -/
def Failure.text (f : Failure) : String :=
  let cause := match f.cause with
    | some e => ": " ++ e.describe
    | none => ""
  f.stage.label ++ ": " ++ f.message ++ cause

/-- What a run gives. -/
structure Outcome where
  exit : Nat
  stdout : String
  dir : WorkDir
  failure : Option Failure
  deriving Repr

/-- The outcome of a run that printed `stdout` and may have failed after that. -/
def finish (dir : WorkDir) (stdout : String) : Option Failure → Outcome
  | some f => ⟨1, stdout, dir, some f⟩
  | none => ⟨0, stdout, dir, none⟩

/-- What reading the path gives: a file's content, the standard input, or nothing from the
null device and the output devices. -/
def readAt (dir : WorkDir) (stdin p : String) : Option String :=
  match Device.ofPath? p with
  | some .input => some stdin
  | some _ => some ""
  | none => dir.read? p

/-- The configuration file that the path names, read and parsed; `label` is the failure's
message. -/
def loadFile (dir : WorkDir) (stdin p label : String) : Except Failure Config :=
  match readAt dir stdin p with
  | none => .error ⟨.setup, label, some .io⟩
  | some text =>
    match Config.ofToml text with
    | .ok c => .ok c
    | .error e => .error ⟨.setup, label, some e⟩

/-- The configuration of a run: from the given file, or from the first of `reflect.toml` and
`.reflect.toml` that exists, or the default. -/
def loadConfig (dir : WorkDir) (stdin : String) : Option String → Except Failure Config
  | some p => loadFile dir stdin p ("加载配置文件失败: " ++ p)
  | none =>
    match ["reflect.toml", ".reflect.toml"].find? dir.exists with
    | some p => loadFile dir stdin p "加载配置文件失败"
    | none => .ok Config.default

/-- The input text: the file's content, or standard input for no file or `-`. -/
def readInput (dir : WorkDir) (stdin : String) : Option String → Except Failure String
  | none => .ok stdin
  | some "-" => .ok stdin
  | some p =>
    match readAt dir stdin p with
    | some t => .ok t
    | none => .error ⟨.command, "读取输入文件失败: " ++ p, none⟩

/-- The printed report of a reading, and the failure that `--strict` makes of its warnings. -/
def emit (out : OutputOptions) (t : Table) (ws : List Warning) : String × Option Failure :=
  let j := Report.parsed false t ws
  ((if out.pretty then j.pretty else j.compact) ++ "\n",
    if out.strict && !ws.isEmpty then
      some ⟨.command, "解析产生了 " ++ toString ws.length ++ " 条警告（--strict）", none⟩
    else none)

/-- Runs `parse` or `describe` with the configuration and its reader. -/
def runCommand (cfg : Config) (r : Reader) (stdin : String) (dir : WorkDir) : Command → Outcome
  | .parse file ansi out =>
    match readInput dir stdin file with
    | .error f => finish dir "" (some f)
    | .ok text =>
      let reader : Reader := if ansi then ⟨cfg.dialect, .ansi, cfg.registry⟩ else r
      let (t, ws) := reader.parse text (out.charset.getD cfg.defaultCharset) []
      let (printed, f) := emit out t ws
      finish dir printed f
  | .describe file table showDdl out =>
    match readInput dir stdin (some file) with
    | .error f => finish dir "" (some f)
    | .ok text =>
      match readRows text with
      | .error e => finish dir "" (some ⟨.command, "解析 DESCRIBE 输出失败", some (.describeRow e)⟩)
      | .ok rows =>
        let ddl := createStatement r.quoting table rows
        if showDdl then finish dir (ddl ++ "\n") none
        else
          let (t, ws) := r.parse ddl (out.charset.getD cfg.defaultCharset) []
          let (printed, f) := emit out t ws
          finish dir printed f
  | .initConfig _ => finish dir "" none

/-- The file that `init-config` writes: the given one, or `reflect.toml`. -/
def configTarget (path : Option String) : String :=
  path.getD "reflect.toml"

/-- Why `init-config` leaves an existing file alone. -/
def initRefusal (p : String) : Failure :=
  ⟨.initConfig, "配置文件 '" ++ p ++ "' 已存在，使用 --force 覆盖", none⟩

/-- Why `init-config` could not write its file. -/
def writeFailure (p : String) : Failure :=
  ⟨.initConfig, "写入配置文件失败: " ++ p, some .io⟩

/-- Writes the default configuration to its target, unless something is there already and
the run is not forced. Written to the standard output, the configuration is printed; the other
devices take it and show nothing. -/
def initConfig (dir : WorkDir) (path : Option String) (force : Bool) : Outcome :=
  let p := configTarget path
  if dir.exists p && !force then finish dir "" (some (initRefusal p))
  else
    match Device.ofPath? p with
    | some .output => finish dir Config.default.fileText none
    | some _ => finish dir "" none
    | none =>
      match dir.write p Config.default.fileText with
      | some d => finish d "" none
      | none => finish dir "" (some (writeFailure p))

/-- Runs an invocation. -/
def Invocation.run (inv : Invocation) (stdin : String) (dir : WorkDir) : Outcome :=
  match inv.command with
  | .initConfig force => initConfig dir inv.config force
  | cmd =>
    match loadConfig dir stdin inv.config with
    | .error f => finish dir "" (some f)
    | .ok cfg =>
      match cfg.reader with
      | .error e => finish dir "" (some ⟨.setup, "初始化解析器失败", some e⟩)
      | .ok r => runCommand cfg r stdin dir cmd

/-- The text printed for `--version`. -/
def versionText : String := "reflect-cli 0.1.0\n"

/-- The version of the tool and of its library, as one line. -/
def versionString : String := "Reflect CLI v0.1.0 (core v0.1.0)"

/-- The files a run may look at: its configuration files and its input file, devices
apart. -/
def Invocation.paths (inv : Invocation) : List String :=
  let config := match inv.command, inv.config with
    | .initConfig _, p => let t := configTarget p; [t, WorkDir.parent (WorkDir.normalize t)]
    | _, some p => [p]
    | _, none => ["reflect.toml", ".reflect.toml"]
  let input := match inv.command with
    | .parse (some f) _ _ => [f]
    | .describe f _ _ _ => [f]
    | _ => []
  (config ++ input.filter (· ≠ "-")).filter fun p => (Device.ofPath? p).isNone

/-- Whether the run may read standard input: for its input, or its configuration, from the
standard input device. -/
def Invocation.readsStdin (inv : Invocation) : Bool :=
  let device (p : String) : Bool := Device.ofPath? p == some .input
  let input := match inv.command with
    | .parse none _ _ => true
    | .parse (some f) _ _ => f = "-" || device f
    | .describe f _ _ _ => f = "-" || device f
    | .initConfig _ => false
  input || match inv.command, inv.config with
    | .initConfig _, _ => false
    | _, some p => device p
    | _, none => false

/-- Runs the tool: the arguments' error, or the outcome of the run. -/
def run (args : List String) (stdin : String) (dir : WorkDir) : Except ArgError Outcome :=
  (Invocation.ofArgs args).map fun inv => inv.run stdin dir

end TableDdl.Cli

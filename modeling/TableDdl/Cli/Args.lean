/-!
# The command line

The command line of the tool: the global options `--config PATH` (short `-c`) and `--verbose`
(short `-v`), and one of
the commands `parse [FILE]`, `describe FILE --table NAME` and `init-config`. `parse` and
`describe` take `--charset`, `--strict` and `--pretty`; `parse` takes `--ansi-quotes`,
`describe` takes `--show-ddl`, and `init-config` takes `--force`.

Arguments are read from left to right. A long option takes its value after `=` or as the next
argument, a short one also glued to it; a flag takes no value; no option may be given twice at
one level; `--` ends the options. An option waiting for its value takes the next argument as
it, even one that names a command. A value that comes as an argument of its own is checked when
the next argument is recorded, so an unknown argument in between is reported first. The command's
arguments are read before the top level is finished, and after all arguments are read the
missing command or required arguments are reported. `--help` and `--version` are reported as
errors of their own kinds, since they end the run.
-/

namespace TableDdl.Cli

/-- Why the arguments do not form a command to run. -/
inductive ArgError where
  | displayHelp
  | displayVersion
  /-- No argument at all was given. -/
  | displayHelpOnMissing
  | missingSubcommand
  | invalidSubcommand
  | unknownArgument
  | missingRequiredArgument
  /-- An option or flag was given twice. -/
  | argumentConflict
  /-- An option lacks its value, or a path is empty. -/
  | invalidValue
  /-- A flag was given a value. -/
  | tooManyValues
  deriving Repr, DecidableEq

/-- The error's kind, as reported. -/
def ArgError.kindName : ArgError → String
  | .displayHelp => "DisplayHelp"
  | .displayVersion => "DisplayVersion"
  | .displayHelpOnMissing => "DisplayHelpOnMissingArgumentOrSubcommand"
  | .missingSubcommand => "MissingSubcommand"
  | .invalidSubcommand => "InvalidSubcommand"
  | .unknownArgument => "UnknownArgument"
  | .missingRequiredArgument => "MissingRequiredArgument"
  | .argumentConflict => "ArgumentConflict"
  | .invalidValue => "InvalidValue"
  | .tooManyValues => "TooManyValues"

/-- The exit status of a run that ends with the error: 0 for help and version, 2 otherwise. -/
def ArgError.exitCode : ArgError → Nat
  | .displayHelp | .displayVersion => 0
  | _ => 2

/-- Options of `parse` and `describe` about the output. -/
structure OutputOptions where
  charset : Option String
  strict : Bool
  pretty : Bool
  deriving Repr, DecidableEq

/-- A command of the tool. -/
inductive Command where
  /-- Read a table definition from the file, or from standard input for none or `-`. -/
  | parse (file : Option String) (ansiQuotes : Bool) (output : OutputOptions)
  /-- Read a DESCRIBE listing and the table it describes. -/
  | describe (file : String) (table : String) (showDdl : Bool) (output : OutputOptions)
  /-- Write the default configuration file. -/
  | initConfig (force : Bool)
  deriving Repr, DecidableEq

/-- A command with the global options. -/
structure Invocation where
  config : Option String
  verbose : Bool
  command : Command
  deriving Repr, DecidableEq

/-- What an option does with its argument. -/
inductive OptionAction where
  /-- A flag, set when given. -/
  | flag
  /-- Takes one value; a path value may not be empty. -/
  | value (isPath : Bool)
  | help
  | version
  deriving Repr, DecidableEq

/-- An option of one level of the command line. -/
structure OptionSpec where
  id : String
  short : Option Char
  long : String
  action : OptionAction

/-- The options, positional arguments and required arguments of one level. -/
structure LevelSpec where
  options : List OptionSpec
  /-- Positional arguments in order, each a path. -/
  positionals : List String
  /-- Arguments that must be given. -/
  required : List String

/-- Options of every level. -/
def globalOptions : List OptionSpec :=
  [⟨"config", some 'c', "config", .value true⟩, ⟨"verbose", some 'v', "verbose", .flag⟩,
   ⟨"help", some 'h', "help", .help⟩]

/-- The options that `parse` and `describe` share. -/
def outputOptions : List OptionSpec :=
  [⟨"charset", none, "charset", .value false⟩, ⟨"strict", none, "strict", .flag⟩,
   ⟨"pretty", none, "pretty", .flag⟩]

/-- The top level: global options and the version. -/
def topLevel : LevelSpec :=
  ⟨globalOptions ++ [⟨"version", some 'V', "version", .version⟩], [], []⟩

/-- The commands, by name, with their levels. -/
def commandLevels : List (String × LevelSpec) :=
  [("parse", ⟨[⟨"ansi_quotes", none, "ansi-quotes", .flag⟩] ++ outputOptions ++ globalOptions,
      ["file"], []⟩),
   ("describe", ⟨[⟨"table", none, "table", .value false⟩, ⟨"show_ddl", none, "show-ddl", .flag⟩] ++
      outputOptions ++ globalOptions, ["file"], ["file", "table"]⟩),
   ("init-config", ⟨[⟨"force", none, "force", .flag⟩] ++ globalOptions, [], []⟩)]

/-- What one level of the command line gave: values by argument, positionals included, and
how many arguments were recorded. -/
structure Given where
  values : List (String × String)
  count : Nat

/-- An argument that takes a value: an option that takes one, or a positional, which is a
path. -/
structure Slot where
  id : String
  isPath : Bool

/-- The reading of one level. The last argument that takes a value stays pending, waiting for
its value or holding it, until the next argument that is recorded, or the end of the level:
only then is its value checked and recorded. -/
structure LevelState where
  given : Given
  pending : Option (Slot × Option String)
  /-- How many positionals have been taken. -/
  positionals : Nat
  /-- Whether `--` was seen. -/
  trailing : Bool

/-- The state of a level before its first argument. -/
def LevelState.start : LevelState := ⟨⟨[], 0⟩, none, 0, false⟩

/-- Records a value of an argument; an argument given twice is a conflict, an empty path is
invalid. -/
def record (g : Given) (id : String) (isPath : Bool) (v : String) : Except ArgError Given :=
  if g.values.any (·.1 == id) then .error .argumentConflict
  else if isPath && v.isEmpty then .error .invalidValue
  else .ok ⟨g.values ++ [(id, v)], g.count + 1⟩

/-- Records the pending argument: one still waiting for its value lacks it. -/
def resolvePending (st : LevelState) : Except ArgError LevelState :=
  match st.pending with
  | none => .ok st
  | some (_, none) => .error .invalidValue
  | some (slot, some v) => do
    let g ← record st.given slot.id slot.isPath v
    pure { st with given := g, pending := none }

/-- Applies an option given without an attached value. -/
def applyOption (st : LevelState) (o : OptionSpec) : Except ArgError LevelState := do
  let st ← resolvePending st
  match o.action with
  | .help => .error .displayHelp
  | .version => .error .displayVersion
  | .flag => pure { st with given := ← record st.given o.id false "true" }
  | .value isPath => pure { st with pending := some (⟨o.id, isPath⟩, none) }

/-- Applies an option given with an attached value; only an option that takes a value takes
one. -/
def applyOptionValue (st : LevelState) (o : OptionSpec) (v : String) : Except ArgError LevelState :=
  match o.action with
  | .value isPath => do
    let st ← resolvePending st
    pure { st with given := ← record st.given o.id isPath v }
  | _ => .error .tooManyValues

/-- Applies a cluster of short options, such as `-vc` followed by a value. -/
def applyShorts (spec : LevelSpec) (st : LevelState) : List Char → Except ArgError LevelState
  | [] => .ok st
  | c :: rest =>
    match spec.options.find? (·.short == some c) with
    | none => .error .unknownArgument
    | some o =>
      match o.action with
      | .value _ =>
        if rest.isEmpty then applyOption st o
        else
          let v := match rest with
            | '=' :: r => r
            | r => r
          applyOptionValue st o (String.ofList v)
      | _ => do
        let st ← applyOption st o
        applyShorts spec st rest

/-- Whether the name is a command's. -/
def isCommandName (name : String) : Bool :=
  (commandLevels.find? (·.1 == name)).isSome

/-- Whether the name is a command's or `help`, which the top level also takes for a command. -/
def isSubcommandName (name : String) : Bool :=
  name = "help" || isCommandName name

/-- Whether an option before `--` waits for its value, which the next argument then gives. -/
def LevelState.awaitsValue (st : LevelState) : Bool :=
  !st.trailing &&
    match st.pending with
    | some (_, none) => true
    | _ => false

/-- Applies a plain argument: the value of an option waiting for it, or else the next
positional. Past the positionals, an argument at the top level is taken for an unknown
command, unless it names a command, `help` included, after `--`. -/
def applyPlain (spec : LevelSpec) (top : Bool) (st : LevelState) (arg : String) :
    Except ArgError LevelState :=
  match st.pending, st.trailing with
  | some (slot, none), false => .ok { st with pending := some (slot, some arg) }
  | _, _ =>
    match spec.positionals[st.positionals]? with
    | some p => do
      let st ← resolvePending st
      pure { st with pending := some (⟨p, true⟩, some arg), positionals := st.positionals + 1 }
    | none =>
      .error (if top && !(st.trailing && isSubcommandName arg) then .invalidSubcommand
        else .unknownArgument)

/-- Applies one argument that is not a command name. -/
def applyArg (spec : LevelSpec) (top : Bool) (st : LevelState) (arg : String) :
    Except ArgError LevelState :=
  if st.trailing then applyPlain spec top st arg
  else if arg = "--" then .ok { st with trailing := true }
  else
    match arg.toList with
    | '-' :: '-' :: name =>
      let (n, v) := (name.takeWhile (· ≠ '='), name.dropWhile (· ≠ '='))
      match spec.options.find? (·.long == String.ofList n) with
      | none => .error .unknownArgument
      | some o =>
        match v with
        | '=' :: value => applyOptionValue st o (String.ofList value)
        | _ => applyOption st o
    | '-' :: c :: rest => applyShorts spec st (c :: rest)
    | _ => applyPlain spec top st arg

/-- Reads the arguments of a command's level, to the end. -/
def readLevel (spec : LevelSpec) (st : LevelState) : List String → Except ArgError Given
  | [] => do
    let st ← resolvePending st
    if spec.required.all fun r => st.given.values.any (·.1 == r) then pure st.given
    else .error .missingRequiredArgument
  | a :: rest => do
    let st ← applyArg spec false st a
    readLevel spec st rest

/-- The outcome of `help` followed by the names: help for no name or for one command's name,
and an unknown command otherwise, since no command has commands of its own. -/
def helpFor : List String → ArgError
  | [] => .displayHelp
  | [a] => if a = "help" || isCommandName a then .displayHelp else .invalidSubcommand
  | _ => .invalidSubcommand

/-- Reads the top level up to the command name; gives the top level's values, the command
and what the command level gave. An argument is taken for a command only before `--` and when
no option waits for its value. The command's level is read before the top level's pending
argument is recorded. -/
def readTop (st : LevelState) : List String → Except ArgError (Given × String × Given)
  | [] => do
    let st ← resolvePending st
    .error (if st.given.count = 0 then .displayHelpOnMissing else .missingSubcommand)
  | a :: rest =>
    if st.trailing || st.awaitsValue then do
      let st ← applyArg topLevel true st a
      readTop st rest
    else if a = "help" then .error (helpFor rest)
    else
      match commandLevels.find? (·.1 == a) with
      | some (name, spec) => do
        let g ← readLevel spec LevelState.start rest
        let st ← resolvePending st
        pure (st.given, name, g)
      | none => do
        let st ← applyArg topLevel true st a
        readTop st rest

/-- The value of an argument. -/
def Given.get? (g : Given) (id : String) : Option String :=
  (g.values.find? (·.1 == id)).map (·.2)

/-- Whether a flag was given. -/
def Given.flag (g : Given) (id : String) : Bool := (g.get? id).isSome

/-- Reads the command line, the program name excluded. A global option given at the command's
level wins over one given before the command. -/
def Invocation.ofArgs (args : List String) : Except ArgError Invocation := do
  let (top, name, sub) ← readTop LevelState.start args
  let output : OutputOptions := ⟨sub.get? "charset", sub.flag "strict", sub.flag "pretty"⟩
  let command ←
    if name = "parse" then pure (Command.parse (sub.get? "file") (sub.flag "ansi_quotes") output)
    else if name = "describe" then
      pure (Command.describe ((sub.get? "file").getD "") ((sub.get? "table").getD "") (sub.flag "show_ddl") output)
    else pure (Command.initConfig (sub.flag "force"))
  pure ⟨(sub.get? "config").orElse fun _ => top.get? "config", sub.flag "verbose" || top.flag "verbose", command⟩

end TableDdl.Cli

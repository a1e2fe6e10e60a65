import CacheGate.Settings.Raw

/-!
# The command line

An invocation names a settings file and a command. Options are written
`--name value` or `--name=value`. A value in its own argument is checked when
the next option or the end of the arguments is reached, so an unknown
argument is reported before a bad value in front of it.
-/

namespace CacheGate.CommandLine

/-- Why an invocation is not carried out. The last two ask for a text instead. -/
inductive Failure where
  | unknownArgument
  | valueValidation
  | invalidValue
  | tooManyValues
  | argumentConflict
  | invalidSubcommand
  | displayHelp
  | displayVersion
  deriving DecidableEq, Repr

/-- What is to be done. -/
inductive Command where
  | serve (overrides : Settings.Overrides)
  | checkConfig
  deriving DecidableEq, Repr

/-- A complete invocation. -/
structure Invocation where
  configFile : Option String
  command : Option Command
  deriving DecidableEq, Repr

/-! ## Options -/

/-- An option over a record of type `ρ`. -/
structure Opt (ρ : Type) where
  name : String
  isSet : ρ → Bool
  set : String → ρ → Except Failure ρ

variable {ρ : Type}

/-- Sets an option; one that is set already conflicts with itself. -/
def Opt.assign (opt : Opt ρ) (value : String) (record : ρ) : Except Failure ρ :=
  if opt.isSet record then .error .argumentConflict else opt.set value record

/-- An option whose value has not been checked yet, or has not been given yet. -/
structure Pending (ρ : Type) where
  opt : Opt ρ
  value : Option String

/-- Checks the option that is pending, if any. -/
def settle (pending : Option (Pending ρ)) (record : ρ) : Except Failure ρ :=
  match pending with
  | none => .ok record
  | some ⟨_, none⟩ => .error .invalidValue
  | some ⟨opt, some value⟩ => opt.assign value record

/-- Whether the pending option still waits for its value. -/
def isWaiting : Option (Pending ρ) → Bool
  | some ⟨_, none⟩ => true
  | _ => false

/-! ## Arguments -/

/-- One level of arguments: the program itself or one of its commands. -/
structure Stage (ρ : Type) where
  options : List (Opt ρ)
  commands : List String
  hasVersion : Bool

/-- The failure that a stray word is: where commands are expected, it is an
unknown one. -/
def Stage.strayWord (stage : Stage ρ) : Failure :=
  if stage.commands.isEmpty then .unknownArgument else .invalidSubcommand

/-- How a stage ends: with its arguments, or at a command, whose arguments
follow. The option pending at a command is checked after the command. -/
inductive StageEnd (ρ : Type) where
  | finished (record : ρ)
  | command (name : String) (rest : List String) (pending : Option (Pending ρ)) (record : ρ)

/-- The argument classes. -/
inductive Argument where
  | terminator
  | long (name : String) (value : Option String)
  | short (flag : Char)
  | word
  deriving DecidableEq, Repr

/-- Classifies an argument by its leading hyphens. -/
def classify (argument : String) : Argument :=
  match argument.toList with
  | ['-', '-'] => .terminator
  | '-' :: '-' :: rest =>
    match Text.cut? '=' rest with
    | some (name, value) => .long (String.ofList name) (some (String.ofList value))
    | none => .long (String.ofList rest) none
  | '-' :: flag :: _ => .short flag
  | _ => .word

/-- Reads the arguments of a stage. -/
def Stage.parse (stage : Stage ρ) :
    List String → Option (Pending ρ) → ρ → Except Failure (StageEnd ρ)
  | [], pending, record => (settle pending record).map .finished
  | argument :: rest, pending, record =>
    if !isWaiting pending && stage.commands.contains argument then
      .ok (.command argument rest pending record)
    else match classify argument with
      | .terminator =>
        match rest with
        | [] => (settle pending record).map .finished
        | word :: _ =>
          .error (if stage.commands.contains word then .unknownArgument else stage.strayWord)
      | .short flag =>
        if flag = 'h' then (settle pending record).bind fun _ => .error .displayHelp
        else if flag = 'V' && stage.hasVersion then
          (settle pending record).bind fun _ => .error .displayVersion
        else .error .unknownArgument
      | .long name value =>
        if name = "help" || (name = "version" && stage.hasVersion) then
          if value.isSome then .error .tooManyValues
          else (settle pending record).bind fun _ =>
            .error (if name = "help" then .displayHelp else .displayVersion)
        else match stage.options.find? fun opt => opt.name == name with
          | none => .error .unknownArgument
          | some opt => do
            let record ← settle pending record
            match value with
            | some value => stage.parse rest none (← opt.assign value record)
            | none => stage.parse rest (some ⟨opt, none⟩) record
      | .word =>
        match pending with
        | some ⟨opt, none⟩ => stage.parse rest (some ⟨opt, some argument⟩) record
        | _ => .error stage.strayWord

/-! ## Values -/

/-- A value that has to be readable. -/
def readable {α : Type} (value : Option α) : Except Failure α :=
  match value with
  | some value => .ok value
  | none => .error .valueValidation

/-- A truth value in one of its spellings, in any case. -/
def switch? (value : String) : Option Bool :=
  let word := Text.lowered value
  if ["y", "yes", "t", "true", "on", "1"].contains word then some true
  else if ["n", "no", "f", "false", "off", "0"].contains word then some false
  else none

/-- A port number. -/
def port? (value : String) : Option Nat :=
  ((Text.int64? value.toList).filter fun n => 0 ≤ n && n ≤ 0xFFFF).map Int.toNat

/-! ## The program -/

/-- A path, which must not be empty. -/
def path (value : String) : Except Failure String :=
  if value.isEmpty then .error .invalidValue else .ok value

/-- The arguments of the program itself. -/
def program : Stage (Option String) where
  options :=
    [⟨"config-file", Option.isSome, fun value _ => (path value).map some⟩]
  commands := ["serve", "check-config", "help"]
  hasVersion := true

/-- The arguments of the serving command. -/
def serving : Stage Settings.Overrides where
  options :=
    [⟨"server-host", (·.serverHost.isSome), fun value o => .ok { o with serverHost := value }⟩,
      ⟨"server-port", (·.serverPort.isSome), fun value o =>
        (readable (port? value)).map fun port => { o with serverPort := port }⟩,
      ⟨"node-name", (·.nodeName.isSome), fun value o => .ok { o with nodeName := value }⟩,
      ⟨"log-level", (·.logLevel.isSome), fun value o => .ok { o with logLevel := value }⟩,
      ⟨"log-json", (·.logJson.isSome), fun value o =>
        (readable (switch? value)).map fun on => { o with logJson := on }⟩,
      ⟨"workers", (·.workers.isSome), fun value o =>
        (readable (Text.naturalUpTo? Text.greatestNat64 value.toList)).map fun count =>
          { o with workers := count }⟩,
      ⟨"extended-headers", (·.extendedHeaders.isSome), fun value o =>
        .ok { o with extendedHeaders := value }⟩]
  commands := []
  hasVersion := false

/-- The checking command has no arguments of its own. -/
def checking : Stage Unit := ⟨[], [], false⟩

/-- The record of a stage that has no commands. -/
def StageEnd.record : StageEnd ρ → ρ
  | .finished record => record
  | .command _ _ _ record => record

/-- What a request for help on commands fails with. -/
def helpOn : List String → Failure
  | [] => .displayHelp
  | [name] => if program.commands.contains name then .displayHelp else .invalidSubcommand
  | _ => .invalidSubcommand

/-- Reads the arguments of a command. -/
def parseCommand (name : String) (arguments : List String) : Except Failure Command :=
  if name = "serve" then
    (serving.parse arguments none default).map fun ended => .serve ended.record
  else if name = "check-config" then
    (checking.parse arguments none ()).map fun _ => .checkConfig
  else .error (helpOn arguments)

/-- The settings file: the one given as an option, else by a variable. -/
def chooseFile (given : Option String) (environment : List (String × String)) :
    Except Failure (Option String) :=
  match given with
  | some file => .ok (some file)
  | none =>
    match environment.lookup "RESTCACHE_CONFIG_FILE" with
    | none => .ok none
    | some file => (path file).map some

/-- Reads an invocation. A command is checked before the options in front of it. -/
def parse (arguments : List String) (environment : List (String × String)) :
    Except Failure Invocation := do
  match ← program.parse arguments none none with
  | .finished given => return ⟨← chooseFile given environment, none⟩
  | .command name rest pending given =>
    let command ← parseCommand name rest
    let given ← settle pending given
    return ⟨← chooseFile given environment, some command⟩

/-- The overrides of a command. -/
def Invocation.overrides (invocation : Invocation) : Settings.Overrides :=
  match invocation.command with
  | some (.serve overrides) => overrides
  | _ => default

end CacheGate.CommandLine

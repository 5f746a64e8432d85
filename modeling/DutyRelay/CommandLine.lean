import DutyRelay.Config

/-!
# The command line

Every value of the configuration can be given as an option or by an environment variable; an option counts
before its variable, and a variable before what is standard. Arguments are taken from left to right, and
the first that asks for help or the version, or that is wrong, decides. Variables are looked at only when
all arguments were sound.

## Contents
- `Setting`: the options, with their names and variables; `Setting.set?`.
- `Invocation`, `CommandLine.parse`.
- `CommandLine.versionText`, `CommandLine.helpText`.
-/

namespace DutyRelay

/-- A value that can be set from outside. -/
inductive Setting where
  | beacon
  | execution
  | pollInterval
  | slotsPerEpoch
  | slotDuration
  | genesisTime
  | maxRetries
  | retryDelay
  | backoff
  | validate
  | maxResponseBytes
  | requestTimeout
deriving DecidableEq, Inhabited, Repr

namespace Setting

def all : List Setting :=
  [.beacon, .execution, .pollInterval, .slotsPerEpoch, .slotDuration, .genesisTime, .maxRetries,
    .retryDelay, .backoff, .validate, .maxResponseBytes, .requestTimeout]

/-- The name of the option, without its dashes. -/
def name : Setting → String
  | .beacon => "beacon"
  | .execution => "execution"
  | .pollInterval => "poll-interval"
  | .slotsPerEpoch => "slots-per-epoch"
  | .slotDuration => "slot-duration"
  | .genesisTime => "genesis-time"
  | .maxRetries => "max-retries"
  | .retryDelay => "retry-delay"
  | .backoff => "backoff"
  | .validate => "validate"
  | .maxResponseBytes => "max-response-bytes"
  | .requestTimeout => "request-timeout"

/-- The name of the environment variable. -/
def envName (setting : Setting) : String :=
  "EPOCH_SYNC_" ++ String.ofList (setting.name.toList.map fun c => if c = '-' then '_' else c.toUpper)

/-- What the option is for. -/
def purpose : Setting → String
  | .beacon => "Beacon node HTTP endpoint"
  | .execution => "Execution client JSON-RPC endpoint"
  | .pollInterval => "Seconds between head polls"
  | .slotsPerEpoch => "Slots in an epoch"
  | .slotDuration => "Slot length in seconds"
  | .genesisTime => "Unix time of slot 0 (defaults to now)"
  | .maxRetries => "Attempts per outbound call, including the first"
  | .retryDelay => "Base delay between attempts, in seconds"
  | .backoff => "Growth of the delay: linear or exponential"
  | .validate => "When to re-fetch the current epoch for cross-checking: always or first-run"
  | .maxResponseBytes => "Longest accepted beacon response"
  | .requestTimeout => "Per-request timeout in seconds"

/-- The setting of an option name. -/
def ofName? (text : String) : Option Setting := all.find? fun setting => setting.name = text

/-! ## Values -/

def word? (text : String) : Option Nat := Word.ofText? Word.top text.toList

def seconds? (text : String) : Option Span := (word? text).map Span.ofSeconds

/-- A count of attempts: decimal digits after an optional sign, from zero up to 32 bits. -/
def attempts? (text : String) : Option Nat :=
  match text.toList with
  | '-' :: '+' :: _ => none
  | '-' :: digits => Word.ofText? 0 digits
  | digits => Word.ofText? Word.top32 digits

def backoff? (text : String) : Option Backoff :=
  if text = "linear" then some .linear
  else if text = "exponential" then some .exponential
  else none

def revalidation? (text : String) : Option Revalidation :=
  if text = "always" then some .always
  else if text = "first-run" then some .firstRunOnly
  else none

/-- The configuration with a setting taken from text, if the text is a value for it. -/
def set? (setting : Setting) (text : String) (config : Config) : Option Config :=
  match setting with
  | .beacon => some { config with beaconEndpoint := text }
  | .execution => some { config with executionEndpoint := text }
  | .pollInterval => (seconds? text).map fun d => { config with pollInterval := d }
  | .slotsPerEpoch => (word? text).map fun n => { config with slotsPerEpoch := n }
  | .slotDuration => (seconds? text).map fun d => { config with slotDuration := d }
  | .genesisTime => (word? text).map fun n => { config with genesisTime := n }
  | .maxRetries => (attempts? text).map fun n => { config with maxRetries := n }
  | .retryDelay => (seconds? text).map fun d => { config with retryDelay := d }
  | .backoff => (backoff? text).map fun b => { config with backoff := b }
  | .validate => (revalidation? text).map fun r => { config with revalidation := r }
  | .maxResponseBytes => (word? text).map fun n => { config with maxResponseBytes := n }
  | .requestTimeout => (seconds? text).map fun d => { config with requestTimeout := d }

end Setting

/-- What the command line asks for. -/
inductive Invocation where
  | help
  | version
  /-- An argument or a variable is wrong. -/
  | misuse
  | start (config : Config)
deriving DecidableEq, Inhabited, Repr

namespace CommandLine

/-! ## Arguments -/

/-- What a single argument is. -/
inductive Argument where
  /-- Two dashes alone: no options follow. -/
  | ending
  /-- Two dashes and a name, with a value behind an equals sign or without. -/
  | long (name : String) (value : Option String)
  /-- One dash and a letter, perhaps with more. -/
  | short (letter : Char)
  | plain (text : String)
deriving DecidableEq, Repr

/-- What an argument is, by its first characters. -/
def Argument.ofText (text : String) : Argument :=
  match text.toList with
  | ['-', '-'] => .ending
  | '-' :: '-' :: rest =>
    let name := String.ofList (rest.takeWhile (· ≠ '='))
    match rest.dropWhile (· ≠ '=') with
    | [] => .long name none
    | _ :: value => .long name (some (String.ofList value))
  | '-' :: letter :: _ => .short letter
  | _ => .plain text

/-- What the arguments come to: an answer at once, or the settings given and the configuration so far. -/
inductive Taken where
  | answered (invocation : Invocation)
  | settled (given : List Setting) (config : Config)
deriving DecidableEq, Repr

/-- The configuration with a setting that was not given before. -/
def take? (given : List Setting) (config : Config) (setting : Setting) (text : String) :
    Option Config :=
  if setting ∈ given then none else setting.set? text config

/-- Takes arguments from left to right. -/
def takeAll (given : List Setting) (config : Config) : List String → Taken
  | [] => .settled given config
  | first :: rest =>
    match Argument.ofText first with
    | .ending => if rest.isEmpty then .settled given config else .answered .misuse
    | .plain _ => .answered .misuse
    | .short letter =>
      if letter = 'h' then .answered .help
      else if letter = 'V' then .answered .version
      else .answered .misuse
    | .long name value =>
      match Setting.ofName? name, value with
      | none, none =>
        if name = "help" then .answered .help
        else if name = "version" then .answered .version
        else .answered .misuse
      | none, some _ => .answered .misuse
      | some setting, some text =>
        match take? given config setting text with
        | some config => takeAll (setting :: given) config rest
        | none => .answered .misuse
      | some setting, none =>
        match rest with
        | [] => .answered .misuse
        | next :: rest =>
          match Argument.ofText next with
          | .plain text =>
            match take? given config setting text with
            | some config => takeAll (setting :: given) config rest
            | none => .answered .misuse
          | _ => .answered .misuse

/-! ## Variables -/

/-- Takes the variables of settings that were not given. -/
def takeVariables (env : String → Option String) (given : List Setting) (config : Config) :
    Option Config :=
  (Setting.all.filter (· ∉ given)).foldlM
    (fun config setting =>
      match env setting.envName with
      | none => some config
      | some text => setting.set? text config)
    config

/-- What the command line asks for, by its arguments, the environment and the Unix time now. -/
def parse (args : List String) (env : String → Option String) (now : Nat) : Invocation :=
  match takeAll [] (Config.standard now) args with
  | .answered invocation => invocation
  | .settled given config =>
    match takeVariables env given config with
    | none => .misuse
    | some config => .start config

/-! ## Texts -/

def versionText : String := "epoch-sync 0.1.0"

def helpText : String :=
  let row (left right : String) : String :=
    "  " ++ left ++ String.ofList (List.replicate (32 - left.length) ' ') ++ right ++ "\n"
  "Keeps an execution client informed of upcoming block proposers\n\n" ++
    "Usage: epoch-sync [OPTIONS]\n\nOptions:\n" ++
    String.join (Setting.all.map fun setting =>
      row ("--" ++ setting.name ++ " <VALUE>") (setting.purpose ++ " [env: " ++ setting.envName ++ "]")) ++
    row "-h, --help" "Print help" ++ row "-V, --version" "Print version"

def misuseText : String := "error: unusable arguments\n\nFor more information, try '--help'."

end CommandLine
end DutyRelay

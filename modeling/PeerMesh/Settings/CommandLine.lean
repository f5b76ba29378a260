import PeerMesh.Address.Parser
import PeerMesh.Text.Numeral

/-!
# The command line

Arguments are read from left to right. An option stands by its long name after two dashes or by
its letter after one. Its value follows after an equals sign, right after the letter, or as the
next argument unless that begins with a dash and has more to it. A value that is attached is
looked at at once. One that comes as an argument of its own is looked at only when the next known
option comes, or the arguments end; an argument that is unknown is reported before that.
-/

set_option autoImplicit false

namespace PeerMesh.Settings

inductive ValueOption where
  | config
  | port
  | root
  | netif
  | peer
  | logLevel
  | logFormat
  | statsInterval
  deriving DecidableEq, Repr

inductive FlagOption where
  | noLocalPeering
  | help
  | version
  deriving DecidableEq, Repr

inductive CommandOption where
  | valued (option : ValueOption)
  | flag (option : FlagOption)
  deriving DecidableEq, Repr

def longNames : List (String × CommandOption) :=
  [("config", .valued .config), ("port", .valued .port), ("root", .valued .root),
   ("netif", .valued .netif), ("peer", .valued .peer), ("log-level", .valued .logLevel),
   ("log-format", .valued .logFormat), ("stats-interval-secs", .valued .statsInterval),
   ("no-local-peering", .flag .noLocalPeering), ("help", .flag .help),
   ("version", .flag .version)]

def letters : List (Char × CommandOption) :=
  [('c', .valued .config), ('p', .valued .port), ('r', .valued .root), ('h', .flag .help),
   ('V', .flag .version)]

/-- Why reading the arguments ended before their end. -/
inductive UsageError where
  /-- There is no such option, or nothing takes this argument. -/
  | unknownArgument
  /-- An option lacks its value, or the value is none of those it may have. -/
  | invalidValue
  /-- A value does not denote what the option asks for. -/
  | valueValidation
  | argumentConflict
  | tooManyValues
  | displayHelp
  | displayVersion
  deriving DecidableEq, Repr

/-- The text that reports a usage error; asking for help or for the version is none. -/
def UsageError.message : UsageError → String
  | .unknownArgument => "unknown argument"
  | .invalidValue => "an option lacks its value, or has one that is not allowed"
  | .valueValidation => "a value does not denote what its option asks for"
  | .argumentConflict => "an option is given more than once"
  | .tooManyValues => "a flag is given a value"
  | .displayHelp => "help"
  | .displayVersion => "version"

structure CommandLine where
  config : Option String
  port : Option UInt16
  root : Option String
  netifs : List String
  peers : List SocketAddress
  noLocalPeering : Bool
  logLevel : Option String
  logFormat : Option String
  statsInterval : Option Nat
  deriving DecidableEq, Repr

namespace CommandLine

def empty : CommandLine := ⟨none, none, none, [], [], false, none, none, none⟩

def logLevels : List String := ["trace", "debug", "info", "warn", "error"]

def logFormats : List String := ["pretty", "json"]

/-- The port that a text denotes. A port may have a plus sign, and zero a minus sign. -/
def port? (text : String) : Option UInt16 :=
  let number :=
    match text.toList with
    | '-' :: rest =>
      if rest.head? == some '+' then none
      else ((Text.readNumeral Text.portLimit (String.ofList rest)).toOption).filter (· == 0)
    | _ => (Text.readNumeral Text.portLimit text).toOption
  number.map Nat.toUInt16

/-- Sets what may be set once. -/
def once {α : Type} (present : Option α) (value : Except UsageError α) :
    Except UsageError (Option α) :=
  if present.isSome then .error .argumentConflict else value.map some

def oneOf (allowed : List String) (value : String) : Except UsageError String :=
  if allowed.contains value then .ok value else .error .invalidValue

def denoting {α : Type} (value : Option α) : Except UsageError α :=
  value.elim (.error .valueValidation) .ok

def accept (line : CommandLine) (option : ValueOption) (value : String) :
    Except UsageError CommandLine :=
  match option with
  | .config => (once line.config (.ok value)).map fun config => { line with config }
  | .port => (once line.port (denoting (port? value))).map fun port => { line with port }
  | .root => (once line.root (.ok value)).map fun root => { line with root }
  | .netif => .ok { line with netifs := line.netifs ++ [value] }
  | .peer =>
    (denoting (SocketAddress.parse? value)).map fun peer =>
      { line with peers := line.peers ++ [peer] }
  | .logLevel =>
    (once line.logLevel (oneOf logLevels value)).map fun logLevel => { line with logLevel }
  | .logFormat =>
    (once line.logFormat (oneOf logFormats value)).map fun logFormat => { line with logFormat }
  | .statsInterval =>
    (once line.statsInterval (denoting (Text.readNumeral Text.wordLimit value).toOption)).map
      fun statsInterval => { line with statsInterval }

/-- What has been read of the arguments. -/
structure Progress where
  line : CommandLine
  /-- The option whose value has not been looked at, with the value if it has come. -/
  waiting : Option (ValueOption × Option String)
  deriving DecidableEq, Repr

def Progress.resolve (progress : Progress) : Except UsageError CommandLine :=
  match progress.waiting with
  | none => .ok progress.line
  | some (_, none) => .error .invalidValue
  | some (option, some value) => progress.line.accept option value

def acceptFlag (line : CommandLine) : FlagOption → Except UsageError CommandLine
  | .noLocalPeering =>
    if line.noLocalPeering then .error .argumentConflict
    else .ok { line with noLocalPeering := true }
  | .help => .error .displayHelp
  | .version => .error .displayVersion

/-- Goes on with an option, and with the value that is attached to it, if any. -/
def Progress.option (progress : Progress) (option : CommandOption) (attached : Option String) :
    Except UsageError Progress :=
  match option, attached with
  | .valued option, none => progress.resolve.map fun line => ⟨line, some (option, none)⟩
  | .valued option, some value => do
    let line ← progress.resolve
    let line ← line.accept option value
    return ⟨line, none⟩
  | .flag _, some _ => .error .tooManyValues
  | .flag option, none => do
    let line ← progress.resolve
    let line ← line.acceptFlag option
    return ⟨line, none⟩

/-- Goes on with a long option, given what follows the two dashes. -/
def Progress.long (progress : Progress) (text : List Char) : Except UsageError Progress :=
  let name := text.takeWhile (· != '=')
  let attached :=
    if name.length = text.length then none
    else some (String.ofList (text.drop (name.length + 1)))
  match longNames.lookup (String.ofList name) with
  | none => .error .unknownArgument
  | some option => progress.option option attached

/-- Goes on with a row of letters, given what follows the dash. -/
def Progress.short (progress : Progress) : List Char → Except UsageError Progress
  | [] => .ok progress
  | letter :: rest =>
    match letters.lookup letter with
    | none => .error .unknownArgument
    | some (.flag option) => (progress.option (.flag option) none).bind fun next => next.short rest
    | some (.valued option) =>
      match rest with
      | [] => progress.option (.valued option) none
      | '=' :: value => progress.option (.valued option) (some (String.ofList value))
      | value => progress.option (.valued option) (some (String.ofList value))

/-- Goes on with an argument that is no option: it is the value of the option that waits for one. -/
def Progress.plain (progress : Progress) (argument : String) : Except UsageError Progress :=
  match progress.waiting with
  | some (option, none) => .ok { progress with waiting := some (option, some argument) }
  | _ => .error .unknownArgument

def Progress.argument (progress : Progress) (argument : String) : Except UsageError Progress :=
  match argument.toList with
  | '-' :: '-' :: text => progress.long text
  | '-' :: first :: rest => progress.short (first :: rest)
  | _ => progress.plain argument

/-- Reads the arguments that are left. After two dashes alone there may be none. -/
def Progress.read (progress : Progress) : List String → Except UsageError CommandLine
  | [] => progress.resolve
  | argument :: rest =>
    if argument = "--" then
      if rest.isEmpty then progress.resolve else .error .unknownArgument
    else (progress.argument argument).bind fun next => next.read rest

def parse (arguments : List String) : Except UsageError CommandLine :=
  Progress.read ⟨empty, none⟩ arguments

end CommandLine

end PeerMesh.Settings

import PeerMesh.Config
import PeerMesh.Settings.CommandLine
import PeerMesh.Settings.Json
import PeerMesh.Settings.Key
import PeerMesh.Settings.Toml
import PeerMesh.Text.Blank
import PeerMesh.Text.Parts

/-!
# Loading the settings of the program

A setting may come from four places. An option of the command line wins; then a key of its own,
which a variable of the environment or the top level of the file may give, the variable first;
then its place in the tables of the file; then the default. A text or a number that is blank
counts as not given.

Addresses of peers are gathered: those of the command line follow those of the other places.
-/

set_option autoImplicit false

namespace PeerMesh.Settings

structure AppConfig where
  mesh : MeshConfig
  peers : List SocketAddress
  logLevel : String
  logFormat : String
  /-- How often stats are refreshed, in seconds; zero for never. -/
  statsInterval : Nat
  deriving DecidableEq, Repr

def AppConfig.standard : AppConfig := ⟨.standard, [], "info", "pretty", 10⟩

/-- Why the settings cannot be loaded. -/
inductive LoadError where
  | fileNotFound (path : String)
  /-- The file is none that can be read, or holds no table. -/
  | unreadableFile (path : String)
  | invalidPort (text : String) (fault : Text.NumeralFault)
  | invalidTimeout (text : String) (fault : Text.NumeralFault)
  | invalidInterval (text : String) (fault : Text.NumeralFault)
  | invalidPeer (text : String)
  deriving DecidableEq, Repr

def LoadError.message : LoadError → String
  | .fileNotFound path =>
    "Configuration file " ++ path ++ " not found (specified via --config)"
  | .unreadableFile path => "Configuration file " ++ path ++ " cannot be read"
  | .invalidPort text fault => "Invalid port " ++ text ++ ": " ++ fault.message
  | .invalidTimeout text fault => "Invalid connect timeout " ++ text ++ ": " ++ fault.message
  | .invalidInterval text fault => "Invalid stats interval " ++ text ++ ": " ++ fault.message
  | .invalidPeer text => "Invalid peer address " ++ text ++ ": invalid socket address syntax"

/-! ## Gathering -/

/-- The beginning of the names of the variables that give settings, in lower case. -/
def variableMark : String := "meshd_"

/-- The key that a variable gives, if it gives one: its name after the mark. -/
def variableKey? (name : String) : Option String :=
  let lower := Value.lowered name
  if variableMark.toList.isPrefixOf lower.toList then
    some (String.ofList (lower.toList.drop variableMark.length))
  else none

/-- The keys of their own that settings have, as variables of the environment give them. -/
def variableKeys : List String :=
  ["PORT", "CONNECT_TIMEOUT_MS", "STATS_INTERVAL_SECS", "PEERS", "BASE_ID", "ROOT_DIR", "NETIF",
   "ALLOW_PEER_LOCAL", "NAMESPACE", "INSTALL_EXIT_HOOK", "LOG_LEVEL", "LOG_FORMAT"]

def variableName (key : String) : String :=
  "MESHD_" ++ key

def withTable (settings : Value) (entries : List (String × Value)) : Value :=
  entries.foldl (fun settings entry => settings.putKey entry.1 entry.2) settings

def withEnvironment (settings : Value) (environment : List (String × String)) : Value :=
  environment.foldl
    (fun settings entry =>
      match variableKey? entry.1 with
      | some key => settings.putKey key (.text entry.2)
      | none => settings)
    settings

def gather (file : List (String × Value)) (environment : List (String × String)) : Value :=
  withEnvironment (withTable (.table []) file) environment

/-! ## Looking up -/

/-- The text under a key, without the blanks at its ends, unless it is blank. -/
def textAt? (settings : Value) (key : String) : Option String :=
  (((settings.findKey key).bind Value.string?).map Text.trimmed).filter (· != "")

/-- The text under the first key that has one. -/
def text? (settings : Value) (keys : List String) : Option String :=
  keys.findSome? (textAt? settings)

/-- The yes or no under the first key that has one. -/
def bool? (settings : Value) (keys : List String) : Option Bool :=
  keys.findSome? fun key => (settings.findKey key).bind Value.bool?

/-- Texts without the blanks at their ends, and without those that are blank. -/
def nonBlank (texts : List String) : List String :=
  (texts.map Text.trimmed).filter (· != "")

/-- The parts of a text between its commas. -/
def commaParts (text : String) : List String :=
  Text.parts ',' text

/-- The texts under a key: those of a list, or the parts of a text. -/
def textsAt? (settings : Value) (key : String) : Option (List String) :=
  match (settings.findKey key).bind Value.items? with
  | some items => some (nonBlank (items.filterMap Value.string?))
  | none => (textAt? settings key).map fun text => nonBlank (commaParts text)

/-- The texts under the first key that has any. -/
def texts (settings : Value) (keys : List String) : List String :=
  (keys.findSome? (textsAt? settings)).getD []

/-- The number under the first key that has a text, or the default. -/
def number (settings : Value) (keys : List String) (limit default : Nat)
    (invalid : String → Text.NumeralFault → LoadError) : Except LoadError Nat :=
  match text? settings keys with
  | none => .ok default
  | some text => (Text.readNumeral limit text).mapError (invalid text)

def peerAddresses : List String → Except LoadError (List SocketAddress)
  | [] => .ok []
  | text :: rest =>
    match SocketAddress.parse? text with
    | none => .error (.invalidPeer text)
    | some address => (peerAddresses rest).map (address :: ·)

/-- The settings of the program, from those of a file and the environment. -/
def AppConfig.ofSettings (settings : Value) : Except LoadError AppConfig := do
  let standard := AppConfig.standard
  let port ← number settings ["PORT", "node.port"] Text.portLimit standard.mesh.port.toNat
    .invalidPort
  let connectTimeout ← number settings ["CONNECT_TIMEOUT_MS", "node.connect_timeout_ms"]
    Text.wordLimit standard.mesh.connectTimeout .invalidTimeout
  let statsInterval ← number settings ["STATS_INTERVAL_SECS", "stats.interval_secs"]
    Text.wordLimit standard.statsInterval .invalidInterval
  let peers ← peerAddresses (texts settings ["PEERS", "node.peers"])
  return {
    mesh := {
      baseId := text? settings ["BASE_ID", "node.base_id"]
      port := port.toUInt16
      rootDir := text? settings ["ROOT_DIR", "node.root_dir"]
      interfaces := texts settings ["NETIF", "node.interfaces"]
      allowPeerLocal :=
        (bool? settings ["ALLOW_PEER_LOCAL", "node.allow_peer_local"]).getD
          standard.mesh.allowPeerLocal
      connectTimeout
      realm := (text? settings ["NAMESPACE", "node.namespace"]).getD standard.mesh.realm
      installExitHook :=
        (bool? settings ["INSTALL_EXIT_HOOK", "node.install_exit_hook"]).getD
          standard.mesh.installExitHook }
    peers
    logLevel := (text? settings ["LOG_LEVEL", "log.level"]).getD standard.logLevel
    logFormat := (text? settings ["LOG_FORMAT", "log.format"]).getD standard.logFormat
    statsInterval }

/-! ## The command line on top -/

/-- The settings after the command line has had its say. -/
def AppConfig.override (config : AppConfig) (line : CommandLine) : AppConfig :=
  { mesh :=
      { config.mesh with
        port := line.port.getD config.mesh.port
        rootDir := line.root.or config.mesh.rootDir
        interfaces := if line.netifs.isEmpty then config.mesh.interfaces else line.netifs
        allowPeerLocal := config.mesh.allowPeerLocal && !line.noLocalPeering }
    peers := config.peers ++ line.peers
    logLevel := line.logLevel.getD config.logLevel
    logFormat := line.logFormat.getD config.logFormat
    statsInterval := line.statsInterval.getD config.statsInterval }

/-- What is found where the command line says that the file is. -/
inductive FileContents where
  | missing
  /-- What is there is no file of settings. -/
  | unreadable
  | settings (entries : List (String × Value))

/-- What a document holds, if it is a table. -/
def FileContents.ofDocument (document : Option Value) : FileContents :=
  match document.bind Value.entries? with
  | some entries => .settings (Value.narrowedEntries entries)
  | none => .unreadable

/-- What the text of a file holds. Its name tells how to read it. -/
def FileContents.ofText (path text : String) : FileContents :=
  if path.endsWith ".json" then .ofDocument (Json.parse? text)
  else if path.endsWith ".toml" then .ofDocument (Toml.parse? text)
  else .unreadable

def fileEntries (lookup : String → FileContents) (line : CommandLine) :
    Except LoadError (List (String × Value)) :=
  match line.config with
  | none => .ok []
  | some path =>
    match lookup path with
    | .missing => .error (.fileNotFound path)
    | .unreadable => .error (.unreadableFile path)
    | .settings entries => .ok entries

/-- The settings of the program, given what the command line says, where to find files, and the
environment. -/
def load (line : CommandLine) (lookup : String → FileContents)
    (environment : List (String × String)) : Except LoadError AppConfig := do
  let entries ← fileEntries lookup line
  let config ← AppConfig.ofSettings (gather entries environment)
  return config.override line

end PeerMesh.Settings

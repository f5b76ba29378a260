import PeerMesh.Address.Printer
import PeerMesh.Settings.Load
import PeerMesh.Version

/-!
# The command line program

The program reads its arguments, the file they name and the environment, and prints the settings
with which a node starts. Faulty arguments and faulty settings are reported on the error stream.
-/

set_option autoImplicit false

namespace PeerMesh

open Settings

def usage : String :=
  String.intercalate "\n"
    ["Usage: meshd [OPTIONS]",
     "",
     "  -c, --config FILE              file of settings",
     "  -p, --port PORT                listening port",
     "  -r, --root DIR                 directory to serve",
     "      --netif NAME               interface to listen on, may be repeated",
     "      --peer ADDR                peer to connect to, may be repeated",
     "      --no-local-peering         decline peers on the local segment",
     "      --log-level LEVEL          trace, debug, info, warn or error",
     "      --log-format FORMAT        pretty or json",
     "      --stats-interval-secs N    seconds between stats, zero for never",
     "  -h, --help                     print this text",
     "  -V, --version                  print the version"]

/-- A setting and its value, one per line. -/
def settingLines (config : AppConfig) : List String :=
  [("base_id", config.mesh.baseId.getD ""),
   ("port", toString config.mesh.port.toNat),
   ("root_dir", config.mesh.rootDir.getD ""),
   ("interfaces", String.intercalate ", " config.mesh.interfaces),
   ("allow_peer_local", toString config.mesh.allowPeerLocal),
   ("connect_timeout_ms", toString config.mesh.connectTimeout),
   ("namespace", config.mesh.realm),
   ("install_exit_hook", toString config.mesh.installExitHook),
   ("peers", String.intercalate ", " (config.peers.map SocketAddress.text)),
   ("log_level", config.logLevel),
   ("log_format", config.logFormat),
   ("stats_interval_secs", toString config.statsInterval)].map fun entry =>
    entry.1 ++ " = " ++ entry.2

def readContents (path : String) : IO FileContents := do
  try
    return .ofText path (← IO.FS.readFile path)
  catch fault =>
    match fault with
    | .noFileOrDirectory _ _ _ => return .missing
    | _ => return .unreadable

def readEnvironment : IO (List (String × String)) := do
  let found ← (variableKeys.map variableName).mapM fun name => do
    return (← IO.getEnv name).map fun value => (name, value)
  return found.filterMap id

def showSettings (line : CommandLine) : IO UInt32 := do
  let contents ← (line.config.mapM readContents)
  match load line (fun _ => contents.getD .missing) (← readEnvironment) with
  | .ok config =>
    for text in settingLines config do IO.println text
    return 0
  | .error fault =>
    IO.eprintln ("Error: " ++ fault.message)
    return 1

end PeerMesh

def main (arguments : List String) : IO UInt32 := do
  match PeerMesh.Settings.CommandLine.parse arguments with
  | .ok line => PeerMesh.showSettings line
  | .error .displayHelp =>
    IO.println PeerMesh.usage
    return 0
  | .error .displayVersion =>
    IO.println ("meshd " ++ PeerMesh.version)
    return 0
  | .error fault =>
    IO.eprintln ("error: " ++ fault.message)
    return 2

import PeerMesh.Config
import PeerMesh.Settings.Value
import PeerMesh.Text.Numeral

/-!
# Node settings as a document

The settings of a node may be given as one value: a table with the settings by name, or a list of
them in order. Settings that are missing have their defaults, and names that are unknown say
nothing. Types are strict: a number is never read from a text, nor a whole number from a real, and
only the settings that may be absent may be `null`.
-/

set_option autoImplicit false

namespace PeerMesh.Settings

namespace Value

def asText? : Value → Option String
  | .text value => some value
  | _ => none

/-- The text that a value is, or nothing if it is `null`. -/
def asOptionalText? : Value → Option (Option String)
  | .null => some none
  | .text value => some (some value)
  | _ => none

def asBool? : Value → Option Bool
  | .boolean value => some value
  | _ => none

/-- The whole number from zero up to a limit that a value is. -/
def asNat? (limit : Nat) : Value → Option Nat
  | .whole value => if 0 ≤ value ∧ value ≤ limit then some value.toNat else none
  | _ => none

def asTexts? : Value → Option (List String)
  | .list items => items.mapM asText?
  | _ => none

end Value

/-- The settings by name, in order, each with how it is set. -/
def settingNames : List (String × (MeshConfig → Value → Option MeshConfig)) :=
  [("base_id", fun config value =>
      value.asOptionalText?.map fun baseId => { config with baseId }),
   ("port", fun config value =>
      (value.asNat? Text.portLimit).map fun port => { config with port := port.toUInt16 }),
   ("root_dir", fun config value =>
      value.asOptionalText?.map fun rootDir => { config with rootDir }),
   ("interfaces", fun config value =>
      value.asTexts?.map fun interfaces => { config with interfaces }),
   ("allow_peer_local", fun config value =>
      value.asBool?.map fun allowPeerLocal => { config with allowPeerLocal }),
   ("connect_timeout_ms", fun config value =>
      (value.asNat? Text.wordLimit).map fun connectTimeout => { config with connectTimeout }),
   ("namespace", fun config value => value.asText?.map fun realm => { config with realm }),
   ("install_exit_hook", fun config value =>
      value.asBool?.map fun installExitHook => { config with installExitHook })]

def setNamed (config : MeshConfig) (entry : String × Value) : Option MeshConfig :=
  match settingNames.lookup entry.1 with
  | some set => set config entry.2
  | none => some config

def meshConfig? : Value → Option MeshConfig
  | .table entries => entries.foldlM setNamed MeshConfig.standard
  | .list items =>
    if settingNames.length < items.length then none
    else ((settingNames.map (·.1)).zip items).foldlM setNamed MeshConfig.standard
  | _ => none

end PeerMesh.Settings

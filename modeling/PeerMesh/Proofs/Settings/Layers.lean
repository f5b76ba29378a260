import PeerMesh.Proofs.Settings.CommandLine
import PeerMesh.Proofs.Settings.Keys
import PeerMesh.Proofs.Text.Numeral

/-!
# Where each setting comes from

Every field of the settings has its layers: an option of the command line, if there is one for it,
a key of its own and a key in the tables of the file. The field is what the first layer gives that
gives something, or the default. Keys are looked up in the settings of the file with the variables
put over them; as a variable is put under its name read as a path, it may reach into the tables as
well.
-/

set_option autoImplicit false

namespace PeerMesh.Settings

open Text (NumeralFault portLimit wordLimit)

/-! ## What a value gives -/

namespace Value

/-- A text is given by a value with a string form, unless that is blank. -/
def givenText? (value : Value) : Option String :=
  (value.string?.map Text.trimmed).filter (· != "")

/-- A number is given by the same values as a text, and may be faulty. -/
def givenNumber? (limit : Nat) (value : Value) : Option (Except NumeralFault Nat) :=
  value.givenText?.map (Text.readNumeral limit)

/-- Texts are given by every list, and by a text that is not blank. -/
def givenTexts? : Value → Option (List String)
  | .list items => some (nonBlank (items.filterMap string?))
  | other => other.givenText?.map fun text => nonBlank (commaParts text)

end Value

/-- What the first layer gives that gives something, or the default. -/
def firstGiven {α : Type} (default : α) : List (Option α) → α
  | [] => default
  | some value :: _ => value
  | none :: rest => firstGiven default rest

/-- The layers of a setting that are looked up under keys. -/
def keyLayers {α : Type} (settings : Value) (own nested : String) (given? : Value → Option α) :
    List (Option α) :=
  [(settings.findKey own).bind given?, (settings.findKey nested).bind given?]

/-- The fields are what their layers say. The peers of the command line come after the others, and
the flag only ever refuses local peers. -/
structure Layered (line : CommandLine) (settings : Value) (config : AppConfig) : Prop where
  baseId : config.mesh.baseId =
    firstGiven none (keyLayers settings "BASE_ID" "node.base_id" (·.givenText?.map some))
  port : .ok config.mesh.port.toNat =
    firstGiven (.ok AppConfig.standard.mesh.port.toNat)
      (line.port.map (fun port => .ok port.toNat) ::
        keyLayers settings "PORT" "node.port" (Value.givenNumber? portLimit))
  rootDir : config.mesh.rootDir =
    firstGiven none (line.root.map some ::
      keyLayers settings "ROOT_DIR" "node.root_dir" (·.givenText?.map some))
  interfaces : config.mesh.interfaces =
    firstGiven [] ((if line.netifs.isEmpty then none else some line.netifs) ::
      keyLayers settings "NETIF" "node.interfaces" Value.givenTexts?)
  allowPeerLocal : config.mesh.allowPeerLocal =
    (firstGiven AppConfig.standard.mesh.allowPeerLocal
      (keyLayers settings "ALLOW_PEER_LOCAL" "node.allow_peer_local" Value.bool?) &&
        !line.noLocalPeering)
  connectTimeout : .ok config.mesh.connectTimeout =
    firstGiven (.ok AppConfig.standard.mesh.connectTimeout)
      (keyLayers settings "CONNECT_TIMEOUT_MS" "node.connect_timeout_ms"
        (Value.givenNumber? wordLimit))
  realm : config.mesh.realm =
    firstGiven AppConfig.standard.mesh.realm
      (keyLayers settings "NAMESPACE" "node.namespace" Value.givenText?)
  installExitHook : config.mesh.installExitHook =
    firstGiven AppConfig.standard.mesh.installExitHook
      (keyLayers settings "INSTALL_EXIT_HOOK" "node.install_exit_hook" Value.bool?)
  peers : ∃ listed,
    (firstGiven [] (keyLayers settings "PEERS" "node.peers" Value.givenTexts?)).map
      SocketAddress.parse? = listed.map some ∧ config.peers = listed ++ line.peers
  logLevel : config.logLevel =
    firstGiven AppConfig.standard.logLevel
      (line.logLevel :: keyLayers settings "LOG_LEVEL" "log.level" Value.givenText?)
  logFormat : config.logFormat =
    firstGiven AppConfig.standard.logFormat
      (line.logFormat :: keyLayers settings "LOG_FORMAT" "log.format" Value.givenText?)
  statsInterval : .ok config.statsInterval =
    firstGiven (.ok AppConfig.standard.statsInterval)
      (line.statsInterval.map .ok ::
        keyLayers settings "STATS_INTERVAL_SECS" "stats.interval_secs"
          (Value.givenNumber? wordLimit))

/-! ## Lookups as layers -/

section Lookups

variable {settings : Value} {own nested : String}

theorem firstGiven_cons {α : Type} (default : α) (option : Option α) (layers : List (Option α)) :
    firstGiven default (option :: layers) = option.getD (firstGiven default layers) := by
  cases option <;> rfl

theorem findSome?_pair {α : Type} (test : String → Option α) :
    [own, nested].findSome? test = (test own).or (test nested) := by
  rw [List.findSome?_cons, List.findSome?_singleton]
  cases test own <;> rfl

theorem firstGiven_keyLayers {α : Type} (default : α) (given? : Value → Option α) :
    firstGiven default (keyLayers settings own nested given?) =
      (((settings.findKey own).bind given?).or ((settings.findKey nested).bind given?)).getD
        default := by
  unfold keyLayers
  rw [firstGiven_cons, firstGiven_cons, firstGiven]
  cases (settings.findKey own).bind given? <;> rfl

theorem textAt?_eq (settings : Value) (key : String) :
    textAt? settings key = (settings.findKey key).bind Value.givenText? := by
  unfold textAt?
  cases settings.findKey key <;> rfl

theorem textsAt?_eq (settings : Value) (key : String) :
    textsAt? settings key = (settings.findKey key).bind Value.givenTexts? := by
  unfold textsAt?
  rw [textAt?_eq]
  cases settings.findKey key with
  | none => rfl
  | some value =>
      cases value with
      | list items => rfl
      | null | boolean | whole | real | text | table =>
          simp only [Option.bind_some, Value.items?, Value.givenTexts?]

theorem text?_eq :
    text? settings [own, nested] =
      ((settings.findKey own).bind Value.givenText?).or
        ((settings.findKey nested).bind Value.givenText?) := by
  rw [text?, findSome?_pair, textAt?_eq, textAt?_eq]

theorem getD_text? (default : String) :
    (text? settings [own, nested]).getD default =
      firstGiven default (keyLayers settings own nested Value.givenText?) := by
  rw [firstGiven_keyLayers, text?_eq]

/-- Layers that make something of a text make it of the text that is given first. -/
theorem firstGiven_map {α : Type} (default : α) (change : String → α) :
    firstGiven default (keyLayers settings own nested fun value => value.givenText?.map change) =
      ((text? settings [own, nested]).map change).getD default := by
  have maps : ∀ found : Option Value, (found.bind fun value => value.givenText?.map change) =
      (found.bind Value.givenText?).map change := by
    intro found
    cases found <;> rfl
  rw [firstGiven_keyLayers, maps, maps, text?_eq, Option.map_or]

theorem text?_eq_firstGiven :
    text? settings [own, nested] =
      firstGiven none (keyLayers settings own nested (·.givenText?.map some)) := by
  rw [firstGiven_map]
  cases text? settings [own, nested] <;> rfl

theorem texts_eq_firstGiven :
    texts settings [own, nested] =
      firstGiven [] (keyLayers settings own nested Value.givenTexts?) := by
  rw [firstGiven_keyLayers, texts, findSome?_pair, textsAt?_eq, textsAt?_eq]

theorem getD_bool? (default : Bool) :
    (bool? settings [own, nested]).getD default =
      firstGiven default (keyLayers settings own nested Value.bool?) := by
  rw [firstGiven_keyLayers, bool?, findSome?_pair]

theorem firstGiven_of_number {limit default value : Nat}
    {invalid : String → NumeralFault → LoadError}
    (read : number settings [own, nested] limit default invalid = .ok value) :
    firstGiven (.ok default) (keyLayers settings own nested (Value.givenNumber? limit)) =
      .ok value := by
  change firstGiven _ (keyLayers _ _ _ fun value => value.givenText?.map (Text.readNumeral limit)) = _
  rw [firstGiven_map]
  unfold number at read
  cases given : text? settings [own, nested] with
  | none =>
      rw [given] at read
      cases read
      rfl
  | some text =>
      rw [given] at read
      exact mapError_eq_ok read

end Lookups

theorem peerAddresses_eq_ok {texts : List String} {listed : List SocketAddress}
    (read : peerAddresses texts = .ok listed) :
    texts.map SocketAddress.parse? = listed.map some := by
  induction texts generalizing listed with
  | nil =>
      cases read
      rfl
  | cons text rest ih =>
      unfold peerAddresses at read
      cases parsed : SocketAddress.parse? text with
      | none =>
          rw [parsed] at read
          cases read
      | some address =>
          rw [parsed] at read
          obtain ⟨later, readRest, same⟩ := map_eq_ok read
          subst same
          rw [List.map_cons, List.map_cons, parsed, ih readRest]

theorem le_of_number {settings : Value} {keys : List String} {limit default value : Nat}
    {invalid : String → NumeralFault → LoadError} (fits : default ≤ limit)
    (read : number settings keys limit default invalid = .ok value) : value ≤ limit := by
  unfold number at read
  split at read
  · cases read
    exact fits
  · exact (Text.readNumeral_eq_ok_iff.mp (mapError_eq_ok read)).2

/-! ## The fields -/

theorem layered_of_settings {settings : Value} {base : AppConfig}
    (read : AppConfig.ofSettings settings = .ok base) (line : CommandLine) :
    Layered line settings (base.override line) := by
  obtain ⟨port, portRead, read⟩ := bind_eq_ok read
  obtain ⟨timeout, timeoutRead, read⟩ := bind_eq_ok read
  obtain ⟨interval, intervalRead, read⟩ := bind_eq_ok read
  obtain ⟨listed, peersRead, read⟩ := bind_eq_ok read
  cases read
  constructor
  case baseId => exact text?_eq_firstGiven
  case port =>
    have width : port.toUInt16.toNat = port :=
      UInt16.toNat_ofNat_of_lt' (Nat.lt_succ_of_le (le_of_number (Nat.zero_le _) portRead))
    rw [firstGiven_cons, firstGiven_of_number portRead]
    cases given : line.port <;> simp [AppConfig.override, given, width]
  case rootDir =>
    rw [firstGiven_cons, ← text?_eq_firstGiven]
    cases given : line.root <;> simp [AppConfig.override, given]
  case interfaces =>
    rw [firstGiven_cons, ← texts_eq_firstGiven]
    cases none : line.netifs.isEmpty <;> simp [AppConfig.override, none]
  case allowPeerLocal =>
    rw [← getD_bool?]
    rfl
  case connectTimeout =>
    rw [firstGiven_of_number timeoutRead]
    rfl
  case realm =>
    rw [← getD_text?]
    rfl
  case installExitHook =>
    rw [← getD_bool?]
    rfl
  case peers =>
    rw [texts_eq_firstGiven] at peersRead
    exact ⟨listed, peerAddresses_eq_ok peersRead, rfl⟩
  case logLevel =>
    rw [firstGiven_cons, ← getD_text?]
    rfl
  case logFormat =>
    rw [firstGiven_cons, ← getD_text?]
    rfl
  case statsInterval =>
    rw [firstGiven_cons, firstGiven_of_number intervalRead]
    cases given : line.statsInterval <;> simp [AppConfig.override, given]

/-- The settings without the field that an option gives. -/
def AppConfig.forget (config : AppConfig) : ValueOption → AppConfig
  | .config => config
  | .port => { config with mesh := { config.mesh with port := 0 } }
  | .root => { config with mesh := { config.mesh with rootDir := none } }
  | .netif => { config with mesh := { config.mesh with interfaces := [] } }
  | .peer => { config with peers := [] }
  | .logLevel => { config with logLevel := "" }
  | .logFormat => { config with logFormat := "" }
  | .statsInterval => { config with statsInterval := 0 }

/-- One more option changes no field of the command line's settings but its own. -/
theorem override_accept {line changed : CommandLine} {option : ValueOption} {text : String}
    (accepted : line.accept option text = .ok changed) (base : AppConfig) :
    (base.override changed).forget option = (base.override line).forget option := by
  cases option with
  | netif =>
      cases accepted
      rfl
  | config | port | root | peer | logLevel | logFormat | statsInterval =>
      obtain ⟨value, -, same⟩ := map_eq_ok accepted
      subst same
      rfl

theorem config_accept {line changed : CommandLine} {option : ValueOption} {text : String}
    (accepted : line.accept option text = .ok changed) (other : option ≠ .config) :
    changed.config = line.config := by
  cases option with
  | config => exact absurd rfl other
  | netif =>
      cases accepted
      rfl
  | port | root | peer | logLevel | logFormat | statsInterval =>
      obtain ⟨value, -, same⟩ := map_eq_ok accepted
      subst same
      rfl

/-! ## Loading -/

/-- How the settings come from a file and an environment: a key is the file's as long as no variable
reaches its entry, and a key of its own is what its variable says, if no later one reaches its
entry. In the file the last entry counts, at the top level and in a table. -/
structure MadeOf (file : List (String × Value)) (environment : List (String × String))
    (settings : Value) : Prop where
  byVariable : ∀ key ∈ variableKeys, ∀ before named text after,
    environment = before ++ (named, text) :: after →
    Value.lowered named = Value.lowered (variableName key) →
    Unreached (variableEntries after) (Value.lowered key) →
    settings.findKey key = some (.text text)
  byFile : ∀ key, Unreached (variableEntries environment) (Key.root key) →
    settings.findKey key = (ofFile file).findKey key
  own : ∀ key ∈ variableKeys, ∀ value, value.entries? = none →
    LastAt (Value.lowered key) value file → (ofFile file).findKey key = some value
  place : ∀ place ∈ places, ∀ inner value, value.entries? = none →
    LastAt place.1 (.table inner) file → Value.LastNamed place.2 value inner →
    (ofFile file).findKey (placeKey place) = some value

theorem madeOf_gather (file : List (String × Value)) (environment : List (String × String)) :
    MadeOf file environment (gather file environment) where
  byVariable := by
    intro key own before named text after split names unreached
    rw [split]
    exact findKey_gather_of_variable file own names unreached
  byFile := fun _ unreached => findKey_gather_of_unreached file unreached
  own := fun _ own _ whole last => findKey_ofFile_of_own own last whole
  place := fun _ listed _ _ whole last lastInner =>
    findKey_ofFile_of_place listed last lastInner whole

theorem load_eq_ok {line : CommandLine} {lookup : String → FileContents}
    {environment : List (String × String)} {config : AppConfig}
    (loaded : load line lookup environment = .ok config) :
    ∃ file base, fileEntries lookup line = .ok file ∧
      AppConfig.ofSettings (gather file environment) = .ok base ∧ config = base.override line := by
  obtain ⟨file, found, loaded⟩ := bind_eq_ok loaded
  obtain ⟨base, read, loaded⟩ := bind_eq_ok loaded
  cases loaded
  exact ⟨file, base, found, read, rfl⟩

theorem load_of_found {line : CommandLine} {lookup : String → FileContents}
    {environment : List (String × String)} {file : List (String × Value)}
    (found : fileEntries lookup line = .ok file) :
    load line lookup environment =
      (AppConfig.ofSettings (gather file environment)).map fun config => config.override line := by
  unfold load
  rw [found]
  change (AppConfig.ofSettings (gather file environment)).bind _ = _
  cases AppConfig.ofSettings (gather file environment) <;> rfl

theorem load_of_settings {line : CommandLine} {lookup : String → FileContents}
    {environment : List (String × String)} {file : List (String × Value)} {base : AppConfig}
    (found : fileEntries lookup line = .ok file)
    (read : AppConfig.ofSettings (gather file environment) = .ok base) :
    load line lookup environment = .ok (base.override line) := by
  rw [load_of_found found, read]
  rfl

theorem fileEntries_congr (lookup : String → FileContents) {line other : CommandLine}
    (same : other.config = line.config) : fileEntries lookup other = fileEntries lookup line := by
  unfold fileEntries
  rw [same]

/-- Settings that can be loaded come, field by field, from the first layer that gives something:
the option that the arguments spell, the key of its own, the key in the tables, the default. One
more option that can be taken changes no field but its own. -/
theorem load_layers {arguments : List String} {line : CommandLine} {lookup : String → FileContents}
    {environment : List (String × String)} {config : AppConfig}
    (parsed : CommandLine.parse arguments = .ok line)
    (loaded : load line lookup environment = .ok config) :
    ∃ given file,
      CommandLine.Spells arguments given ∧ CommandLine.Collects .empty given line ∧
      fileEntries lookup line = .ok file ∧ MadeOf file environment (gather file environment) ∧
      Layered line (gather file environment) config ∧
      (∀ option text changed, option ≠ .config → line.accept option text = .ok changed →
        ∃ other, load changed lookup environment = .ok other ∧
          other.forget option = config.forget option) ∧
      ∀ changed, line.acceptFlag .noLocalPeering = .ok changed →
        load changed lookup environment =
          .ok { config with mesh := { config.mesh with allowPeerLocal := false } } := by
  obtain ⟨given, spells, takes⟩ := CommandLine.spells_of_parse parsed
  obtain ⟨file, base, found, read, same⟩ := load_eq_ok loaded
  subst same
  refine ⟨given, file, spells, CommandLine.collects_of_takes takes, found,
    madeOf_gather file environment, layered_of_settings read line, ?_, ?_⟩
  · intro option text changed other accepted
    rw [← fileEntries_congr lookup (config_accept accepted other)] at found
    exact ⟨_, load_of_settings found read, override_accept accepted base⟩
  · intro changed accepted
    unfold CommandLine.acceptFlag at accepted
    dsimp only at accepted
    split at accepted
    · cases accepted
    · cases accepted
      have foundToo : fileEntries lookup { line with noLocalPeering := true } = .ok file :=
        (fileEntries_congr lookup rfl).trans found
      rw [load_of_settings foundToo read]
      simp [AppConfig.override]

/-- A file that gives the port twice and the peers once, in its tables. -/
def portTwice : List (String × Value) :=
  [("Port", .whole 6001),
    ("node", .table [("port", .whole 6000), ("peers", .text "192.0.2.1:5000")])]

theorem load_layers_portTwice :
    let arguments := ["-c", "f.json", "--log-level=debug", "--peer", "192.0.2.2:5000"]
    let environment := [("MESHD_LOG_LEVEL", "warn"), ("meshd_namespace", " m ")]
    ∃ line config,
      CommandLine.parse arguments = .ok line ∧
      load line (fun _ => .settings portTwice) environment = .ok config ∧
      Layered line (gather portTwice environment) config ∧
      config.logLevel = "debug" ∧ config.mesh.port = 6001 ∧ config.mesh.realm = "m" ∧
      config.peers = [.v4 ⟨192, 0, 2, 1⟩ 5000, .v4 ⟨192, 0, 2, 2⟩ 5000] := by
  intro arguments environment
  let line : CommandLine :=
    { CommandLine.empty with
      config := some "f.json"
      logLevel := some "debug"
      peers := [.v4 ⟨192, 0, 2, 2⟩ 5000] }
  let config : AppConfig :=
    { mesh := { MeshConfig.standard with port := 6001, realm := "m" }
      peers := [.v4 ⟨192, 0, 2, 1⟩ 5000, .v4 ⟨192, 0, 2, 2⟩ 5000]
      logLevel := "debug"
      logFormat := "pretty"
      statsInterval := 10 }
  have parsed : CommandLine.parse arguments = .ok line := toOption_eq_some (by decide +kernel)
  have loaded : load line (fun _ => .settings portTwice) environment = .ok config :=
    toOption_eq_some (by decide +kernel)
  obtain ⟨given, file, -, -, found, -, layered, -⟩ := load_layers parsed loaded
  cases found
  exact ⟨line, config, parsed, loaded, layered, rfl, rfl, rfl, rfl⟩

/-- A variable with a dot in its name goes before the place of the setting in the tables of the
file. -/
theorem port_not_of_file_dottedVariable :
    let file : List (String × Value) := [("node", .table [("port", .whole 6000)])]
    let environment := [("MESHD_NODE.PORT", "7")]
    ∃ line config,
      CommandLine.parse ["-c", "f.json"] = .ok line ∧
      load line (fun _ => .settings file) environment = .ok config ∧
      firstGiven (.ok AppConfig.standard.mesh.port.toNat)
        [line.port.map fun port => .ok port.toNat,
          ((gather file environment).findKey "PORT").bind (Value.givenNumber? portLimit),
          ((ofFile file).findKey "node.port").bind (Value.givenNumber? portLimit)] = .ok 6000 ∧
      config.mesh.port = 7 := by
  intro file environment
  let line : CommandLine := { CommandLine.empty with config := some "f.json" }
  have parsed : CommandLine.parse ["-c", "f.json"] = .ok line :=
    toOption_eq_some (by decide +kernel)
  have loaded : load line (fun _ => .settings file) environment =
      .ok { AppConfig.standard with mesh := .withPort 7 } :=
    toOption_eq_some (by decide +kernel)
  exact ⟨line, _, parsed, loaded, toOption_eq_some (by decide +kernel), rfl⟩

end PeerMesh.Settings

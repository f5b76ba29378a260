import PeerMesh.Proofs.Settings.Layers
import PeerMesh.Proofs.Settings.Lists
import PeerMesh.Proofs.Settings.Places

/-!
# Variables that are heeded

A text that a variable gives denotes something for its setting, whatever blanks are at its ends: a
number, itself, yes or no, a list of texts or of addresses. A variable is heeded if loading fails or
the setting is what the text denotes. This is so for all settings but those of yes or no. There a
text that is none of the words for yes and no, be it only for a blank at one of its ends, is passed
over in favour of the file or the default.
-/

set_option autoImplicit false

namespace PeerMesh.Settings

open Text (trimmed Numeral)
open Value (lowered yesWords noWords)

/-- The settings that variables of the environment give. -/
inductive Setting where
  | port
  | connectTimeout
  | statsInterval
  | peers
  | baseId
  | rootDir
  | interfaces
  | allowPeerLocal
  | realm
  | installExitHook
  | logLevel
  | logFormat
  deriving DecidableEq, Repr

/-- The text denotes yes, or it denotes no. -/
def Denotes (text : String) (value : Bool) : Prop :=
  lowered (trimmed text) ∈ if value then yesWords else noWords

namespace Setting

/-- The key of its own that a setting has. -/
def key : Setting → String
  | port => "PORT"
  | connectTimeout => "CONNECT_TIMEOUT_MS"
  | statsInterval => "STATS_INTERVAL_SECS"
  | peers => "PEERS"
  | baseId => "BASE_ID"
  | rootDir => "ROOT_DIR"
  | interfaces => "NETIF"
  | allowPeerLocal => "ALLOW_PEER_LOCAL"
  | realm => "NAMESPACE"
  | installExitHook => "INSTALL_EXIT_HOOK"
  | logLevel => "LOG_LEVEL"
  | logFormat => "LOG_FORMAT"

/-- Whether a setting is one of yes or no. -/
def isFlag : Setting → Bool
  | allowPeerLocal | installExitHook => true
  | _ => false

/-- No option of the command line goes before the setting. -/
def Optionless (line : CommandLine) : Setting → Prop
  | port => line.port = none
  | statsInterval => line.statsInterval = none
  | peers => line.peers = []
  | rootDir => line.root = none
  | interfaces => line.netifs = []
  | allowPeerLocal => line.noLocalPeering = false
  | logLevel => line.logLevel = none
  | logFormat => line.logFormat = none
  | connectTimeout | baseId | realm | installExitHook => True

/-- The setting has the value that a text denotes for it. -/
def Holds (config : AppConfig) (text : String) : Setting → Prop
  | port => Numeral (trimmed text) config.mesh.port.toNat
  | connectTimeout => Numeral (trimmed text) config.mesh.connectTimeout
  | statsInterval => Numeral (trimmed text) config.statsInterval
  | peers => ∃ items, Enumerates text items ∧
      items.map SocketAddress.parse? = config.peers.map some
  | baseId => config.mesh.baseId = some (trimmed text)
  | rootDir => config.mesh.rootDir = some (trimmed text)
  | interfaces => Enumerates text config.mesh.interfaces
  | allowPeerLocal => Denotes text config.mesh.allowPeerLocal
  | realm => config.mesh.realm = trimmed text
  | installExitHook => Denotes text config.mesh.installExitHook
  | logLevel => config.logLevel = trimmed text
  | logFormat => config.logFormat = trimmed text

end Setting

/-- Whatever the file and the other variables say: if only the variable of the setting reaches its
key, with this text, and no option goes before it, then loading fails or the setting has the value
that the text denotes. -/
def Heeded (setting : Setting) (text : String) : Prop :=
  ∀ (line : CommandLine) (lookup : String → FileContents) (before after : List (String × String))
    (named : String) (config : AppConfig),
    lowered named = lowered (variableName setting.key) →
    Unreached (variableEntries (before ++ after)) (lowered setting.key) →
    setting.Optionless line →
    load line lookup (before ++ (named, text) :: after) = .ok config →
    setting.Holds config text

/-! ## What a text gives -/

section Given

variable {settings : Value} {own nested text : String}

theorem firstGiven_of_own {α : Type} {given? : Value → Option α} {default value : α}
    (found : settings.findKey own = some (.text text)) (given : given? (.text text) = some value) :
    firstGiven default (keyLayers settings own nested given?) = value := by
  rw [keyLayers, found, Option.bind_some, given]
  rfl

theorem firstGiven_of_absent {α : Type} {option : Option α} {given? : Value → Option α}
    {default value : α} (absent : option = none)
    (found : settings.findKey own = some (.text text)) (given : given? (.text text) = some value) :
    firstGiven default (option :: keyLayers settings own nested given?) = value := by
  rw [absent, firstGiven_cons, Option.getD_none, firstGiven_of_own found given]

theorem givenText?_text (filled : trimmed text ≠ "") :
    (Value.text text).givenText? = some (trimmed text) :=
  Option.filter_eq_some_iff.mpr ⟨rfl, bne_iff_ne.mpr filled⟩

theorem givenNumber?_text (filled : trimmed text ≠ "") (limit : Nat) :
    (Value.text text).givenNumber? limit = some (Text.readNumeral limit (trimmed text)) := by
  rw [Value.givenNumber?, givenText?_text filled, Option.map_some]

theorem givenTexts?_text (filled : trimmed text ≠ "") :
    (Value.text text).givenTexts? = some (nonBlank (commaParts text)) := by
  have shape : (Value.text text).givenTexts? =
      (Value.text text).givenText?.map fun text => nonBlank (commaParts text) := rfl
  rw [shape, givenText?_text filled, Option.map_some, nonBlank_commaParts_trimmed]

/-! ## Words for yes and no -/

theorem words_disjoint : ∀ word ∈ yesWords, word ∉ noWords := by
  decide

theorem words_shown : (yesWords ++ noWords).all (fun word =>
    word.toList.all fun character => !Text.isBlank character) = true := by
  decide

theorem loweredChar_of_blank {character : Char} (blank : Text.isBlank character = true) :
    Value.loweredChar character = character := by
  have notKelvin : character ≠ '\u212A' := by
    rintro rfl
    exact absurd blank (by decide)
  have notUpper : ¬ (character.val ≥ 'A'.val ∧ character.val ≤ 'Z'.val) := by
    rintro ⟨atLeast, atMost⟩
    have low : 65 ≤ character.toNat := atLeast
    have high : character.toNat ≤ 90 := atMost
    simp only [Text.isBlank, Text.blankRanges, List.any_cons, List.any_nil, Bool.or_false,
      Bool.or_eq_true, Bool.and_eq_true, decide_eq_true_eq] at blank
    omega
  rw [Value.loweredChar, if_neg notKelvin]
  exact dif_neg notUpper

/-- A text that is a word for yes or no has no blank in it. -/
theorem trimmed_of_word (word : lowered text ∈ yesWords ++ noWords) : trimmed text = text := by
  have shown : ∀ character ∈ text.toList, Text.isBlank character = false := by
    intro character listed
    by_contra blank
    have blank := Bool.of_not_eq_false blank
    have inside := mem_lowered (loweredChar_of_blank blank) listed
    have shown := List.all_eq_true.mp (List.all_eq_true.mp words_shown _ word) character inside
    rw [blank] at shown
    cases shown
  rw [trimmed, Text.trim_eq_self_of_shown shown, String.ofList_toList]

theorem bool?_text (text : String) :
    (Value.text text).bool? =
      if yesWords.contains (lowered text) then some true
      else if noWords.contains (lowered text) then some false
      else none := rfl

/-- A word is read as what it denotes. -/
theorem exists_bool?_of_word (word : lowered text ∈ yesWords ∨ lowered text ∈ noWords) :
    ∃ value, (Value.text text).bool? = some value ∧ Denotes text value := by
  have bare := trimmed_of_word (List.mem_append.mpr word)
  rcases word with yes | no
  · refine ⟨true, ?_, by rwa [Denotes, bare]⟩
    rw [bool?_text, if_pos (List.contains_iff_mem.mpr yes)]
  · have notYes : lowered text ∉ yesWords := fun yes => words_disjoint _ yes no
    refine ⟨false, ?_, by rwa [Denotes, bare]⟩
    rw [bool?_text, if_neg (mt List.contains_iff_mem.mp notYes),
      if_pos (List.contains_iff_mem.mpr no)]

theorem bool?_of_wordless (notYes : lowered text ∉ yesWords) (notNo : lowered text ∉ noWords) :
    (Value.text text).bool? = none := by
  rw [bool?_text, if_neg (mt List.contains_iff_mem.mp notYes),
    if_neg (mt List.contains_iff_mem.mp notNo)]

end Given

/-! ## Settings that are heeded -/

/-- The fields of settings that have been loaded have the values that the texts under their keys
denote, except that a text for yes or no has to be a word for it. -/
theorem holds_of_worded {setting : Setting} {text : String} (filled : trimmed text ≠ "")
    (worded : setting.isFlag = true → lowered text ∈ yesWords ∨ lowered text ∈ noWords)
    {line : CommandLine} {settings : Value} {config : AppConfig}
    (optionless : setting.Optionless line)
    (found : settings.findKey setting.key = some (.text text))
    (layered : Layered line settings config) : setting.Holds config text := by
  cases setting with
  | port =>
      have read := layered.port.trans (firstGiven_of_absent (Option.map_eq_none_iff.mpr optionless)
        found (givenNumber?_text filled _))
      exact (Text.readNumeral_eq_ok_iff.mp read.symm).1
  | connectTimeout =>
      have read := layered.connectTimeout.trans
        (firstGiven_of_own found (givenNumber?_text filled _))
      exact (Text.readNumeral_eq_ok_iff.mp read.symm).1
  | statsInterval =>
      have read := layered.statsInterval.trans
        (firstGiven_of_absent (Option.map_eq_none_iff.mpr optionless) found
          (givenNumber?_text filled _))
      exact (Text.readNumeral_eq_ok_iff.mp read.symm).1
  | peers =>
      obtain ⟨listed, parsed, same⟩ := layered.peers
      rw [show line.peers = [] from optionless, List.append_nil] at same
      have given : firstGiven [] (keyLayers settings "PEERS" "node.peers" Value.givenTexts?) = _ :=
        firstGiven_of_own found (givenTexts?_text filled)
      refine ⟨_, enumerates_iff.mpr rfl, ?_⟩
      rw [← given, same, parsed]
  | baseId =>
      exact layered.baseId.trans (firstGiven_of_own found (by rw [givenText?_text filled]; rfl))
  | rootDir =>
      exact layered.rootDir.trans (firstGiven_of_absent (Option.map_eq_none_iff.mpr optionless)
        found (by rw [givenText?_text filled]; rfl))
  | interfaces =>
      have none : line.netifs.isEmpty = true := List.isEmpty_iff.mpr optionless
      have read := layered.interfaces.trans
        (firstGiven_of_absent (if_pos none) found (givenTexts?_text filled))
      exact enumerates_iff.mpr read.symm
  | allowPeerLocal =>
      obtain ⟨value, read, denotes⟩ := exists_bool?_of_word (worded rfl)
      have given := layered.allowPeerLocal.trans
        (congrArg (· && !line.noLocalPeering) (firstGiven_of_own found read))
      rw [show line.noLocalPeering = false from optionless, Bool.not_false, Bool.and_true] at given
      change Denotes text config.mesh.allowPeerLocal
      rwa [given]
  | realm => exact layered.realm.trans (firstGiven_of_own found (givenText?_text filled))
  | installExitHook =>
      obtain ⟨value, read, denotes⟩ := exists_bool?_of_word (worded rfl)
      change Denotes text config.mesh.installExitHook
      rwa [layered.installExitHook.trans (firstGiven_of_own found read)]
  | logLevel =>
      exact layered.logLevel.trans (firstGiven_of_absent optionless found (givenText?_text filled))
  | logFormat =>
      exact layered.logFormat.trans (firstGiven_of_absent optionless found (givenText?_text filled))

/-! ## Texts that are passed over -/

/-- The keys of the settings that loading may fail for. -/
def checkedKeys : List String :=
  ["PORT", "node.port", "CONNECT_TIMEOUT_MS", "node.connect_timeout_ms", "STATS_INTERVAL_SECS",
   "stats.interval_secs", "PEERS", "node.peers"]

theorem exists_ofSettings {settings : Value}
    (absent : ∀ key ∈ checkedKeys, settings.findKey key = none) :
    ∃ base, AppConfig.ofSettings settings = .ok base := by
  simp only [checkedKeys, List.forall_mem_cons] at absent
  simp only [AppConfig.ofSettings, number, texts, text?_eq, findSome?_pair, textsAt?_eq, absent]
  exact ⟨_, rfl⟩

/-- A file that says yes or no in its tables. -/
def saying (setting : Setting) (value : Bool) : List (String × Value) :=
  [("node", .table [(lowered setting.key, .boolean value)])]

theorem Setting.own (setting : Setting) : setting.key ∈ variableKeys := by
  cases setting <;> decide

theorem Setting.flag_spec {setting : Setting} (flag : setting.isFlag = true) :
    ("node", lowered setting.key) ∈ places ∧
      parted [.child (lowered setting.key)] [.child "node", .child (lowered setting.key)] = true ∧
      ∀ key ∈ checkedKeys,
        parted [.child "node", .child (lowered setting.key)] (Key.path key) = true ∧
        parted [.child (lowered setting.key)] (Key.path key) = true := by
  cases setting with
  | allowPeerLocal | installExitHook => decide
  | _ => cases flag

section PassedOver

variable {setting : Setting} {text : String}

theorem sourcePuts_saying (setting : Setting) (value : Bool) (text : String) :
    sourcePuts (saying setting value) [(variableName setting.key, text)] =
      [⟨[.child "node", .child (lowered setting.key)], .boolean value⟩,
        ⟨[.child (lowered setting.key)], .text text⟩] := by
  obtain ⟨unmarked, -, same, gives⟩ := variableKeys_spec setting.key setting.own
  have node : Key.path "node" = [.child "node"] := by decide
  have own : Key.path (lowered setting.key) = [.child (lowered setting.key)] :=
    path_of_unmarked_lowered (same.symm ▸ unmarked)
  simp only [sourcePuts, saying, variableEntries_cons [] gives, putsOf, putsAt, List.cons_append,
    List.nil_append, List.flatMap_cons, node, own]
  rfl

/-- Where a variable gives no word for yes or no, what the file says in its tables counts. -/
theorem exists_saying (flag : setting.isFlag = true) (notYes : lowered text ∉ yesWords)
    (notNo : lowered text ∉ noWords) (value : Bool) :
    let settings := gather (saying setting value) [(variableName setting.key, text)]
    (∃ base, AppConfig.ofSettings settings = .ok base) ∧
      ∀ default, firstGiven default (keyLayers settings setting.key
        (placeKey ("node", lowered setting.key)) Value.bool?) = value := by
  intro settings
  obtain ⟨listed, apart, parted⟩ := Setting.flag_spec flag
  have made : settings = (Value.table []).putAll
      [⟨[.child "node", .child (lowered setting.key)], .boolean value⟩,
        ⟨[.child (lowered setting.key)], .text text⟩] := by
    rw [← sourcePuts_saying, ← gather_eq_putAll]
  constructor
  · refine exists_ofSettings fun key checked => ?_
    have finds : settings.findKey key = (Value.table []).findKey key := by
      rw [made]
      refine Value.findAt_putAll_of_parted ?_ _
      simpa using parted key checked
    obtain ⟨name, steps, shape⟩ := Key.path_eq_cons key
    rw [finds, Value.findKey, shape]
    exact Value.findAt_child_of_empty rfl
  · intro default
    have own : settings.findKey setting.key = some (.text text) :=
      @findKey_gather_of_variable _ [] [] _ _ _ setting.own rfl (unreached_nil _)
    have nested : settings.findKey (placeKey ("node", lowered setting.key)) =
        some (.boolean value) := by
      have last : LastPut [.child "node", .child (lowered setting.key)] (.boolean value)
          [⟨[.child "node", .child (lowered setting.key)], .boolean value⟩,
            ⟨[.child (lowered setting.key)], .text text⟩] :=
        @LastPut.mk _ _ [] _ _ rfl (by simpa using apart)
      obtain ⟨-, path, -⟩ := places_spec _ listed
      rw [Value.findKey, path, made]
      exact Value.findAt_putAll_of_last rfl (List.cons_ne_nil _ _) rfl last _
    rw [firstGiven_keyLayers, own, nested, Option.bind_some, bool?_of_wordless notYes notNo]
    rfl

theorem not_denotes_opposite (text : String) :
    ¬ Denotes text (noWords.contains (lowered (trimmed text))) := by
  unfold Denotes
  by_cases no : lowered (trimmed text) ∈ noWords
  · rw [if_pos (List.contains_iff_mem.mpr no)]
    exact fun yes => words_disjoint _ yes no
  · rwa [if_neg (mt List.contains_iff_mem.mp no)]

theorem not_heeded_of_wordless (flag : setting.isFlag = true) (notYes : lowered text ∉ yesWords)
    (notNo : lowered text ∉ noWords) : ¬ Heeded setting text := by
  intro heeded
  let line : CommandLine := { CommandLine.empty with config := some "meshd.toml" }
  let opposite := noWords.contains (lowered (trimmed text))
  obtain ⟨⟨base, read⟩, given⟩ := exists_saying flag notYes notNo opposite
  have found : fileEntries (fun _ => .settings (saying setting opposite)) line =
      .ok (saying setting opposite) := rfl
  have loaded := load_of_settings found read
  have alone : Unreached (variableEntries ([] ++ [])) (lowered setting.key) := unreached_nil _
  have layered := layered_of_settings read line
  have holds := fun optionless => heeded line _ [] [] _ _ rfl alone optionless loaded
  refine not_denotes_opposite text ?_
  cases setting with
  | allowPeerLocal =>
      have nested : placeKey ("node", lowered "ALLOW_PEER_LOCAL") = "node.allow_peer_local" := by
        decide
      have field : (base.override line).mesh.allowPeerLocal = opposite := by
        rw [layered.allowPeerLocal, ← nested]
        exact (Bool.and_true _).trans (given _)
      have denotes : Denotes text (base.override line).mesh.allowPeerLocal := holds rfl
      rwa [field] at denotes
  | installExitHook =>
      have nested : placeKey ("node", lowered "INSTALL_EXIT_HOOK") = "node.install_exit_hook" := by
        decide
      have field : (base.override line).mesh.installExitHook = opposite := by
        rw [layered.installExitHook, ← nested]
        exact given _
      have denotes : Denotes text (base.override line).mesh.installExitHook := holds trivial
      rwa [field] at denotes
  | _ => cases flag

end PassedOver

/-- The text that a variable gives is heeded for every setting but those of yes or no. For these it
is heeded exactly if it is a word for yes or no as it stands. -/
theorem heeded_iff {setting : Setting} {text : String} (filled : trimmed text ≠ "") :
    Heeded setting text ↔
      (setting.isFlag = true → lowered text ∈ yesWords ∨ lowered text ∈ noWords) := by
  constructor
  · intro heeded flag
    by_contra neither
    exact not_heeded_of_wordless flag (fun yes => neither (.inl yes)) (fun no => neither (.inr no))
      heeded
  · intro worded line lookup before after named config names unreached optionless loaded
    obtain ⟨file, base, -, read, rfl⟩ := load_eq_ok loaded
    have later : Unreached (variableEntries after) (lowered setting.key) := by
      intro entry listed
      refine unreached entry ?_
      rw [variableEntries, List.filterMap_append]
      exact List.mem_append_right _ listed
    exact holds_of_worded filled worded optionless
      (findKey_gather_of_variable file setting.own names later) (layered_of_settings read line)

/-- With a blank at each end a word for no is passed over, and local peers are allowed. -/
theorem not_heeded_blankFalse :
    Heeded .allowPeerLocal "OFF" ∧ ¬ Heeded .allowPeerLocal " false " ∧
      load .empty (fun _ => .missing) [("MESHD_ALLOW_PEER_LOCAL", " false ")] =
        .ok AppConfig.standard := by
  refine ⟨(heeded_iff (by decide)).mpr fun _ => by decide, ?_,
    toOption_eq_some (by decide +kernel)⟩
  intro heeded
  exact absurd ((heeded_iff (by decide)).mp heeded rfl) (by decide)

end PeerMesh.Settings

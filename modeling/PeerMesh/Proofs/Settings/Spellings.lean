import PeerMesh.Proofs.Settings.Layers
import PeerMesh.Proofs.Settings.Lists
import PeerMesh.Proofs.Settings.Places

/-!
# Two spellings of a list

A setting that is a list may be given as a list, or as a text that names the items. Loading makes
the same of both, as long as the sources agree in everything else: what is loaded asks the settings
only for what is found under the keys of the settings, and for the texts that are found under the
keys of the lists.
-/

set_option autoImplicit false

namespace PeerMesh.Settings

/-- The keys of the settings that are no lists: a key of their own, and a key in the tables. -/
def singleKeys : List (String × String) :=
  [("PORT", "node.port"), ("CONNECT_TIMEOUT_MS", "node.connect_timeout_ms"),
   ("STATS_INTERVAL_SECS", "stats.interval_secs"), ("BASE_ID", "node.base_id"),
   ("ROOT_DIR", "node.root_dir"), ("ALLOW_PEER_LOCAL", "node.allow_peer_local"),
   ("NAMESPACE", "node.namespace"), ("INSTALL_EXIT_HOOK", "node.install_exit_hook"),
   ("LOG_LEVEL", "log.level"), ("LOG_FORMAT", "log.format")]

/-- The keys of the settings that are lists. -/
def listKeys : List String :=
  ["NETIF", "node.interfaces", "PEERS", "node.peers"]

/-! ## What loading asks for -/

section Congruence

variable {first second : Value}

/-- Both settings find the same under the key of a setting and under its key in the tables. -/
def AlikeAt (first second : Value) (keys : String × String) : Prop :=
  first.findKey keys.1 = second.findKey keys.1 ∧ first.findKey keys.2 = second.findKey keys.2

theorem AlikeAt.text? {keys : String × String} (alike : AlikeAt first second keys) :
    Settings.text? first [keys.1, keys.2] = Settings.text? second [keys.1, keys.2] := by
  rw [text?_eq, text?_eq, alike.1, alike.2]

theorem AlikeAt.bool? {keys : String × String} (alike : AlikeAt first second keys) :
    Settings.bool? first [keys.1, keys.2] = Settings.bool? second [keys.1, keys.2] := by
  rw [Settings.bool?, Settings.bool?, findSome?_pair, findSome?_pair, alike.1, alike.2]

theorem texts_congr {own nested : String} (sameOwn : textsAt? first own = textsAt? second own)
    (sameNested : textsAt? first nested = textsAt? second nested) :
    texts first [own, nested] = texts second [own, nested] := by
  rw [texts, texts, findSome?_pair, findSome?_pair, sameOwn, sameNested]

/-- What is loaded is decided by what is found under the keys of single values and by the texts
under the keys of lists. -/
theorem ofSettings_congr (single : ∀ keys ∈ singleKeys, AlikeAt first second keys)
    (lists : ∀ key ∈ listKeys, textsAt? first key = textsAt? second key) :
    AppConfig.ofSettings first = AppConfig.ofSettings second := by
  have text := fun keys listed => (single keys listed).text?
  have bool := fun keys listed => (single keys listed).bool?
  simp only [singleKeys, List.forall_mem_cons] at text bool
  simp only [listKeys, List.forall_mem_cons] at lists
  obtain ⟨sameNetif, sameInterfaces, samePeers, samePeersNested, -⟩ := lists
  simp only [AppConfig.ofSettings, number, text, bool, texts_congr sameNetif sameInterfaces,
    texts_congr samePeers samePeersNested]

end Congruence

/-! ## Two spellings -/

theorem listKeys_spec : ∀ key ∈ listKeys,
    (Key.path key).all Step.isName = true ∧
      (∀ keys ∈ singleKeys, parted (Key.path key) (Key.path keys.1) = true ∧
        parted (Key.path key) (Key.path keys.2) = true) ∧
      ∀ other ∈ listKeys, other ≠ key → parted (Key.path key) (Key.path other) = true := by
  decide +kernel

theorem singleKeys_named : ∀ keys ∈ singleKeys,
    (Key.path keys.1).all Step.isName = true ∧ (Key.path keys.2).all Step.isName = true := by
  decide

section Spellings

variable {key text : String} {items : List String}

/-- Sources that differ in how they give the list under one key only are loaded alike: one gives it
as a list of its items, the other as a text that names them. -/
theorem ofSettings_of_spellings (listKey : key ∈ listKeys) (filled : items ≠ [])
    (named : Enumerates text items) {puts others : List Put}
    (asList : LastPut (Key.path key) (.list (items.map .text)) puts)
    (asText : LastPut (Key.path key) (.text text) others)
    (alike : elsewhere (Key.path key) puts = elsewhere (Key.path key) others) :
    AppConfig.ofSettings ((Value.table []).putAll puts) =
      AppConfig.ofSettings ((Value.table []).putAll others) := by
  obtain ⟨names, apartSingle, apartList⟩ := listKeys_spec key listKey
  obtain ⟨name, steps, shape⟩ := Key.path_eq_cons key
  have some : Key.path key ≠ [] := shape ▸ List.cons_ne_nil _ _
  refine ofSettings_congr ?_ ?_
  · intro keys listed
    have namesToo := singleKeys_named keys listed
    have apart := apartSingle keys listed
    exact ⟨Value.findAt_putAll_congr namesToo.1 apart.1 alike _,
      Value.findAt_putAll_congr namesToo.2 apart.2 alike _⟩
  · intro other listed
    by_cases same : other = key
    · subst same
      have isItem : ∀ item ∈ items, IsItem item := by
        obtain ⟨parts, -, partsOf, -⟩ := named
        exact partsOf.isItem
      rw [textsAt?_of_list (Value.findAt_putAll_of_last rfl some names asList _) isItem,
        textsAt?_of_text (Value.findAt_putAll_of_last rfl some names asText _)
          (named.filled filled) named]
    · have found := Value.findAt_putAll_congr (listKeys_spec other listed).1
        (apartList other listed same) alike (.table [])
      change ((Value.table []).putAll puts).findKey other = _ at found
      rw [textsAt?_eq, textsAt?_eq, found]
      rfl

end Spellings

/-- A list of items and a text that names them, given under the same key of a list setting, load to
the same settings or to the same error. -/
theorem list_spellings_load_alike {key text : String} {items : List String}
    (listKey : key ∈ listKeys) (filled : items ≠ []) (named : Enumerates text items)
    {line other : CommandLine} (sameLine : other = { line with config := other.config })
    {lookup lookupToo : String → FileContents} {environment environmentToo : List (String × String)}
    {file fileToo : List (String × Value)} (found : fileEntries lookup line = .ok file)
    (foundToo : fileEntries lookupToo other = .ok fileToo)
    (asList : LastPut (Key.path key) (.list (items.map .text)) (sourcePuts file environment))
    (asText : LastPut (Key.path key) (.text text) (sourcePuts fileToo environmentToo))
    (alike : elsewhere (Key.path key) (sourcePuts file environment) =
      elsewhere (Key.path key) (sourcePuts fileToo environmentToo)) :
    load line lookup environment = load other lookupToo environmentToo := by
  have override : ∀ config : AppConfig, config.override line = config.override other := by
    intro config
    rw [sameLine]
    rfl
  have same := ofSettings_of_spellings listKey filled named asList asText alike
  rw [← gather_eq_putAll, ← gather_eq_putAll] at same
  rw [load_of_found found, load_of_found foundToo, same, funext override]

/-- Two files of which only the first gives peers. -/
def withPeers : List (String × Value) :=
  [("peers", .list [.text "192.0.2.1:5000", .text "[2001:db8::1]:80"]),
    ("node", .table [("port", .whole 6000)])]

def withoutPeers : List (String × Value) :=
  [("node", .table [("port", .whole 6000)])]

theorem sourcePuts_withPeers : sourcePuts withPeers [] =
    ⟨[.child "peers"], .list [.text "192.0.2.1:5000", .text "[2001:db8::1]:80"]⟩ ::
      [⟨[.child "node", .child "port"], .whole 6000⟩] := by
  have peers : Key.path "peers" = [.child "peers"] := by decide
  have node : Key.path "node" = [.child "node"] := by decide
  simp only [sourcePuts, withPeers, putsOf, putsAt, List.cons_append, List.flatMap_cons, peers,
    node]
  rfl

theorem sourcePuts_withoutPeers (text : String) :
    sourcePuts withoutPeers [("MESHD_PEERS", text)] =
      [⟨[.child "node", .child "port"], .whole 6000⟩, ⟨[.child "peers"], .text text⟩] := by
  have peers : Key.path "peers" = [.child "peers"] := by decide
  have node : Key.path "node" = [.child "node"] := by decide
  have names : variableKey? "MESHD_PEERS" = some "peers" := by decide
  simp only [sourcePuts, withoutPeers, variableEntries_cons [] names, putsOf, putsAt,
    List.cons_append, List.nil_append, List.flatMap_cons, peers, node]
  rfl

theorem list_spellings_load_alike_peers :
    let line : CommandLine := { CommandLine.empty with config := some "f.json" }
    let environment := [("MESHD_PEERS", " ,192.0.2.1:5000\u3000,, [2001:db8::1]:80\t,")]
    load line (fun _ => .settings withPeers) [] =
      load line (fun _ => .settings withoutPeers) environment := by
  intro line environment
  have named : Enumerates " ,192.0.2.1:5000\u3000,, [2001:db8::1]:80\t,"
      ["192.0.2.1:5000", "[2001:db8::1]:80"] := enumerates_iff.mpr (by decide)
  have reached : [Step.child "peers"].map Step.lowered = (Key.path "PEERS").map Step.lowered := by
    decide
  have kept : [Step.child "node", .child "port"].map Step.lowered ≠
      (Key.path "PEERS").map Step.lowered := by
    decide
  have asList : LastPut (Key.path "PEERS")
      (.list (["192.0.2.1:5000", "[2001:db8::1]:80"].map .text)) (sourcePuts withPeers []) := by
    rw [sourcePuts_withPeers]
    exact @LastPut.mk _ _ [] _ _ reached (by decide)
  have asText : LastPut (Key.path "PEERS") (.text " ,192.0.2.1:5000\u3000,, [2001:db8::1]:80\t,")
      (sourcePuts withoutPeers environment) := by
    rw [sourcePuts_withoutPeers]
    exact @LastPut.mk _ _ [_] _ _ reached (by decide)
  refine list_spellings_load_alike (by decide) (by decide) named rfl rfl rfl asList asText ?_
  rw [sourcePuts_withPeers, sourcePuts_withoutPeers, elsewhere_cons_of_eq reached,
    elsewhere_cons_of_ne kept, elsewhere_cons_of_ne kept, elsewhere_cons_of_eq reached]

end PeerMesh.Settings

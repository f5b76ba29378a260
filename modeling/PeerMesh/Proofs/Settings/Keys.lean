import PeerMesh.Settings.Load

/-!
# What a key finds

A key reaches one entry at the top level of the settings, by the first name of its path. Putting
something under a key changes that entry and no other; so what a key finds is decided by the last
key that reaches its entry. Variables of the environment are put after everything in the file.
-/

set_option autoImplicit false

namespace PeerMesh.Settings

theorem lookup_cons_eq_ite (entry : String × Value) (rest : List (String × Value)) (name : String) :
    (entry :: rest).lookup name = if name = entry.1 then some entry.2 else rest.lookup name := by
  rw [List.lookup_cons]
  by_cases same : name = entry.1
  · rw [if_pos same, beq_iff_eq.mpr same]
  · rw [if_neg same, beq_eq_false_iff_ne.mpr same]

theorem lookup_putEntry (key : String) (value : Value) (entries : List (String × Value))
    (other : String) :
    (putEntry key value entries).lookup other =
      if other = key then some value else entries.lookup other := by
  induction entries with
  | nil => exact lookup_cons_eq_ite (key, value) [] other
  | cons entry rest ih =>
      unfold putEntry
      by_cases here : entry.1 = key
      · subst here
        rw [if_pos rfl, lookup_cons_eq_ite, lookup_cons_eq_ite]
        by_cases same : other = entry.1 <;> simp [same]
      · rw [if_neg here, lookup_cons_eq_ite, lookup_cons_eq_ite, ih]
        by_cases same : other = key
        · subst same
          rw [if_neg (Ne.symm here), if_pos rfl, if_pos rfl]
        · rw [if_neg same, if_neg same]

/-! ## Tables -/

namespace Value

theorem get?_eq_lookup (value : Value) (name : String) :
    value.get? name = value.tableEntries.lookup name := by
  cases value <;> rfl

theorem get?_entered (target : Value) (name : String) (inner : Value) (other : String) :
    (table (putEntry name inner target.tableEntries)).get? other =
      if other = name then some inner else target.get? other := by
  rw [get?_eq_lookup target]
  exact lookup_putEntry _ _ _ _

theorem get?_put_of_ne (target : Value) {name other : String} (value : Value)
    (apart : other ≠ lowered name) : (target.put name value).get? other = target.get? other := by
  unfold put
  split
  · rw [get?_entered, if_neg apart]
  · rw [get?_entered, if_neg apart]

theorem get?_put_self (target : Value) (name : String) {value : Value}
    (whole : value.entries? = none) : (target.put name value).get? (lowered name) = some value := by
  unfold put
  split
  · cases whole
  · rw [get?_entered, if_pos rfl]

/-- A table that is put is merged into what is there. -/
theorem get?_put_table (target : Value) (name : String) (entries : List (String × Value)) :
    (target.put name (.table entries)).get? (lowered name) =
      some (((target.get? (lowered name)).getD (.table [])).merge entries) := by
  rw [get?_eq_lookup target, put, get?_entered, if_pos rfl]

@[simp] theorem merge_nil (target : Value) : target.merge [] = target := by
  unfold merge
  rfl

theorem merge_cons (target : Value) (entry : String × Value) (rest : List (String × Value)) :
    target.merge (entry :: rest) = (target.put entry.1 entry.2).merge rest := by
  rw [merge]

theorem get?_merge_of_absent (target : Value) {entries : List (String × Value)} {name : String}
    (absent : ∀ entry ∈ entries, lowered entry.1 ≠ name) :
    (target.merge entries).get? name = target.get? name := by
  induction entries generalizing target with
  | nil => rw [merge_nil]
  | cons entry rest ih =>
      rw [merge_cons, ih _ fun other listed => absent other (List.mem_cons_of_mem _ listed)]
      exact get?_put_of_ne target _ (absent entry List.mem_cons_self).symm

theorem merge_append (target : Value) (before after : List (String × Value)) :
    target.merge (before ++ after) = (target.merge before).merge after := by
  induction before generalizing target with
  | nil => rw [List.nil_append, merge_nil]
  | cons entry rest ih =>
      rw [List.cons_append, merge_cons, merge_cons]
      exact ih _

/-- The last entry of a table with the name `name`, in upper or lower case. -/
inductive LastNamed (name : String) (value : Value) : List (String × Value) → Prop where
  | mk {before after : List (String × Value)} {given : String} :
      lowered given = name → (∀ entry ∈ after, lowered entry.1 ≠ name) →
      LastNamed name value (before ++ (given, value) :: after)

theorem get?_merge_of_last (target : Value) {entries : List (String × Value)} {name : String}
    {value : Value} (last : LastNamed name value entries) (whole : value.entries? = none) :
    (target.merge entries).get? name = some value := by
  cases last with
  | @mk before after given same absent =>
      rw [merge_append, merge_cons, get?_merge_of_absent _ absent, ← same]
      exact get?_put_self _ given whole

end Value

/-! ## The entry that a key reaches -/

namespace Key

theorem path_eq_cons (key : String) : ∃ name steps, path key = .child name :: steps := by
  unfold path
  split
  · exact ⟨key, [], rfl⟩
  · split
    · exact ⟨key, [], rfl⟩
    · exact ⟨_, _, rfl⟩

/-- The name of the entry at the top level that a key reaches. -/
def root (key : String) : String :=
  match path key with
  | .child name :: _ => Value.lowered name
  | _ => ""

theorem root_of_path {key name : String} {steps : List Step}
    (shape : path key = .child name :: steps) : root key = Value.lowered name := by
  rw [root, shape]

theorem readSteps_of_unmarked {fuel : Nat} {first : Char} {rest : List Char}
    (dotless : first ≠ '.') (bracketless : first ≠ '[') :
    readSteps fuel (first :: rest) = none := by
  cases fuel with
  | zero => rfl
  | succ fuel =>
      rw [readSteps]
      · nofun
      · intro other same
        exact dotless (List.cons.inj same).1
      · intro other same
        exact bracketless (List.cons.inj same).1

/-- A key without dots and brackets is one name. -/
theorem path_of_unmarked {key : String} (dotless : '.' ∉ key.toList)
    (bracketless : '[' ∉ key.toList) : path key = [.child key] := by
  unfold path
  cases named : readName key.toList with
  | none => rfl
  | some read =>
      obtain ⟨name, rest⟩ := read
      simp only [readName] at named
      split at named
      · cases named
      · cases named
        cases left : key.toList.drop (key.toList.takeWhile isNameChar).length with
        | nil =>
            have all : key.toList.takeWhile isNameChar = key.toList :=
              (List.takeWhile_prefix _).eq_of_length_le (List.drop_eq_nil_iff.mp left)
            rw [all, String.ofList_toList]
            rfl
        | cons first rest =>
            have listed : first ∈ key.toList := by
              refine List.mem_of_mem_drop (i := (key.toList.takeWhile isNameChar).length) ?_
              rw [left]
              exact List.mem_cons_self
            have stops : readSteps (first :: rest).length (first :: rest) = none := by
              refine readSteps_of_unmarked ?_ ?_
              · intro same
                exact dotless (same ▸ listed)
              · intro same
                exact bracketless (same ▸ listed)
            dsimp only
            rw [stops]

end Key

/-- The name has no mark by which a key would be a path of more than one step. -/
def Unmarked (name : String) : Prop :=
  '.' ∉ name.toList ∧ '[' ∉ name.toList

theorem mem_lowered {text : String} {character : Char}
    (kept : Value.loweredChar character = character) (listed : character ∈ text.toList) :
    character ∈ (Value.lowered text).toList := by
  rw [Value.lowered, String.toList_ofList, ← kept]
  exact List.mem_map_of_mem listed

theorem path_of_unmarked_lowered {given : String} (unmarked : Unmarked (Value.lowered given)) :
    Key.path given = [.child given] := by
  refine Key.path_of_unmarked ?_ ?_
  · intro dot
    exact unmarked.1 (mem_lowered (by decide) dot)
  · intro bracket
    exact unmarked.2 (mem_lowered (by decide) bracket)

namespace Value

theorem get?_putKey_of_ne (target : Value) {key other : String} (value : Value)
    (apart : Key.root key ≠ other) : (target.putKey key value).get? other = target.get? other := by
  obtain ⟨name, steps, shape⟩ := Key.path_eq_cons key
  rw [Key.root_of_path shape] at apart
  rw [putKey, shape]
  cases steps with
  | nil => exact get?_put_of_ne target value apart.symm
  | cons step steps => exact (get?_entered target _ _ other).trans (if_neg apart.symm)

theorem findKey_congr {first second : Value} {key : String}
    (same : first.get? (Key.root key) = second.get? (Key.root key)) :
    first.findKey key = second.findKey key := by
  obtain ⟨name, steps, shape⟩ := Key.path_eq_cons key
  rw [Key.root_of_path shape] at same
  rw [findKey, findKey, shape, findAt, findAt, same]

theorem findKey_of_plain (settings : Value) {key name : String}
    (plain : Key.path key = [.child name]) : settings.findKey key = settings.get? (lowered name) := by
  rw [findKey, plain, findAt]
  exact Option.bind_fun_some _

theorem findKey_of_nested (settings : Value) {key name inner : String}
    (nested : Key.path key = [.child name, .child inner]) :
    settings.findKey key = (settings.get? (lowered name)).bind fun found =>
      found.get? (lowered inner) := by
  rw [findKey, nested, findAt]
  cases settings.get? (lowered name) with
  | none => rfl
  | some found => exact Option.bind_fun_some _

end Value

/-! ## The last entry -/

/-- No entry is put where it reaches the entry at the top level under `name`. -/
def Unreached (entries : List (String × Value)) (name : String) : Prop :=
  ∀ entry ∈ entries, Key.root entry.1 ≠ name

theorem unreached_nil (name : String) : Unreached [] name :=
  List.forall_mem_nil _

/-- The last entry that reaches what is at the top level under `name` goes by this very name, in
upper or lower case. -/
inductive LastAt (name : String) (value : Value) : List (String × Value) → Prop where
  | mk {before after : List (String × Value)} {given : String} :
      Value.lowered given = name → Unreached after name →
      LastAt name value (before ++ (given, value) :: after)

/-- The settings of a file alone. -/
def ofFile (file : List (String × Value)) : Value :=
  withTable (.table []) file

theorem get?_withTable (settings : Value) {entries : List (String × Value)} {name : String}
    (unreached : Unreached entries name) :
    (withTable settings entries).get? name = settings.get? name := by
  induction entries generalizing settings with
  | nil => rfl
  | cons entry rest ih =>
      have later : Unreached rest name := by
        intro other listed
        exact unreached other (List.mem_cons_of_mem _ listed)
      calc (withTable settings (entry :: rest)).get? name
        _ = (settings.putKey entry.1 entry.2).get? name := ih _ later
        _ = settings.get? name :=
          Value.get?_putKey_of_ne settings _ (unreached entry List.mem_cons_self)

theorem withTable_append (settings : Value) (before after : List (String × Value)) :
    withTable settings (before ++ after) = withTable (withTable settings before) after :=
  List.foldl_append

theorem findKey_ofFile_append {before after : List (String × Value)} {key : String}
    (unreached : Unreached after (Key.root key)) :
    (ofFile (before ++ after)).findKey key = (ofFile before).findKey key := by
  rw [ofFile, withTable_append]
  exact Value.findKey_congr (get?_withTable _ unreached)

theorem get?_ofFile_of_lastAt {entries : List (String × Value)} {name : String} {value : Value}
    (unmarked : Unmarked name) (last : LastAt name value entries) :
    ∃ (settings : Value) (given : String), Value.lowered given = name ∧
      (ofFile entries).get? name = (settings.put given value).get? name := by
  cases last with
  | @mk before after given same unreached =>
      refine ⟨ofFile before, given, same, ?_⟩
      rw [← same] at unmarked
      calc (ofFile (before ++ (given, value) :: after)).get? name
        _ = (withTable ((ofFile before).putKey given value) after).get? name := by
          rw [ofFile, withTable_append]
          rfl
        _ = ((ofFile before).putKey given value).get? name := get?_withTable _ unreached
        _ = ((ofFile before).put given value).get? name := by
          rw [Value.putKey, path_of_unmarked_lowered unmarked, Value.putAt]

theorem get?_ofFile_of_last {entries : List (String × Value)} {name : String} {value : Value}
    (unmarked : Unmarked name) (last : LastAt name value entries) (whole : value.entries? = none) :
    (ofFile entries).get? name = some value := by
  obtain ⟨settings, given, same, put⟩ := get?_ofFile_of_lastAt unmarked last
  rw [put, ← same]
  exact Value.get?_put_self settings given whole

theorem get?_ofFile_of_lastTable {entries inner : List (String × Value)} {name : String}
    (unmarked : Unmarked name) (last : LastAt name (.table inner) entries) :
    ∃ under : Value, (ofFile entries).get? name = some (under.merge inner) := by
  obtain ⟨settings, given, same, put⟩ := get?_ofFile_of_lastAt unmarked last
  rw [put, ← same]
  exact ⟨_, Value.get?_put_table settings given inner⟩

/-! ## The keys of the settings -/

/-- The places that settings have in tables, by the table and the name in it. -/
def places : List (String × String) :=
  [("node", "port"), ("node", "connect_timeout_ms"), ("stats", "interval_secs"), ("node", "peers"),
   ("node", "base_id"), ("node", "root_dir"), ("node", "interfaces"), ("node", "allow_peer_local"),
   ("node", "namespace"), ("node", "install_exit_hook"), ("log", "level"), ("log", "format")]

def placeKey (place : String × String) : String :=
  place.1 ++ "." ++ place.2

theorem variableKeys_spec : ∀ key ∈ variableKeys,
    Unmarked (Value.lowered key) ∧ Key.path key = [.child key] ∧
      Value.lowered (Value.lowered key) = Value.lowered key ∧
      variableKey? (variableName key) = some (Value.lowered key) := by
  unfold Unmarked
  decide +kernel

theorem places_spec : ∀ place ∈ places,
    Unmarked place.1 ∧ Key.path (placeKey place) = [.child place.1, .child place.2] ∧
      Value.lowered place.1 = place.1 ∧ Value.lowered place.2 = place.2 := by
  unfold Unmarked
  decide +kernel

/-- A key of its own finds what the file says last under its name. -/
theorem findKey_ofFile_of_own {file : List (String × Value)} {key : String} {value : Value}
    (own : key ∈ variableKeys) (last : LastAt (Value.lowered key) value file)
    (whole : value.entries? = none) : (ofFile file).findKey key = some value := by
  obtain ⟨unmarked, plain, -⟩ := variableKeys_spec key own
  rw [Value.findKey_of_plain _ plain]
  exact get?_ofFile_of_last unmarked last whole

/-- A place in a table finds what the table says last under its name. -/
theorem findKey_ofFile_of_place {file inner : List (String × Value)} {place : String × String}
    {value : Value} (listed : place ∈ places) (last : LastAt place.1 (.table inner) file)
    (lastInner : Value.LastNamed place.2 value inner) (whole : value.entries? = none) :
    (ofFile file).findKey (placeKey place) = some value := by
  obtain ⟨unmarked, nested, same, sameInner⟩ := places_spec place listed
  obtain ⟨under, found⟩ := get?_ofFile_of_lastTable unmarked last
  rw [Value.findKey_of_nested _ nested, same, sameInner, found]
  exact Value.get?_merge_of_last under lastInner whole

/-! ## Variables over the file -/

/-- The entries that the variables of an environment put over those of the file. -/
def variableEntries (environment : List (String × String)) : List (String × Value) :=
  environment.filterMap fun entry => (variableKey? entry.1).map fun key => (key, .text entry.2)

theorem variableEntries_cons {named text key : String} (rest : List (String × String))
    (gives : variableKey? named = some key) :
    variableEntries ((named, text) :: rest) = (key, .text text) :: variableEntries rest :=
  List.filterMap_cons_some (by rw [gives]; rfl)

theorem withEnvironment_eq (settings : Value) (environment : List (String × String)) :
    withEnvironment settings environment = withTable settings (variableEntries environment) := by
  induction environment generalizing settings with
  | nil => rfl
  | cons entry rest ih =>
      change withEnvironment _ rest = _
      rw [ih]
      cases names : variableKey? entry.1 with
      | none =>
          have kept : variableEntries (entry :: rest) = variableEntries rest :=
            List.filterMap_cons_none (by rw [names]; rfl)
          simp only [names, kept]
      | some key =>
          rw [variableEntries_cons rest names]
          simp only [names]
          rfl

theorem gather_eq (file : List (String × Value)) (environment : List (String × String)) :
    gather file environment = ofFile (file ++ variableEntries environment) := by
  rw [gather, withEnvironment_eq, ofFile, withTable_append]

theorem findKey_gather_of_unreached (file : List (String × Value))
    {environment : List (String × String)} {key : String}
    (unreached : Unreached (variableEntries environment) (Key.root key)) :
    (gather file environment).findKey key = (ofFile file).findKey key := by
  rw [gather_eq]
  exact findKey_ofFile_append unreached

/-- A key of its own finds what its variable says, if no later variable reaches its entry. -/
theorem findKey_gather_of_variable (file : List (String × Value))
    {before after : List (String × String)} {key named text : String} (own : key ∈ variableKeys)
    (names : Value.lowered named = Value.lowered (variableName key))
    (unreached : Unreached (variableEntries after) (Value.lowered key)) :
    (gather file (before ++ (named, text) :: after)).findKey key = some (.text text) := by
  obtain ⟨-, -, same, gives⟩ := variableKeys_spec key own
  rw [variableKey?, ← names] at gives
  have split : variableEntries (before ++ (named, text) :: after) =
      variableEntries before ++ variableEntries ((named, text) :: after) := List.filterMap_append
  rw [gather_eq, split, variableEntries_cons after gives, ← List.append_assoc]
  exact findKey_ofFile_of_own own (.mk same unreached) rfl

end PeerMesh.Settings

import PeerMesh.Context
import PeerMesh.Proofs.Files.Paths

/-!
# Which lists of file systems are shared

A list that was made for a root is found again for every root that leads to the same place, until
the lists are forgotten. Lists are numbered as they are made, so a list that is made later, for
another place or after the others were forgotten, has a number that no earlier one had.
-/

set_option autoImplicit false

namespace PeerMesh

namespace Files

/-- The components of the place that a root leads to, which are those of the root, after those of
the working directory if the root is relative. -/
def place (workingDirectory root : String) : List String :=
  if isAbsolute root then components root
  else components workingDirectory ++ components root

theorem components_joined_eq_place (workingDirectory root : String) :
    components (joined workingDirectory root) = place workingDirectory root := by
  unfold place
  split
  · rename_i absolute
    rw [joined, if_pos absolute]
  · rename_i relative
    exact components_joined_of_relative workingDirectory (Bool.eq_false_iff.mpr relative)

/-- A list for a place: the messages come first, and then the local files of the place, if it is
one. -/
def Systems.RootedAt (systems : Systems) (key : Option (List String)) : Prop :=
  ∃ root : Option String, root.map components = key ∧
    systems.members = .messages :: (root.map fun root => .below ⟨root⟩).toList

theorem Systems.RootedAt.localFiles {systems : Systems} {key : Option (List String)}
    (rooted : systems.RootedAt key) : systems.localFiles.map (components ·.root) = key := by
  obtain ⟨root, rfl, members⟩ := rooted
  rw [Systems.localFiles, members]
  cases root <;> rfl

theorem Systems.RootedAt.names {systems : Systems} {key : Option (List String)}
    (rooted : systems.RootedAt key) :
    systems.names = MessageFiles.name :: (key.map fun _ => LocalFiles.name).toList := by
  obtain ⟨root, rfl, members⟩ := rooted
  rw [Systems.names, members]
  cases root <;> rfl

namespace SystemsCache

variable {cache : SystemsCache} {workingDirectory : String} {root : Option String}
  {systems other : Systems} {key otherKey : Option (List String)} {floor : Nat}

/-- The list that is kept under a key. -/
def kept? (cache : SystemsCache) (key : Option (List String)) : Option Systems :=
  cache.lists.lookup key

/-- All that loading can do: it finds the list for the place, or makes one under the next number. -/
inductive Loads (cache : SystemsCache) (workingDirectory : String) (root : Option String) :
    SystemsCache × Systems → Prop where
  | found {systems : Systems}
      (there : cache.kept? (root.map (place workingDirectory)) = some systems) :
      Loads cache workingDirectory root (cache, systems)
  | made {after : SystemsCache} {systems : Systems}
      (missing : cache.kept? (root.map (place workingDirectory)) = none)
      (next : systems.number = cache.made) (grown : after.made = cache.made + 1)
      (rooted : systems.RootedAt (root.map (place workingDirectory)))
      (kept : ∀ key, after.kept? key =
        if key = root.map (place workingDirectory) then some systems else cache.kept? key) :
      Loads cache workingDirectory root (after, systems)

theorem loads_load (cache : SystemsCache) (workingDirectory : String) (root : Option String) :
    cache.Loads workingDirectory root (cache.load workingDirectory root) := by
  have same : (root.map (joined workingDirectory)).map components =
      root.map (place workingDirectory) := by
    rw [Option.map_map]
    congr 1
    funext path
    exact components_joined_eq_place workingDirectory path
  unfold load
  simp only [same]
  split
  · rename_i systems there
    exact .found there
  · rename_i missing
    refine .made missing rfl rfl ⟨root.map (joined workingDirectory), same, rfl⟩ ?_
    · intro key
      simp only [kept?, List.lookup_append, List.lookup_cons, List.lookup_nil]
      by_cases here : key = root.map (place workingDirectory)
      · rw [if_pos here, here, missing, beq_self_eq_true]
        rfl
      · rw [if_neg here, beq_false_of_ne here, Option.or_none]

/-- The lists are numbered apart, below the next number, and each is one for the place that it is
kept for. -/
structure Sound (cache : SystemsCache) : Prop where
  below : ∀ key systems, cache.kept? key = some systems → systems.number < cache.made
  apart : ∀ key systems otherKey other, cache.kept? key = some systems →
    cache.kept? otherKey = some other → systems.number = other.number → key = otherKey
  rooted : ∀ key systems, cache.kept? key = some systems → systems.RootedAt key

theorem sound_empty : empty.Sound where
  below := nofun
  apart := nofun
  rooted := nofun

theorem sound_clear (cache : SystemsCache) : cache.clear.Sound where
  below := nofun
  apart := nofun
  rooted := nofun

theorem Sound.load (sound : cache.Sound) (workingDirectory : String) (root : Option String) :
    (cache.load workingDirectory root).1.Sound := by
  have loads := cache.loads_load workingDirectory root
  generalize cache.load workingDirectory root = result at loads
  cases loads with
  | found there => exact sound
  | made missing next grown rooted kept =>
      refine ⟨?_, ?_, ?_⟩
      · intro key other there
        rw [grown]
        rw [kept] at there
        split at there
        · cases there
          omega
        · exact Nat.lt_succ_of_lt (sound.below key other there)
      · intro key first otherKey second there thereToo same
        rw [kept] at there thereToo
        split at there
        · rename_i here
          split at thereToo
          · rename_i hereToo
            exact here.trans hereToo.symm
          · cases there
            have below := sound.below otherKey second thereToo
            omega
        · split at thereToo
          · cases thereToo
            have below := sound.below key first there
            omega
          · exact sound.apart key first otherKey second there thereToo same
      · intro key other there
        rw [kept] at there
        split at there
        · rename_i here
          cases there
          rw [here]
          exact rooted
        · exact sound.rooted key other there

/-- What is loaded is kept for the place of its root. -/
theorem kept?_load_self (cache : SystemsCache) (workingDirectory : String) (root : Option String) :
    (cache.load workingDirectory root).1.kept? (root.map (place workingDirectory)) =
      some (cache.load workingDirectory root).2 := by
  have loads := cache.loads_load workingDirectory root
  generalize cache.load workingDirectory root = result at loads ⊢
  cases loads with
  | found there => exact there
  | made missing next grown rooted kept => rw [kept, if_pos rfl]

theorem kept?_load_of_kept (there : cache.kept? key = some systems) (workingDirectory : String)
    (root : Option String) : (cache.load workingDirectory root).1.kept? key = some systems := by
  have loads := cache.loads_load workingDirectory root
  generalize cache.load workingDirectory root = result at loads ⊢
  cases loads with
  | found _ => exact there
  | made missing next grown rooted kept =>
      rw [kept]
      split
      · rename_i here
        rw [here, missing] at there
        cases there
      · exact there

/-- Every list that is kept, or made from now on, has at least this number. -/
structure StartsAt (cache : SystemsCache) (floor : Nat) : Prop where
  made : floor ≤ cache.made
  kept : ∀ key systems, cache.kept? key = some systems → floor ≤ systems.number

theorem made_load (cache : SystemsCache) (workingDirectory : String) (root : Option String) :
    cache.made ≤ (cache.load workingDirectory root).1.made := by
  have loads := cache.loads_load workingDirectory root
  generalize cache.load workingDirectory root = result at loads ⊢
  cases loads with
  | found there => exact Nat.le_refl _
  | made missing next grown rooted kept =>
      rw [grown]
      exact Nat.le_succ _

theorem startsAt_clear (reached : floor ≤ cache.made) : cache.clear.StartsAt floor where
  made := reached
  kept := nofun

theorem StartsAt.load (starts : cache.StartsAt floor) (workingDirectory : String)
    (root : Option String) : (cache.load workingDirectory root).1.StartsAt floor where
  made := Nat.le_trans starts.made (cache.made_load workingDirectory root)
  kept := by
    have loads := cache.loads_load workingDirectory root
    generalize cache.load workingDirectory root = result at loads ⊢
    cases loads with
    | found _ => exact starts.kept
    | made missing next grown rooted kept =>
        intro key other there
        rw [kept] at there
        split at there
        · cases there
          rw [next]
          exact starts.made
        · exact starts.kept key other there

end SystemsCache

end Files

/-! ## The uses of a context -/

/-- What the application does with the lists of a context. -/
inductive SystemsUse where
  | loads (root : Option String)
  | resets

namespace Context

open Files (Systems SystemsCache place)

variable {context : Context} {key : Option (List String)} {systems : Systems} {floor : Nat}

def use (workingDirectory : String) (context : Context) : SystemsUse → Context
  | .loads root => (context.loadSystems workingDirectory root).1
  | .resets => context.reset

def afterUses (context : Context) (workingDirectory : String) (uses : List SystemsUse) : Context :=
  uses.foldl (use workingDirectory) context

theorem sound_afterUses (sound : context.systems.Sound) (workingDirectory : String)
    (uses : List SystemsUse) : (context.afterUses workingDirectory uses).systems.Sound := by
  induction uses generalizing context with
  | nil => exact sound
  | cons use rest ih =>
      cases use with
      | loads root => exact ih (sound.load workingDirectory root)
      | resets => exact ih (SystemsCache.sound_clear context.systems)

/-- A list stays with its place until the context is reset. -/
theorem kept?_afterUses {uses : List SystemsUse} (unreset : SystemsUse.resets ∉ uses)
    (there : context.systems.kept? key = some systems) (workingDirectory : String) :
    (context.afterUses workingDirectory uses).systems.kept? key = some systems := by
  induction uses generalizing context with
  | nil => exact there
  | cons use rest ih =>
      rw [List.mem_cons, not_or] at unreset
      cases use with
      | loads root =>
          exact ih unreset.2 (SystemsCache.kept?_load_of_kept there workingDirectory root)
      | resets => exact absurd rfl unreset.1

theorem startsAt_afterUses (starts : context.systems.StartsAt floor) (workingDirectory : String)
    (uses : List SystemsUse) :
    (context.afterUses workingDirectory uses).systems.StartsAt floor := by
  induction uses generalizing context with
  | nil => exact starts
  | cons use rest ih =>
      cases use with
      | loads root => exact ih (starts.load workingDirectory root)
      | resets => exact ih (SystemsCache.startsAt_clear starts.made)

/-- After a reset no list is kept that was made before it. -/
theorem startsAt_afterUses_of_reset {uses : List SystemsUse} (reset : SystemsUse.resets ∈ uses)
    (reached : floor ≤ context.systems.made) (workingDirectory : String) :
    (context.afterUses workingDirectory uses).systems.StartsAt floor := by
  induction uses generalizing context with
  | nil => cases reset
  | cons use rest ih =>
      cases use with
      | loads root =>
          have later : SystemsUse.resets ∈ rest := by simpa using reset
          have stillReached : floor ≤ (context.systems.load workingDirectory root).1.made :=
            Nat.le_trans reached (context.systems.made_load workingDirectory root)
          exact ih later stillReached
      | resets =>
          have starts : context.reset.systems.StartsAt floor := SystemsCache.startsAt_clear reached
          exact startsAt_afterUses starts workingDirectory rest

/-- What is loaded is kept, in lists that are sound. -/
theorem kept?_loadSystems (context : Context) (workingDirectory : String) (root : Option String) :
    (context.loadSystems workingDirectory root).1.systems.kept?
      (root.map (place workingDirectory)) = some (context.loadSystems workingDirectory root).2 :=
  context.systems.kept?_load_self workingDirectory root

/-- A list that is loaded after a reset is none that was loaded before. -/
theorem number_lt_of_reset {uses : List SystemsUse} (reset : SystemsUse.resets ∈ uses)
    (below : systems.number < context.systems.made) (workingDirectory : String)
    (root : Option String) :
    systems.number <
      ((context.afterUses workingDirectory uses).loadSystems workingDirectory root).2.number := by
  have starts := startsAt_afterUses_of_reset reset below workingDirectory
  exact (starts.load workingDirectory root).kept _ _ (kept?_loadSystems _ workingDirectory root)

/-- Without a reset, what was loaded before is still kept after the next load. -/
theorem kept?_loadSystems_afterUses {uses : List SystemsUse} (unreset : SystemsUse.resets ∉ uses)
    (there : context.systems.kept? key = some systems) (workingDirectory : String)
    (root : Option String) :
    ((context.afterUses workingDirectory uses).loadSystems workingDirectory
      root).1.systems.kept? key = some systems :=
  SystemsCache.kept?_load_of_kept (kept?_afterUses unreset there workingDirectory) workingDirectory
    root

/-- Whatever is loaded and reset before and in between, two loads give the same list exactly if the
context is not reset between them and both roots are missing or lead to the same place. A list has
the messages first, and after them the local files of its place if there is a root. -/
theorem loads_share_list_iff (base : String) (catalog : Option Catalog) (workingDirectory : String)
    (before between : List SystemsUse) (firstRoot secondRoot : Option String) :
    let earlier := ((Context.initial base catalog).afterUses workingDirectory before).loadSystems
      workingDirectory firstRoot
    let later := (earlier.1.afterUses workingDirectory between).loadSystems workingDirectory
      secondRoot
    (earlier.2.number = later.2.number ↔
      SystemsUse.resets ∉ between ∧
        firstRoot.map (place workingDirectory) = secondRoot.map (place workingDirectory)) ∧
    (earlier.2.number = later.2.number → earlier.2 = later.2) ∧
    earlier.2.names =
      Files.MessageFiles.name :: (firstRoot.map fun _ => Files.LocalFiles.name).toList ∧
    earlier.2.localFiles.map (Files.components ·.root) =
      firstRoot.map (place workingDirectory) := by
  intro earlier later
  have soundEarlier : earlier.1.systems.Sound :=
    (sound_afterUses SystemsCache.sound_empty workingDirectory before).load workingDirectory
      firstRoot
  have soundLater : later.1.systems.Sound :=
    (sound_afterUses soundEarlier workingDirectory between).load workingDirectory secondRoot
  have keptEarlier := kept?_loadSystems
    ((Context.initial base catalog).afterUses workingDirectory before) workingDirectory firstRoot
  have keptLater := kept?_loadSystems (earlier.1.afterUses workingDirectory between)
    workingDirectory secondRoot
  have rooted := soundEarlier.rooted _ _ keptEarlier
  have shared : earlier.2.number = later.2.number →
      SystemsUse.resets ∉ between ∧
        firstRoot.map (place workingDirectory) = secondRoot.map (place workingDirectory) := by
    intro same
    have unreset : SystemsUse.resets ∉ between := by
      intro reset
      have newer := number_lt_of_reset reset (soundEarlier.below _ _ keptEarlier) workingDirectory
        secondRoot
      exact Nat.ne_of_lt newer same
    have still := kept?_loadSystems_afterUses unreset keptEarlier workingDirectory secondRoot
    exact ⟨unreset, soundLater.apart _ _ _ _ still keptLater same⟩
  have identical : SystemsUse.resets ∉ between ∧
      firstRoot.map (place workingDirectory) = secondRoot.map (place workingDirectory) →
      earlier.2 = later.2 := by
    intro ⟨unreset, samePlace⟩
    have still := kept?_loadSystems_afterUses unreset keptEarlier workingDirectory secondRoot
    rw [samePlace] at still
    exact Option.some.inj (still.symm.trans keptLater)
  have names := rooted.names
  rw [Option.map_map] at names
  exact ⟨⟨shared, fun both => congrArg (·.number) (identical both)⟩,
    fun same => identical (shared same), names, rooted.localFiles⟩

example :
    let start := Context.initial "m" none
    let earlier := start.loadSystems "/home" (some "files")
    ((earlier.1.loadSystems "/home" (some "/home/./files/")).2 = earlier.2 ∧
      (earlier.1.reset.loadSystems "/home" (some "files")).2 ≠ earlier.2) := by decide +kernel

end Context

end PeerMesh

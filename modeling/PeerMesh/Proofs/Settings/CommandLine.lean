import PeerMesh.Proofs.Outcome
import PeerMesh.Settings.CommandLine

/-!
# What the arguments say

How options are spelled in the arguments is said here without a reader. Arguments that can be read
spell a sequence of options, and what is read depends, in each of its parts, on the options of one
kind alone.
-/

set_option autoImplicit false

namespace PeerMesh.Settings.CommandLine

/-- An option as it is given, with the text of its value if it has one. -/
inductive Given where
  | value (option : ValueOption) (text : String)
  | noLocalPeering
  deriving DecidableEq

/-! ## The spelling of options -/

/-- An argument that is no option, and so may be the value of one. -/
def StandsAlone (text : String) : Prop :=
  ∀ first rest, text.toList ≠ '-' :: first :: rest

def dashed (letter : Char) : String :=
  String.ofList ['-', letter]

/-- Arguments spell a sequence of options. -/
inductive Spells : List String → List Given → Prop where
  | nothing : Spells [] []
  | ended : Spells ["--"] []
  | long {name text : String} {option : ValueOption} {rest : List String} {given : List Given} :
      longNames.lookup name = some (.valued option) → StandsAlone text → Spells rest given →
      Spells (("--" ++ name) :: text :: rest) (.value option text :: given)
  | longAttached {name text : String} {option : ValueOption} {rest : List String}
      {given : List Given} :
      longNames.lookup name = some (.valued option) → Spells rest given →
      Spells (("--" ++ name ++ "=" ++ text) :: rest) (.value option text :: given)
  | letter {letter : Char} {text : String} {option : ValueOption} {rest : List String}
      {given : List Given} :
      letters.lookup letter = some (.valued option) → StandsAlone text → Spells rest given →
      Spells (dashed letter :: text :: rest) (.value option text :: given)
  | letterAttached {letter : Char} {text : String} {option : ValueOption} {rest : List String}
      {given : List Given} :
      letters.lookup letter = some (.valued option) → text ≠ "" → text.toList.head? ≠ some '=' →
      Spells rest given →
      Spells ((dashed letter ++ text) :: rest) (.value option text :: given)
  | letterEquals {letter : Char} {text : String} {option : ValueOption} {rest : List String}
      {given : List Given} :
      letters.lookup letter = some (.valued option) → Spells rest given →
      Spells ((dashed letter ++ "=" ++ text) :: rest) (.value option text :: given)
  | flag {name : String} {rest : List String} {given : List Given} :
      longNames.lookup name = some (.flag .noLocalPeering) → Spells rest given →
      Spells (("--" ++ name) :: rest) (.noLocalPeering :: given)

/-! ## What is made of the options -/

def take (line : CommandLine) : Given → Except UsageError CommandLine
  | .value option text => line.accept option text
  | .noLocalPeering => line.acceptFlag .noLocalPeering

/-- The command line after some more options. -/
inductive Takes : CommandLine → List Given → CommandLine → Prop where
  | nothing {line : CommandLine} : Takes line [] line
  | next {line later last : CommandLine} {given : Given} {rest : List Given} :
      line.take given = .ok later → Takes later rest last → Takes line (given :: rest) last

/-- How the arguments that are left go on, when the value of an option may still be waited for. -/
inductive Continues : Option (ValueOption × Option String) → List String → List Given → Prop where
  | free {arguments : List String} {given : List Given} :
      Spells arguments given → Continues none arguments given
  | held {option : ValueOption} {text : String} {arguments : List String} {given : List Given} :
      Spells arguments given →
      Continues (some (option, some text)) arguments (.value option text :: given)
  | lacking {option : ValueOption} {text : String} {rest : List String} {given : List Given} :
      StandsAlone text → Spells rest given →
      Continues (some (option, none)) (text :: rest) (.value option text :: given)

/-- The arguments that are left spell options that lead to the command line `last`. -/
inductive Leads (progress : Progress) (arguments : List String) (last : CommandLine) : Prop where
  | spelled {given : List Given} :
      Continues progress.waiting arguments given → Takes progress.line given last →
      Leads progress arguments last

/-- The option that waits is seen to before the options that follow. -/
theorem leads_of_resolve {progress : Progress} {line last : CommandLine}
    (resolved : progress.resolve = .ok line) {arguments : List String} {given : List Given}
    (spells : Spells arguments given) (takes : Takes line given last) :
    Leads progress arguments last := by
  obtain ⟨before, waiting⟩ := progress
  match waiting, resolved with
  | none, resolved =>
      cases resolved
      exact .spelled (.free spells) takes
  | some (option, none), resolved => cases resolved
  | some (option, some text), resolved => exact .spelled (.held spells) (.next resolved takes)

/-! ## Arguments as texts -/

theorem eq_of_takeWhile {text : List Char}
    (shorter : (text.takeWhile (· != '=')).length ≠ text.length) :
    text = text.takeWhile (· != '=') ++
      '=' :: text.drop ((text.takeWhile (· != '=')).length + 1) := by
  induction text with
  | nil => exact absurd rfl shorter
  | cons first rest ih =>
      by_cases equals : first = '='
      · subst equals
        rfl
      · have passed : (first :: rest).takeWhile (· != '=') = first :: rest.takeWhile (· != '=') :=
          List.takeWhile_cons_of_pos (bne_iff_ne.mpr equals)
        rw [passed] at shorter ⊢
        have shorterRest : (rest.takeWhile (· != '=')).length ≠ rest.length := by
          intro same
          exact shorter (congrArg (· + 1) same)
        exact congrArg (first :: ·) (ih shorterRest)

section Texts

variable {argument : String} {letter : Char} {text name value : List Char}

theorem eq_long (shape : argument.toList = '-' :: '-' :: text) :
    argument = "--" ++ String.ofList text := by
  rw [← String.toList_inj, shape]
  simp

theorem eq_long_attached (shape : argument.toList = '-' :: '-' :: text)
    (split : text = name ++ '=' :: value) :
    argument = "--" ++ String.ofList name ++ "=" ++ String.ofList value := by
  rw [← String.toList_inj, shape, split]
  simp

theorem eq_letter (shape : argument.toList = ['-', letter]) : argument = dashed letter := by
  rw [← String.toList_inj, shape, dashed, String.toList_ofList]

theorem eq_letter_attached (shape : argument.toList = '-' :: letter :: value) :
    argument = dashed letter ++ String.ofList value := by
  rw [← String.toList_inj, shape]
  simp [dashed]

theorem eq_letter_equals (shape : argument.toList = '-' :: letter :: '=' :: value) :
    argument = dashed letter ++ "=" ++ String.ofList value := by
  rw [← String.toList_inj, shape]
  simp [dashed]

end Texts

theorem lookup_letters_ne (letter : Char) :
    letters.lookup letter ≠ some (.flag .noLocalPeering) := by
  intro known
  obtain ⟨before, after, split, -⟩ := List.lookup_eq_some_iff.mp known
  have listed : (letter, CommandOption.flag .noLocalPeering) ∈ letters := by
    rw [split]
    simp
  simp [letters] at listed

section Step

variable {progress next : Progress} {argument : String} {rest : List String} {last : CommandLine}

theorem leads_of_attached {option : ValueOption} {text : String}
    (read : progress.option (.valued option) (some text) = .ok next)
    (spelled : ∀ given, Spells rest given →
      Spells (argument :: rest) (.value option text :: given))
    (leads : Leads next rest last) : Leads progress (argument :: rest) last := by
  obtain ⟨line, resolved, read⟩ := bind_eq_ok read
  obtain ⟨later, accepted, read⟩ := bind_eq_ok read
  cases read
  cases leads with
  | spelled continues takes =>
      cases continues with
      | free spells => exact leads_of_resolve resolved (spelled _ spells) (.next accepted takes)

theorem leads_of_waiting {option : ValueOption}
    (read : progress.option (.valued option) none = .ok next)
    (spelled : ∀ text rest given, StandsAlone text → Spells rest given →
      Spells (argument :: text :: rest) (.value option text :: given))
    (leads : Leads next rest last) : Leads progress (argument :: rest) last := by
  obtain ⟨line, resolved, read⟩ := map_eq_ok read
  subst read
  cases leads with
  | spelled continues takes =>
      cases continues with
      | lacking alone spells => exact leads_of_resolve resolved (spelled _ _ _ alone spells) takes

theorem leads_of_flag {flag : FlagOption} (read : progress.option (.flag flag) none = .ok next)
    (spelled : flag = .noLocalPeering → ∀ given, Spells rest given →
      Spells (argument :: rest) (.noLocalPeering :: given))
    (leads : Leads next rest last) : Leads progress (argument :: rest) last := by
  obtain ⟨line, resolved, read⟩ := bind_eq_ok read
  obtain ⟨later, accepted, read⟩ := bind_eq_ok read
  cases read
  cases flag with
  | help | version => cases accepted
  | noLocalPeering =>
      cases leads with
      | spelled continues takes =>
          cases continues with
          | free spells =>
              exact leads_of_resolve resolved (spelled rfl _ spells) (.next accepted takes)

theorem leads_of_long {text : List Char} (shape : argument.toList = '-' :: '-' :: text)
    (read : progress.long text = .ok next) (leads : Leads next rest last) :
    Leads progress (argument :: rest) last := by
  unfold Progress.long at read
  dsimp only at read
  cases known : longNames.lookup (String.ofList (text.takeWhile (· != '='))) with
  | none =>
      rw [known] at read
      cases read
  | some option =>
      rw [known] at read
      by_cases whole : (text.takeWhile (· != '=')).length = text.length
      · rw [(List.takeWhile_prefix _).eq_of_length whole] at known
        rw [if_pos whole] at read
        rw [eq_long shape]
        cases option with
        | flag flag =>
            refine leads_of_flag read ?_ leads
            intro only given spells
            subst only
            exact .flag known spells
        | valued option =>
            refine leads_of_waiting read ?_ leads
            intro value more given alone spells
            exact .long known alone spells
      · rw [if_neg whole] at read
        rw [eq_long_attached shape (eq_of_takeWhile whole)]
        cases option with
        | flag flag => cases read
        | valued option =>
            refine leads_of_attached read ?_ leads
            intro given spells
            exact .longAttached known spells

theorem leads_of_short {letter : Char} {text : List Char}
    (shape : argument.toList = '-' :: letter :: text)
    (read : progress.short (letter :: text) = .ok next) (leads : Leads next rest last) :
    Leads progress (argument :: rest) last := by
  unfold Progress.short at read
  cases known : letters.lookup letter with
  | none =>
      rw [known] at read
      cases read
  | some option =>
      rw [known] at read
      cases option with
      | flag flag =>
          -- no flag with a letter goes on: the others end the reading
          obtain ⟨unread, flagged, -⟩ := bind_eq_ok read
          obtain ⟨line, -, flagged⟩ := bind_eq_ok flagged
          obtain ⟨later, accepted, -⟩ := bind_eq_ok flagged
          cases flag with
          | help | version => cases accepted
          | noLocalPeering => exact absurd known (lookup_letters_ne letter)
      | valued option =>
          dsimp only at read
          split at read
          · rw [eq_letter shape]
            refine leads_of_waiting read ?_ leads
            intro value more given alone spells
            exact .letter known alone spells
          · rw [eq_letter_equals shape]
            refine leads_of_attached read ?_ leads
            intro given spells
            exact .letterEquals known spells
          · rename_i present unequal
            rw [eq_letter_attached shape]
            refine leads_of_attached read ?_ leads
            intro given spells
            refine .letterAttached known ?_ ?_ spells
            · intro blank
              refine present ?_
              rw [← String.toList_ofList (l := text), blank]
              rfl
            · intro first
              rw [String.toList_ofList] at first
              obtain ⟨value, equals⟩ := List.head?_eq_some_iff.mp first
              exact unequal value equals

theorem leads_of_plain (alone : StandsAlone argument) (read : progress.plain argument = .ok next)
    (leads : Leads next rest last) : Leads progress (argument :: rest) last := by
  obtain ⟨line, waiting⟩ := progress
  match waiting, read with
  | none, read => cases read
  | some (option, some text), read => cases read
  | some (option, none), read =>
      cases read
      cases leads with
      | spelled continues takes =>
          cases continues with
          | held spells => exact .spelled (.lacking alone spells) takes

theorem leads_of_argument (read : progress.argument argument = .ok next)
    (leads : Leads next rest last) : Leads progress (argument :: rest) last := by
  unfold Progress.argument at read
  split at read
  · rename_i text shape
    exact leads_of_long shape read leads
  · rename_i letter text other shape
    exact leads_of_short shape read leads
  · rename_i plain
    refine leads_of_plain ?_ read leads
    intro first text shape
    exact plain first text shape

end Step

/-- Arguments that are read to their end spell options, and these are taken in their order. -/
theorem leads_of_read {progress : Progress} {arguments : List String} {last : CommandLine}
    (read : progress.read arguments = .ok last) : Leads progress arguments last := by
  induction arguments generalizing progress with
  | nil => exact leads_of_resolve read .nothing .nothing
  | cons argument rest ih =>
      unfold Progress.read at read
      split at read
      · rename_i dashes
        subst dashes
        split at read
        · rename_i none
          rw [List.isEmpty_iff.mp none]
          exact leads_of_resolve read .ended .nothing
        · cases read
      · obtain ⟨next, stepped, read⟩ := bind_eq_ok read
        exact leads_of_argument stepped (ih read)

theorem spells_of_parse {arguments : List String} {line : CommandLine}
    (parsed : parse arguments = .ok line) :
    ∃ given, Spells arguments given ∧ Takes empty given line := by
  cases leads_of_read parsed with
  | spelled continues takes =>
      cases continues with
      | free spells => exact ⟨_, spells, takes⟩

/-! ## One part for each kind of option -/

/-- The texts of the values that an option is given. -/
def textsOf (option : ValueOption) : List Given → List String
  | [] => []
  | .value other text :: rest =>
    if other = option then text :: textsOf option rest else textsOf option rest
  | .noLocalPeering :: rest => textsOf option rest

def isFlagged : List Given → Bool
  | [] => false
  | .value _ _ :: rest => isFlagged rest
  | .noLocalPeering :: _ => true

/-- Each part of the command line comes from the options of one kind, in their order. What may be
given once is given at most once. -/
structure Collects (line : CommandLine) (given : List Given) (last : CommandLine) : Prop where
  config : line.config.toList ++ textsOf .config given = last.config.toList
  port : line.port.toList.map some ++ (textsOf .port given).map port? = last.port.toList.map some
  root : line.root.toList ++ textsOf .root given = last.root.toList
  netifs : line.netifs ++ textsOf .netif given = last.netifs
  peers : line.peers.map some ++ (textsOf .peer given).map SocketAddress.parse? =
    last.peers.map some
  noLocalPeering : (line.noLocalPeering || isFlagged given) = last.noLocalPeering
  logLevel : line.logLevel.toList ++ textsOf .logLevel given = last.logLevel.toList
  logFormat : line.logFormat.toList ++ textsOf .logFormat given = last.logFormat.toList
  statsInterval : line.statsInterval.toList.map .ok ++
    (textsOf .statsInterval given).map (Text.readNumeral Text.wordLimit) =
      last.statsInterval.toList.map .ok

theorem append_of_once {α : Type} {present set : Option α} {value : Except UsageError α}
    (success : once present value = .ok set) :
    ∃ element, value = .ok element ∧
      ∀ later, present.toList ++ element :: later = set.toList ++ later := by
  cases present with
  | some old => cases success
  | none =>
      obtain ⟨element, found, same⟩ := map_eq_ok success
      subst same
      exact ⟨element, found, fun _ => rfl⟩

theorem denoting_eq_ok {α : Type} {value : Option α} {element : α}
    (success : denoting value = .ok element) : value = some element := by
  cases value with
  | none => cases success
  | some found =>
      cases success
      rfl

theorem oneOf_eq_ok {allowed : List String} {value element : String}
    (success : oneOf allowed value = .ok element) : element = value := by
  unfold oneOf at success
  split at success
  · cases success
    rfl
  · cases success

theorem Collects.of_value {line later last : CommandLine} {option : ValueOption} {text : String}
    {rest : List Given} (accepted : line.accept option text = .ok later)
    (collects : Collects later rest last) : Collects line (.value option text :: rest) last := by
  cases option with
  | config =>
      obtain ⟨config, set, same⟩ := map_eq_ok accepted
      obtain ⟨element, given, appended⟩ := append_of_once set
      cases given
      subst same
      exact { collects with config := (appended _).trans collects.config }
  | port =>
      obtain ⟨port, set, same⟩ := map_eq_ok accepted
      obtain ⟨element, given, appended⟩ := append_of_once set
      subst same
      refine { collects with port := ?_ }
      calc line.port.toList.map some ++ port? text :: (textsOf .port rest).map port?
        _ = (line.port.toList ++ [element]).map some ++ (textsOf .port rest).map port? := by
          simp [denoting_eq_ok given]
        _ = port.toList.map some ++ (textsOf .port rest).map port? := by
          rw [appended, List.append_nil]
        _ = last.port.toList.map some := collects.port
  | root =>
      obtain ⟨root, set, same⟩ := map_eq_ok accepted
      obtain ⟨element, given, appended⟩ := append_of_once set
      cases given
      subst same
      exact { collects with root := (appended _).trans collects.root }
  | netif =>
      cases accepted
      exact { collects with netifs := (List.append_cons _ _ _).trans collects.netifs }
  | peer =>
      obtain ⟨peer, given, same⟩ := map_eq_ok accepted
      subst same
      refine { collects with peers := ?_ }
      rw [← collects.peers]
      simp [textsOf, denoting_eq_ok given]
  | logLevel =>
      obtain ⟨logLevel, set, same⟩ := map_eq_ok accepted
      obtain ⟨element, given, appended⟩ := append_of_once set
      cases oneOf_eq_ok given
      subst same
      exact { collects with logLevel := (appended _).trans collects.logLevel }
  | logFormat =>
      obtain ⟨logFormat, set, same⟩ := map_eq_ok accepted
      obtain ⟨element, given, appended⟩ := append_of_once set
      cases oneOf_eq_ok given
      subst same
      exact { collects with logFormat := (appended _).trans collects.logFormat }
  | statsInterval =>
      obtain ⟨interval, set, same⟩ := map_eq_ok accepted
      obtain ⟨element, given, appended⟩ := append_of_once set
      subst same
      refine { collects with statsInterval := ?_ }
      have read : Text.readNumeral Text.wordLimit text = .ok element :=
        toOption_eq_some (denoting_eq_ok given)
      calc line.statsInterval.toList.map .ok ++ Text.readNumeral Text.wordLimit text ::
          (textsOf .statsInterval rest).map (Text.readNumeral Text.wordLimit)
        _ = (line.statsInterval.toList ++ [element]).map .ok ++
            (textsOf .statsInterval rest).map (Text.readNumeral Text.wordLimit) := by
          simp [read]
        _ = interval.toList.map .ok ++
            (textsOf .statsInterval rest).map (Text.readNumeral Text.wordLimit) := by
          rw [appended, List.append_nil]
        _ = last.statsInterval.toList.map .ok := collects.statsInterval

theorem Collects.of_take {line later last : CommandLine} {option : Given} {rest : List Given}
    (taken : line.take option = .ok later) (collects : Collects later rest last) :
    Collects line (option :: rest) last := by
  cases option with
  | value option text => exact collects.of_value taken
  | noLocalPeering =>
      change line.acceptFlag .noLocalPeering = .ok later at taken
      unfold acceptFlag at taken
      dsimp only at taken
      split at taken
      · cases taken
      · cases taken
        refine { collects with noLocalPeering := ?_ }
        rw [← collects.noLocalPeering]
        simp [isFlagged]

/-- What is read of the arguments comes from the options that they spell. -/
theorem collects_of_takes {line last : CommandLine} {given : List Given}
    (takes : Takes line given last) : Collects line given last := by
  induction takes with
  | nothing => constructor <;> simp [textsOf, isFlagged]
  | next taken _ ih => exact ih.of_take taken

end PeerMesh.Settings.CommandLine

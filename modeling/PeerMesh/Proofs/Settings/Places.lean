import PeerMesh.Proofs.Settings.Keys

/-!
# What is put where

Putting entries into settings comes to a row of single puts: a table is put by putting what is in
it, each under the names that lead to it. Puts at paths that part at a name do not meet, and what a
path of names finds after a put depends on nothing but the put and what it found before. So rows of
puts that differ in nothing but what they put at one place lead to settings that are alike wherever
a path parts from the place; at the place itself the last put counts.
-/

set_option autoImplicit false

namespace PeerMesh.Settings

namespace Step

def isName : Step → Bool
  | .child _ => true
  | .item _ => false

/-- A step with its name in lower case; names in upper and lower case lead to the same. -/
def lowered : Step → Step
  | .child name => .child (Value.lowered name)
  | .item position => .item position

end Step

/-- Whether two paths go along the same names and then follow different names of one table. -/
def parted : List Step → List Step → Bool
  | .child first :: path, .child second :: other =>
    Value.lowered first != Value.lowered second || parted path other
  | _, _ => false

/-- A value that is put at the end of a path. -/
structure Put where
  path : List Step
  value : Value

def Put.along (path : List Step) (put : Put) : Put :=
  { put with path := path ++ put.path }

mutual

/-- What a value puts, each with the names that lead to it. A table with nothing in it is put as it
is. -/
def Value.leaves : Value → List Put
  | .table entries => if entries.isEmpty then [⟨[], .table []⟩] else leavesOf entries
  | other => [⟨[], other⟩]

def leavesOf : List (String × Value) → List Put
  | [] => []
  | (name, value) :: rest => value.leaves.map (Put.along [.child name]) ++ leavesOf rest

end

/-- What a value puts at the end of a path. What it puts into a list stays as it is, as tables are
merged into tables only. -/
def putsAt (path : List Step) (value : Value) : List Put :=
  if path.all Step.isName then value.leaves.map (Put.along path) else [⟨path, value⟩]

def putsOf (entries : List (String × Value)) : List Put :=
  entries.flatMap fun entry => putsAt (Key.path entry.1) entry.2

namespace Value

def putAll (target : Value) (puts : List Put) : Value :=
  puts.foldl (fun target put => target.putAt put.path put.value) target

end Value

/-! ## One put -/

theorem putEntry_putEntry (key : String) (value before : Value) (entries : List (String × Value)) :
    putEntry key value (putEntry key before entries) = putEntry key value entries := by
  induction entries with
  | nil => simp [putEntry]
  | cons entry rest ih =>
      by_cases here : entry.1 = key
      · simp [putEntry, here]
      · simp [putEntry, here, ih]

namespace Value

variable {target value : Value} {name other : String} {steps : List Step}

theorem putAt_child_cons (target : Value) (name : String) (more : steps ≠ []) (value : Value) :
    target.putAt (.child name :: steps) value =
      .table (putEntry (lowered name)
        (((target.get? (lowered name)).getD .null).putAt steps value) target.tableEntries) := by
  rw [get?_eq_lookup]
  cases steps with
  | nil => exact absurd rfl more
  | cons step rest =>
      rw [putAt]
      exact List.cons_ne_nil step rest

theorem get?_putAt_of_ne (differ : other ≠ lowered name) :
    (target.putAt (.child name :: steps) value).get? other = target.get? other := by
  cases steps with
  | nil => exact get?_put_of_ne target value differ
  | cons step rest =>
      rw [putAt_child_cons target name (List.cons_ne_nil step rest), get?_entered, if_neg differ]

theorem get?_putAt_self (target : Value) (name : String) (more : steps ≠ []) (value : Value) :
    (target.putAt (.child name :: steps) value).get? (lowered name) =
      some (((target.get? (lowered name)).getD .null).putAt steps value) := by
  rw [putAt_child_cons target name more, get?_entered, if_pos rfl]

theorem findAt_child_cons (target : Value) (name : String) (steps : List Step) :
    target.findAt (.child name :: steps) =
      (target.get? (lowered name)).bind fun found => found.findAt steps := by
  rw [findAt]

/-- Nothing is found in a value that is no table, or that has nothing in it. -/
theorem findAt_child_of_empty (empty : target.tableEntries = []) :
    target.findAt (.child name :: steps) = none := by
  rw [findAt_child_cons, get?_eq_lookup, empty]
  rfl

theorem findAt_child_getD {base : Value} (empty : base.tableEntries = []) (found : Option Value) :
    (found.getD base).findAt (.child name :: steps) =
      found.bind fun under => under.findAt (.child name :: steps) := by
  cases found with
  | none => exact findAt_child_of_empty empty
  | some under => rfl

/-! ## Puts apart from a place -/

theorem exists_names_of_parted {path place : List Step} (apart : parted path place = true) :
    ∃ first rest second other, path = .child first :: rest ∧ place = .child second :: other ∧
      (lowered first ≠ lowered second ∨ parted rest other = true) := by
  unfold parted at apart
  split at apart
  · rename_i first rest second other
    exact ⟨first, rest, second, other, rfl, rfl, by simpa using apart⟩
  · cases apart

theorem exists_names_of_all_isName {path : List Step} (named : path.all Step.isName = true) :
    ∃ names : List String, path = names.map .child := by
  induction path with
  | nil => exact ⟨[], rfl⟩
  | cons step rest ih =>
      cases step with
      | item => cases named
      | child name =>
          obtain ⟨names, rfl⟩ := ih named
          exact ⟨name :: names, rfl⟩

/-- A put at a path leaves alone what is found at a path that parts from it. -/
theorem findAt_putAt_of_parted {path place : List Step} (apart : parted path place = true)
    (target value : Value) : (target.putAt path value).findAt place = target.findAt place := by
  induction path generalizing place target with
  | nil => cases apart
  | cons step rest ih =>
      obtain ⟨first, path, second, other, same, rfl, fork⟩ := exists_names_of_parted apart
      cases same
      rw [findAt_child_cons, findAt_child_cons]
      by_cases same : lowered first = lowered second
      · have later := fork.resolve_left (not_not_intro same)
        obtain ⟨_, _, _, _, more, shape, _⟩ := exists_names_of_parted later
        have longer : rest ≠ [] := more ▸ List.cons_ne_nil _ _
        rw [← same, get?_putAt_self target first longer, Option.bind_some, ih later, shape]
        exact findAt_child_getD rfl _
      · rw [get?_putAt_of_ne (Ne.symm same)]

/-! ## What is found after a put -/

/-- What a path of names finds in what is under a name, or in a base that has nothing, is decided by
what it finds below the name. -/
theorem findAt_getD_congr {base : Value} (empty : base.tableEntries = [])
    {found other : Option Value} {names : List String}
    (same : (found.bind fun under => under.findAt (names.map .child)) =
      other.bind fun under => under.findAt (names.map .child)) :
    (found.getD base).findAt (names.map .child) = (other.getD base).findAt (names.map .child) := by
  cases names with
  | nil =>
      have whole : ∀ option : Option Value,
          (option.bind fun under => under.findAt []) = option := by
        intro option
        cases option <;> rfl
      rw [List.map_nil, whole, whole] at same
      rw [same]
  | cons name rest =>
      rw [List.map_cons] at same ⊢
      rw [findAt_child_getD empty, findAt_child_getD empty, same]

mutual

theorem findAt_put_congr (value : Value) {first second : Value} {name : String}
    {names : List String}
    (same : first.findAt (names.map .child) = second.findAt (names.map .child)) :
    (first.put name value).findAt (names.map .child) =
      (second.put name value).findAt (names.map .child) := by
  cases names with
  | nil => rw [Option.some.inj same]
  | cons query rest =>
      rw [List.map_cons, findAt_child_cons, findAt_child_cons] at same ⊢
      by_cases here : lowered query = lowered name
      · match value with
        | .table entries =>
            rw [here] at same ⊢
            rw [get?_put_table, get?_put_table]
            exact findAt_merge_congr entries (findAt_getD_congr rfl same)
        | .null | .boolean _ | .whole _ | .real _ | .text _ | .list _ =>
            rw [here, get?_put_self first name rfl, get?_put_self second name rfl]
      · rw [get?_put_of_ne first value here, get?_put_of_ne second value here, same]

theorem findAt_merge_congr (entries : List (String × Value)) {first second : Value}
    {names : List String}
    (same : first.findAt (names.map .child) = second.findAt (names.map .child)) :
    (first.merge entries).findAt (names.map .child) =
      (second.merge entries).findAt (names.map .child) := by
  match entries with
  | [] => rw [merge_nil, merge_nil, same]
  | (name, value) :: rest =>
      rw [merge_cons, merge_cons]
      exact findAt_merge_congr rest (findAt_put_congr value same)

end

/-- What a path of names finds after a put is decided by the put and what it found before. -/
theorem findAt_putAt_congr (path : List Step) (value : Value) {first second : Value}
    {names : List String}
    (same : first.findAt (names.map .child) = second.findAt (names.map .child)) :
    (first.putAt path value).findAt (names.map .child) =
      (second.putAt path value).findAt (names.map .child) := by
  induction names generalizing path first second with
  | nil => rw [Option.some.inj same]
  | cons query rest ih =>
      match path with
      | [] => rfl
      | .item _ :: _ =>
          -- The put makes a list of both, and no name finds anything in a list.
          rw [List.map_cons]
          exact (findAt_child_of_empty rfl).trans (findAt_child_of_empty rfl).symm
      | [.child name] => exact findAt_put_congr value same
      | .child name :: step :: path =>
          have more : step :: path ≠ [] := List.cons_ne_nil step path
          rw [List.map_cons, findAt_child_cons, findAt_child_cons] at same ⊢
          by_cases here : lowered query = lowered name
          · rw [here] at same ⊢
            rw [get?_putAt_self first name more, get?_putAt_self second name more]
            exact ih (step :: path) (findAt_getD_congr rfl same)
          · rw [get?_putAt_of_ne here, get?_putAt_of_ne here, same]

/-! ## Rows of puts -/

@[simp] theorem putAll_nil (target : Value) : target.putAll [] = target := rfl

theorem putAll_cons (target : Value) (put : Put) (puts : List Put) :
    target.putAll (put :: puts) = (target.putAt put.path put.value).putAll puts := rfl

theorem putAll_append (target : Value) (before after : List Put) :
    target.putAll (before ++ after) = (target.putAll before).putAll after :=
  List.foldl_append

/-- Puts that all go through a name change what is under the name. -/
theorem putAll_along_child (name : String) {puts : List Put} (some : puts ≠ [])
    (more : ∀ put ∈ puts, put.path ≠ []) (target : Value) :
    target.putAll (puts.map (Put.along [.child name])) =
      .table (putEntry (lowered name)
        (((target.get? (lowered name)).getD .null).putAll puts) target.tableEntries) := by
  induction puts generalizing target with
  | nil => exact absurd rfl some
  | cons put rest ih =>
      have here := more put List.mem_cons_self
      have shape := putAt_child_cons target name here put.value
      change (target.putAt (.child name :: put.path) put.value).putAll _ = _
      by_cases last : rest = []
      · rw [last, List.map_nil, putAll_nil, shape]
        rfl
      · have found := get?_putAt_self target name here put.value
        have entries : (target.putAt (.child name :: put.path) put.value).tableEntries =
            putEntry (lowered name)
              (((target.get? (lowered name)).getD .null).putAt put.path put.value)
              target.tableEntries := by
          rw [shape]
          rfl
        have later := fun other listed => more other (List.mem_cons_of_mem put listed)
        rw [ih last later, found, entries, putEntry_putEntry]
        rfl

/-- A put under a name asks of a value only what it has as a table. -/
theorem putAt_child_congr (name : String) (steps : List Step) (value : Value) {first second : Value}
    (same : first.tableEntries = second.tableEntries) :
    first.putAt (.child name :: steps) value = second.putAt (.child name :: steps) value := by
  cases steps with
  | nil =>
      change first.put name value = second.put name value
      unfold put
      rw [same]
  | cons step rest =>
      have more : step :: rest ≠ [] := List.cons_ne_nil step rest
      rw [putAt_child_cons first name more, putAt_child_cons second name more, get?_eq_lookup,
        get?_eq_lookup, same]

end Value

mutual

theorem leaves_ne_nil (value : Value) : value.leaves ≠ [] := by
  match value with
  | .table entries =>
      unfold Value.leaves
      split
      · exact List.cons_ne_nil _ _
      · rename_i filled
        exact leavesOf_ne_nil entries (by simpa using filled)
  | .null | .boolean _ | .whole _ | .real _ | .text _ | .list _ => exact List.cons_ne_nil _ _

theorem leavesOf_ne_nil (entries : List (String × Value)) (some : entries ≠ []) :
    leavesOf entries ≠ [] := by
  match entries with
  | [] => exact absurd rfl some
  | (name, value) :: rest =>
      unfold leavesOf
      exact List.append_ne_nil_of_left_ne_nil (by simpa using leaves_ne_nil value) _

end

theorem exists_child_of_mem_leavesOf {entries : List (String × Value)} {put : Put}
    (listed : put ∈ leavesOf entries) : ∃ name steps, put.path = .child name :: steps := by
  induction entries with
  | nil => cases listed
  | cons entry rest ih =>
      unfold leavesOf at listed
      rcases List.mem_append.mp listed with here | later
      · obtain ⟨leaf, -, rfl⟩ := List.mem_map.mp here
        exact ⟨entry.1, leaf.path, rfl⟩
      · exact ih later

namespace Value

theorem putAll_leavesOf_getD {entries : List (String × Value)} (some : entries ≠ [])
    (found : Option Value) :
    (found.getD (.table [])).putAll (leavesOf entries) =
      (found.getD .null).putAll (leavesOf entries) := by
  cases found with
  | some under => rfl
  | none =>
      cases puts : leavesOf entries with
      | nil => exact absurd puts (leavesOf_ne_nil entries some)
      | cons put rest =>
          obtain ⟨name, steps, shape⟩ := exists_child_of_mem_leavesOf (puts ▸ List.mem_cons_self)
          rw [putAll_cons, putAll_cons, shape]
          exact congrArg (putAll · rest) (putAt_child_congr name steps put.value rfl)

mutual

/-- To put a table is to put what is in it. -/
theorem put_eq_putAll (value target : Value) (name : String) :
    target.put name value = target.putAll (value.leaves.map (Put.along [.child name])) := by
  match value with
  | .table entries =>
      by_cases none : entries = []
      · subst none
        rfl
      · have leaves : (Value.table entries).leaves = leavesOf entries := by
          rw [Value.leaves, if_neg (by simpa using none)]
        have more : ∀ put ∈ leavesOf entries, put.path ≠ [] := by
          intro put listed
          obtain ⟨name, steps, shape⟩ := exists_child_of_mem_leavesOf listed
          rw [shape]
          exact List.cons_ne_nil _ _
        rw [leaves, putAll_along_child name (leavesOf_ne_nil entries none) more,
          ← putAll_leavesOf_getD none, ← merge_eq_putAll entries, put, get?_eq_lookup]
  | .null | .boolean _ | .whole _ | .real _ | .text _ | .list _ => rfl

theorem merge_eq_putAll (entries : List (String × Value)) (target : Value) :
    target.merge entries = target.putAll (leavesOf entries) := by
  match entries with
  | [] => rw [merge_nil, leavesOf, putAll_nil]
  | (name, value) :: rest =>
      rw [merge_cons, leavesOf, putAll_append, ← put_eq_putAll value target name]
      exact merge_eq_putAll rest _

end

theorem putAt_eq_putAll {path : List Step} (some : path ≠ []) (named : path.all Step.isName = true)
    (target value : Value) :
    target.putAt path value = target.putAll (value.leaves.map (Put.along path)) := by
  induction path generalizing target with
  | nil => exact absurd rfl some
  | cons step rest ih =>
      cases step with
      | item => cases named
      | child name =>
          by_cases last : rest = []
          · subst last
            exact put_eq_putAll value target name
          · have along : Put.along (.child name :: rest) =
                Put.along [.child name] ∘ Put.along rest := rfl
            have more : ∀ put ∈ value.leaves.map (Put.along rest), put.path ≠ [] := by
              intro put listed
              obtain ⟨leaf, -, rfl⟩ := List.mem_map.mp listed
              exact List.append_ne_nil_of_left_ne_nil last _
            rw [putAt_child_cons target name last, ih last named, along, ← List.map_map,
              putAll_along_child name (by simpa using leaves_ne_nil value) more]

theorem putKey_eq_putAll (target : Value) (key : String) (value : Value) :
    target.putKey key value = target.putAll (putsAt (Key.path key) value) := by
  obtain ⟨name, steps, shape⟩ := Key.path_eq_cons key
  rw [putKey, putsAt]
  split
  · rename_i named
    exact putAt_eq_putAll (shape ▸ List.cons_ne_nil _ _) named target value
  · rfl

end Value

theorem withTable_eq_putAll (settings : Value) (entries : List (String × Value)) :
    withTable settings entries = settings.putAll (putsOf entries) := by
  induction entries generalizing settings with
  | nil => rfl
  | cons entry rest ih =>
      change withTable (settings.putKey entry.1 entry.2) rest = _
      rw [ih, Value.putKey_eq_putAll, ← Value.putAll_append]
      rfl

/-- What a file and the variables of an environment put. -/
def sourcePuts (file : List (String × Value)) (environment : List (String × String)) : List Put :=
  putsOf (file ++ variableEntries environment)

theorem gather_eq_putAll (file : List (String × Value)) (environment : List (String × String)) :
    gather file environment = (Value.table []).putAll (sourcePuts file environment) := by
  rw [gather_eq, ofFile, withTable_eq_putAll, sourcePuts]

/-! ## One place -/

/-- The last put that reaches a place gives it the value. -/
inductive LastPut (place : List Step) (value : Value) : List Put → Prop where
  | mk {before after : List Put} {path : List Step} :
      path.map Step.lowered = place.map Step.lowered →
      (∀ put ∈ after, parted put.path place = true) →
      LastPut place value (before ++ ⟨path, value⟩ :: after)

/-- The puts that are not made at a place itself. -/
def elsewhere (place : List Step) (puts : List Put) : List Put :=
  puts.filter fun put => put.path.map Step.lowered != place.map Step.lowered

theorem elsewhere_cons_of_eq {path place : List Step}
    (same : path.map Step.lowered = place.map Step.lowered) (value : Value) (rest : List Put) :
    elsewhere place (⟨path, value⟩ :: rest) = elsewhere place rest :=
  List.filter_cons_of_neg (by simp [same])

theorem elsewhere_cons_of_ne {path place : List Step}
    (differ : path.map Step.lowered ≠ place.map Step.lowered) (value : Value) (rest : List Put) :
    elsewhere place (⟨path, value⟩ :: rest) = ⟨path, value⟩ :: elsewhere place rest :=
  List.filter_cons_of_pos (bne_iff_ne.mpr differ)

theorem parted_congr {path place : List Step}
    (same : path.map Step.lowered = place.map Step.lowered) (other : List Step) :
    parted path other = parted place other := by
  induction path generalizing place other with
  | nil => rw [List.map_eq_nil_iff.mp same.symm]
  | cons step rest ih =>
      obtain ⟨stepToo, restToo, rfl, sameStep, sameRest⟩ := List.map_eq_cons_iff.mp same.symm
      match step, stepToo, other with
      | .child first, .child second, .child query :: other =>
          have name : Value.lowered second = Value.lowered first := Step.child.inj sameStep
          rw [parted, parted, name, ih sameRest.symm]
      | .child _, .child _, [] | .child _, .child _, .item _ :: _ => rfl
      | .item _, .item _, _ => rfl
      | .child _, .item _, _ | .item _, .child _, _ => cases sameStep

namespace Value

theorem findAt_putAt_self {value : Value} (whole : value.entries? = none) {path place : List Step}
    (same : path.map Step.lowered = place.map Step.lowered) (filled : place ≠ [])
    (named : place.all Step.isName = true) (target : Value) :
    (target.putAt path value).findAt place = some value := by
  induction place generalizing path target with
  | nil => exact absurd rfl filled
  | cons step rest ih =>
      obtain ⟨stepToo, restToo, rfl, sameStep, sameRest⟩ := List.map_eq_cons_iff.mp same
      match step, stepToo with
      | .child second, .child first =>
          have name : lowered second = lowered first := (Step.child.inj sameStep).symm
          rw [findAt_child_cons, name]
          by_cases last : rest = []
          · subst last
            rw [List.map_eq_nil_iff.mp sameRest]
            change ((target.put first value).get? (lowered first)).bind _ = _
            rw [get?_put_self target first whole]
            rfl
          · have more : restToo ≠ [] := by
              rintro rfl
              exact last (List.map_eq_nil_iff.mp sameRest.symm)
            rw [get?_putAt_self target first more]
            exact ih sameRest last named _
      | .item _, _ => cases named
      | .child _, .item _ => cases sameStep

theorem findAt_putAll_of_parted {place : List Step} {puts : List Put}
    (apart : ∀ put ∈ puts, parted put.path place = true) (target : Value) :
    (target.putAll puts).findAt place = target.findAt place := by
  induction puts generalizing target with
  | nil => rfl
  | cons put rest ih =>
      rw [putAll_cons, ih (fun other listed => apart other (List.mem_cons_of_mem _ listed)),
        findAt_putAt_of_parted (apart put List.mem_cons_self)]

theorem findAt_putAll_elsewhere {place : List Step} {names : List String}
    (apart : parted place (names.map .child) = true) (puts : List Put) {first second : Value}
    (same : first.findAt (names.map .child) = second.findAt (names.map .child)) :
    (first.putAll puts).findAt (names.map .child) =
      (second.putAll (elsewhere place puts)).findAt (names.map .child) := by
  induction puts generalizing first second with
  | nil => exact same
  | cons put rest ih =>
      obtain ⟨path, value⟩ := put
      rw [putAll_cons]
      -- Only the first row has the puts at the place, and they change nothing where a path parts.
      by_cases here : path.map Step.lowered = place.map Step.lowered
      · rw [elsewhere_cons_of_eq here]
        refine ih ?_
        rw [findAt_putAt_of_parted, same]
        rw [parted_congr here, apart]
      · rw [elsewhere_cons_of_ne here, putAll_cons]
        exact ih (findAt_putAt_congr path value same)

/-- At a place the last put counts. -/
theorem findAt_putAll_of_last {place : List Step} {value : Value} (whole : value.entries? = none)
    (filled : place ≠ []) (named : place.all Step.isName = true) {puts : List Put}
    (last : LastPut place value puts) (target : Value) :
    (target.putAll puts).findAt place = some value := by
  cases last with
  | @mk before after path same apart =>
      rw [putAll_append, putAll_cons, findAt_putAll_of_parted apart]
      exact findAt_putAt_self whole same filled named _

/-- Rows of puts that agree elsewhere lead to settings in which a path that parts from the place
finds the same. -/
theorem findAt_putAll_congr {place path : List Step} (named : path.all Step.isName = true)
    (apart : parted place path = true) {puts others : List Put}
    (alike : elsewhere place puts = elsewhere place others) (target : Value) :
    (target.putAll puts).findAt path = (target.putAll others).findAt path := by
  obtain ⟨names, rfl⟩ := exists_names_of_all_isName named
  rw [findAt_putAll_elsewhere apart puts rfl, alike, ← findAt_putAll_elsewhere apart others rfl]

end Value

end PeerMesh.Settings

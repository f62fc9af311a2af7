import HeapSampler.Subject.Interposer

/-!
# What the interposer is told

Four variables of the subject are about its interposer. Three of them are the caller's to set and have a default
otherwise; the fourth is set to the interposer itself, whatever it was. An environment is looked at through the
values of its names: setting a name changes no other (`Environment.get?_set`), and a default changes no name that has
a value (`Environment.get?_setDefault`). What is told of the environment is what the subject then finds in it, and
doing it all again with other defaults changes nothing (`install_installed`).
-/

namespace HeapSampler

/-! ## Setting variables -/

namespace Environment

theorem get?_set (e : Environment) (name value other : Bytes) :
    (e.set name value).get? other = if other = name then some value else e.get? other := by
  obtain ⟨vars⟩ := e
  simp only [set, get?]
  induction vars with
  | nil =>
    rw [put, List.lookup_cons, List.lookup_nil]
    by_cases same : other = name
    · rw [if_pos same, beq_iff_eq.2 same]
    · rw [if_neg same, beq_eq_false_iff_ne.2 same]
  | cons first rest ih =>
    obtain ⟨n, v⟩ := first
    rw [put]
    split
    next here =>
      subst here
      by_cases same : other = n
      · rw [List.lookup_cons, if_pos same, beq_iff_eq.2 same]
      · rw [List.lookup_cons, List.lookup_cons, if_neg same, beq_eq_false_iff_ne.2 same]
    next elsewhere =>
      rw [List.lookup_cons, List.lookup_cons, ih]
      by_cases same : other = n
      · subst same
        rw [if_neg elsewhere, if_neg elsewhere, beq_self_eq_true]
      · rw [beq_eq_false_iff_ne.2 same]

/-- Setting a name to the value that it has changes nothing, not even the order of the variables. -/
theorem set_of_get? {e : Environment} {name value : Bytes} (has : e.get? name = some value) :
    e.set name value = e := by
  obtain ⟨vars⟩ := e
  rw [set, mk.injEq]
  rw [get?] at has
  induction vars with
  | nil => cases has
  | cons first rest ih =>
    obtain ⟨n, v⟩ := first
    rw [List.lookup_cons] at has
    rw [put]
    split
    next here =>
      subst here
      rw [beq_self_eq_true] at has
      cases has
      rfl
    next elsewhere =>
      rw [beq_eq_false_iff_ne.2 (Ne.symm elsewhere)] at has
      rw [ih has]

theorem setDefault_of_get? {e : Environment} {name value : Bytes} (has : e.get? name = some value)
    (default : Bytes) : e.setDefault name default = (value, e) := by
  rw [setDefault, has]

/-- A default counts for its name only, and only where the name has no value. -/
theorem get?_setDefault (e : Environment) (name default other : Bytes) :
    (e.setDefault name default).2.get? other = (e.get? other).or (if other = name then some default else none) := by
  cases has : e.get? name with
  | some value =>
    rw [setDefault_of_get? has]
    split
    next here => rw [here, has, Option.some_or]
    next => rw [Option.or_none]
  | none =>
    rw [setDefault, has, get?_set]
    split
    next here => rw [here, has, Option.none_or]
    next => rw [Option.or_none]

/-- The value that is told is the value that is there. -/
theorem get?_setDefault_self (e : Environment) (name default : Bytes) :
    (e.setDefault name default).2.get? name = some (e.setDefault name default).1 := by
  cases has : e.get? name with
  | some value => rw [setDefault_of_get? has, has]
  | none => rw [setDefault, has, get?_set, if_pos rfl]

theorem get?_setDefault_of_get? {e : Environment} {other value : Bytes} (has : e.get? other = some value)
    (name default : Bytes) : (e.setDefault name default).2.get? other = some value := by
  rw [get?_setDefault, has, Option.some_or]

/-- The environment with several defaults, one after the other. -/
def setDefaults (e : Environment) (defaults : List (Bytes × Bytes)) : Environment :=
  defaults.foldl (fun e own => (e.setDefault own.1 own.2).2) e

theorem get?_setDefaults (e : Environment) (defaults : List (Bytes × Bytes)) (name : Bytes) :
    (e.setDefaults defaults).get? name = (e.get? name).or (defaults.lookup name) := by
  induction defaults generalizing e with
  | nil => rw [setDefaults, List.foldl_nil, List.lookup_nil, Option.or_none]
  | cons own rest ih =>
    rw [setDefaults, List.foldl_cons, ← setDefaults, ih, get?_setDefault, Option.or_assoc, List.lookup_cons]
    by_cases same : name = own.1
    · rw [if_pos same, beq_iff_eq.2 same, Option.some_or]
    · rw [if_neg same, beq_eq_false_iff_ne.2 same, Option.none_or]

theorem setDefaults_of_get? {e : Environment} {defaults : List (Bytes × Bytes)}
    (defined : ∀ own ∈ defaults, (e.get? own.1).isSome) : e.setDefaults defaults = e := by
  induction defaults with
  | nil => rfl
  | cons own rest ih =>
    obtain ⟨value, has⟩ := Option.isSome_iff_exists.1 (defined own List.mem_cons_self)
    rw [setDefaults, List.foldl_cons, setDefault_of_get? has, ← setDefaults]
    exact ih fun other found => defined other (List.mem_cons_of_mem own found)

end Environment

namespace Interposer

variable {env after : Environment} {library outputDir : Path} {s : SubjectSettings} {told other : Interposer}

/-! ## The variables of the interposer -/

/-- The names of the variables that are the caller's to set. -/
def callerVariables : List Bytes :=
  [outfileVariable, depthVariable, shiftVariable]

/-- The values that the caller's variables have otherwise. -/
def defaults (outputDir : Path) (s : SubjectSettings) : List (Bytes × Bytes) :=
  [(outfileVariable, (outputDir / s.outfileTemplate).bytes),
    (depthVariable, Bytes.ofString (Decimal.text s.depth.toNat)),
    (shiftVariable, Bytes.ofString (Decimal.text s.shift.toNat))]

/-- What is told is what the interposer finds in the environment, as text. -/
structure Faithful (told : Interposer) (library : Path) (e : Environment) : Prop where
  loaded : told.library = library
  outfile : (e.get? outfileVariable).map Bytes.lossyText = some told.outfile
  depth : (e.get? depthVariable).map Bytes.lossyText = some told.depth
  shift : (e.get? shiftVariable).map Bytes.lossyText = some told.shift

/-- What becomes of an environment, and what is told of it. -/
structure Installed (env : Environment) (library outputDir : Path) (s : SubjectSettings) (told : Interposer)
    (after : Environment) : Prop where
  /-- No other variable is touched. -/
  others : ∀ name ∉ callerVariables, name ≠ preloadVariable → after.get? name = env.get? name
  /-- What the caller has set is kept, whatever bytes it is; the rest has its default. -/
  caller : ∀ own ∈ defaults outputDir s, after.get? own.1 = some ((env.get? own.1).getD own.2)
  /-- The interposer is loaded first, whatever the caller wanted. -/
  preload : after.get? preloadVariable = some library.bytes
  faithful : Faithful told library after
  /-- A second time nothing changes, with whatever directory and settings. -/
  again : ∀ otherDir otherSettings, install after library otherDir otherSettings = (told, after)

theorem variables_nodup : (preloadVariable :: callerVariables).Nodup := by
  decide +kernel

theorem Faithful.unique {e : Environment} (first : Faithful told library e) (second : Faithful other library e) :
    told = other := by
  obtain ⟨l, o, d, s⟩ := told
  obtain ⟨l', o', d', s'⟩ := other
  obtain rfl : l = l' := first.loaded.trans second.loaded.symm
  obtain rfl : o = o' := Option.some.inj (first.outfile.symm.trans second.outfile)
  obtain rfl : d = d' := Option.some.inj (first.depth.symm.trans second.depth)
  obtain rfl : s = s' := Option.some.inj (first.shift.symm.trans second.shift)
  rfl

/-! ## Installing it -/

theorem install_environment (env : Environment) (library outputDir : Path) (s : SubjectSettings) :
    (install env library outputDir s).2 =
      (env.setDefaults (defaults outputDir s)).set preloadVariable library.bytes :=
  rfl

theorem get?_install {name : Bytes} (own : name ≠ preloadVariable) :
    (install env library outputDir s).2.get? name = (env.get? name).or ((defaults outputDir s).lookup name) := by
  rw [install_environment, Environment.get?_set, if_neg own, Environment.get?_setDefaults]

theorem defaults_names (outputDir : Path) (s : SubjectSettings) :
    (defaults outputDir s).map Prod.fst = callerVariables :=
  rfl

theorem mem_callerVariables {own : Bytes × Bytes} (found : own ∈ defaults outputDir s) : own.1 ∈ callerVariables :=
  defaults_names outputDir s ▸ List.mem_map_of_mem found

/-- Each default is the one that counts: no name is listed twice. -/
theorem lookup_defaults {own : Bytes × Bytes} (found : own ∈ defaults outputDir s) :
    (defaults outputDir s).lookup own.1 = some own.2 := by
  have distinct := (List.nodup_cons.1 variables_nodup).2
  obtain ⟨front, behind, split⟩ := List.append_of_mem found
  refine List.lookup_eq_some_iff.2 ⟨front, behind, split, fun other before => bne_iff_ne.2 fun same => ?_⟩
  have names : callerVariables = front.map Prod.fst ++ own.1 :: behind.map Prod.fst := by
    rw [← List.map_cons, ← List.map_append, ← split, defaults_names]
  rw [names, List.nodup_append] at distinct
  exact distinct.2.2 other.1 (List.mem_map_of_mem before) own.1 List.mem_cons_self same.symm

theorem ne_preload {name : Bytes} (caller : name ∈ callerVariables) : name ≠ preloadVariable := by
  rintro rfl
  exact (List.nodup_cons.1 variables_nodup).1 caller

theorem told_of_get? {e : Environment} {name value : Bytes} (caller : name ∈ callerVariables)
    (has : e.get? name = some value) (library : Path) :
    ((e.set preloadVariable library.bytes).get? name).map Bytes.lossyText = some value.lossyText := by
  rw [Environment.get?_set, if_neg (ne_preload caller), has, Option.map_some]

/-- Each value is told when its variable has been set, and no later step changes the variable. -/
theorem install_faithful (env : Environment) (library outputDir : Path) (s : SubjectSettings) :
    Faithful (install env library outputDir s).1 library (install env library outputDir s).2 := by
  constructor
  case loaded => rfl
  case outfile =>
    apply told_of_get? (List.mem_cons_self ..)
    apply Environment.get?_setDefault_of_get?
    apply Environment.get?_setDefault_of_get?
    apply Environment.get?_setDefault_self
  case depth =>
    apply told_of_get? (List.mem_cons_of_mem _ (List.mem_cons_self ..))
    apply Environment.get?_setDefault_of_get?
    apply Environment.get?_setDefault_self
  case shift =>
    apply told_of_get? (List.mem_cons_of_mem _ (List.mem_cons_of_mem _ (List.mem_cons_self ..)))
    apply Environment.get?_setDefault_self

/-- **The caller's values are kept, the rest has its defaults, and what is told is what the subject finds.** -/
theorem install_installed (env : Environment) (library outputDir : Path) (s : SubjectSettings) :
    Installed env library outputDir s (install env library outputDir s).1 (install env library outputDir s).2 := by
  have caller : ∀ own ∈ defaults outputDir s,
      (install env library outputDir s).2.get? own.1 = some ((env.get? own.1).getD own.2) := by
    intro own found
    rw [get?_install (ne_preload (mem_callerVariables found)), lookup_defaults found, Option.or_some]
  have preload : (install env library outputDir s).2.get? preloadVariable = some library.bytes := by
    rw [install_environment, Environment.get?_set, if_pos rfl]
  constructor
  case others =>
    intro name unowned own
    have noDefault : (defaults outputDir s).lookup name = none := by
      refine List.lookup_eq_none_iff.2 fun other found => bne_iff_ne.2 ?_
      rintro rfl
      exact unowned (mem_callerVariables found)
    rw [get?_install own, noDefault, Option.or_none]
  case caller => exact caller
  case preload => exact preload
  case faithful => exact install_faithful env library outputDir s
  case again =>
    intro otherDir otherSettings
    have unchanged : (install (install env library outputDir s).2 library otherDir otherSettings).2 =
        (install env library outputDir s).2 := by
      rw [install_environment, Environment.setDefaults_of_get?, Environment.set_of_get? preload]
      intro own found
      obtain ⟨first, listed, same⟩ := List.mem_map.1 (defaults_names outputDir s ▸ mem_callerVariables found)
      rw [← same, caller first listed, Option.isSome_some]
    have same := install_faithful (install env library outputDir s).2 library otherDir otherSettings
    rw [unchanged] at same
    exact Prod.ext (same.unique (install_faithful env library outputDir s)) unchanged

end Interposer

end HeapSampler

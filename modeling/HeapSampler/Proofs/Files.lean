import HeapSampler.Host.FileTree

/-!
# Files that were written

A node that is put into a tree takes the place of a file or of nothing. The way to it leads through
directories only, so it is still the same way afterwards, and what was written to a file is read back
(`read_write`).
-/

namespace HeapSampler.FileTree

variable {t t' : FileTree} {name : Bytes} {parent here next : Location} {n : Node}
  {hl : t.nodes.lookup (name :: parent) ≠ some .directory} {hp : parent = [] ∨ t.nodes.lookup parent = some .directory}

theorem node?_put (l : Location) :
    (t.put name parent n hl hp).node? l = if l = name :: parent then some n else t.node? l := by
  cases l with
  | nil => rfl
  | cons last rest =>
    have looked : (t.put name parent n hl hp).node? (last :: rest) =
        ((name :: parent, n) :: t.nodes.filter fun p => p.1 != name :: parent).lookup (last :: rest) := rfl
    rw [looked, List.lookup_cons]
    by_cases same : last :: rest = name :: parent
    · rw [if_pos same, same, beq_self_eq_true]
    · rw [if_neg same, beq_eq_false_iff_ne.2 same]
      simp only
      rw [lookup_filter t.nodes (· != name :: parent), if_pos (by simpa using same)]
      rfl

theorem node?_put_directory (directory : t.node? here = some .directory) :
    (t.put name parent n hl hp).node? here = some .directory := by
  rw [node?_put, if_neg, directory]
  rintro rfl
  exact hl directory

theorem node?_put_isSome (there : (t.node? here).isSome) : ((t.put name parent n hl hp).node? here).isSome := by
  rw [node?_put]
  by_cases same : here = name :: parent
  · rw [if_pos same]
    rfl
  · rwa [if_neg same]

theorem checkStep_eq_ok {via : Bytes} :
    t.checkStep here via = .ok () ↔ t.node? here = some .directory ∧ via.length ≤ maxName := by
  unfold checkStep
  rcases t.node? here with _ | (_ | content)
  · simp
  · by_cases long : via.length > maxName
    · simp [if_pos long, Nat.not_le.2 long]
    · simp [if_neg long, Nat.not_lt.1 long]
  · simp

/-- Where a name leads: it is one of the two that every directory has, or names something in it. -/
theorem step_eq_ok {via : Bytes} :
    t.step here via = .ok next ↔ t.checkStep here via = .ok () ∧
      if via = Path.dot then next = here
      else if via = Path.dotDot then next = here.tail
      else (t.node? (via :: here)).isSome ∧ next = via :: here := by
  unfold step
  cases t.checkStep here via with
  | error e => simp [bind, Except.bind]
  | ok =>
    have goes (l : Location) : (pure l : Except IoError Location) = .ok next ↔ next = l := by
      simp [pure, Except.pure, eq_comm]
    simp only [bind, Except.bind, true_and]
    by_cases dot : via = Path.dot
    · rw [if_pos dot, if_pos dot, goes]
    by_cases dotDot : via = Path.dotDot
    · rw [if_neg dot, if_pos dotDot, if_neg dot, if_pos dotDot, goes]
    rw [if_neg dot, if_neg dotDot, if_neg dot, if_neg dotDot]
    by_cases there : (t.node? (via :: here)).isSome
    · rw [if_pos there, goes, and_iff_right there]
    · simp [there, throw, throwThe, MonadExceptOf.throw]

/-- No way through a tree is lost: directories stay, and wherever there was something, something is. -/
structure Keeps (t t' : FileTree) : Prop where
  start : t'.workingDir = t.workingDir
  directories : ∀ l, t.node? l = some .directory → t'.node? l = some .directory
  nodes : ∀ l, (t.node? l).isSome → (t'.node? l).isSome

theorem Keeps.put : Keeps t (t.put name parent n hl hp) :=
  ⟨rfl, fun _ => node?_put_directory, fun _ => node?_put_isSome⟩

/-- A name that leads somewhere leads there still. -/
theorem step_keeps {via : Bytes} (keeps : Keeps t t') (stepped : t.step here via = .ok next) :
    t'.step here via = .ok next := by
  rw [step_eq_ok, checkStep_eq_ok] at stepped ⊢
  obtain ⟨⟨directory, short⟩, leads⟩ := stepped
  refine ⟨⟨keeps.directories here directory, short⟩, ?_⟩
  by_cases dot : via = Path.dot
  · rwa [if_pos dot] at leads ⊢
  by_cases dotDot : via = Path.dotDot
  · rwa [if_neg dot, if_pos dotDot] at leads ⊢
  rw [if_neg dot, if_neg dotDot] at leads ⊢
  exact ⟨keeps.nodes (via :: here) leads.1, leads.2⟩

theorem walk_keeps {names : List Bytes} (keeps : Keeps t t') (walked : names.foldlM t.step here = .ok next) :
    names.foldlM t'.step here = .ok next := by
  induction names generalizing here with
  | nil => exact walked
  | cons via names ih =>
    rw [List.foldlM_cons] at walked ⊢
    cases stepped : t.step here via with
    | error e =>
      rw [stepped] at walked
      cases walked
    | ok middle =>
      rw [stepped] at walked
      rw [step_keeps keeps stepped]
      exact ih walked

theorem locate_keeps {p : Path} (keeps : Keeps t t') (located : t.locate p = .ok here) : t'.locate p = .ok here := by
  rw [locate, FileTree.start] at located ⊢
  rw [keeps.start]
  cases checked : checkPath p with
  | error e =>
    rw [checked] at located
    cases located
  | ok =>
    rw [checked] at located
    exact walk_keeps keeps located

theorem bind_eq_ok {ε α β : Type} {x : Except ε α} {f : α → Except ε β} {b : β} :
    (x >>= f) = .ok b ↔ ∃ a, x = .ok a ∧ f a = .ok b := by
  cases x with
  | error e => simp [bind, Except.bind]
  | ok a => simp [bind, Except.bind]

/-- The way to what a path names: its names lead to a directory, in which its last is a name of its own. -/
structure Targets (t : FileTree) (p : Path) (name : Bytes) (parent : Location) : Prop where
  checked : checkPath p = .ok ()
  walked : p.names.dropLast.foldlM t.step (t.start p) = .ok parent
  last : p.names.getLast? = some name
  looked : t.checkStep parent name = .ok ()
  noDot : name ≠ Path.dot
  noDotDot : name ≠ Path.dotDot

theorem locateParent_eq_ok {p : Path} {last : Option Bytes} : t.locateParent p = .ok (parent, last) ↔
    checkPath p = .ok () ∧ p.names.dropLast.foldlM t.step (t.start p) = .ok parent ∧ last = p.names.getLast? := by
  rw [locateParent, bind_eq_ok]
  simp only [bind_eq_ok, pure, Except.pure, Except.ok.injEq, Prod.mk.injEq]
  constructor
  · rintro ⟨⟨⟩, checked, _, walked, rfl, rfl⟩
    exact ⟨checked, walked, rfl⟩
  · rintro ⟨checked, walked, rfl⟩
    exact ⟨(), checked, parent, walked, rfl, rfl⟩

/-- The way to a path is still the way to it when something else was put into the tree. -/
theorem Targets.put {p : Path} {last : Bytes} {inside : Location}
    {hl : t.nodes.lookup (last :: inside) ≠ some .directory}
    {hp : inside = [] ∨ t.nodes.lookup inside = some .directory} (targets : Targets t p name parent) :
    Targets (t.put last inside n hl hp) p name parent where
  checked := targets.checked
  walked := walk_keeps .put targets.walked
  last := targets.last
  looked := by
    obtain ⟨directory, short⟩ := checkStep_eq_ok.1 targets.looked
    exact checkStep_eq_ok.2 ⟨node?_put_directory directory, short⟩
  noDot := targets.noDot
  noDotDot := targets.noDotDot

theorem Targets.locate_eq {p : Path} (targets : Targets t p name parent)
    (there : (t.node? (name :: parent)).isSome) : t.locate p = .ok (name :: parent) := by
  have stepped : t.step parent name = .ok (name :: parent) := by
    rw [step_eq_ok, if_neg targets.noDot, if_neg targets.noDotDot]
    exact ⟨targets.looked, there, rfl⟩
  obtain ⟨earlier, names⟩ := List.getLast?_eq_some_iff.1 targets.last
  have walked := targets.walked
  rw [names, List.dropLast_concat] at walked
  rw [locate, targets.checked, names, List.foldlM_append]
  simp only [bind, Except.bind, walked, List.foldlM_cons, List.foldlM_nil, stepped]
  rfl

/-- A file is written at the end of its path, and not over a directory. -/
theorem write_puts {p : Path} {content : Bytes} (wrote : t.write p content = .ok t') :
    ∃ name parent, Targets t p name parent ∧ p.endsInSlash = false ∧
      ∃ hl hp, t' = t.put name parent (.file content) hl hp := by
  obtain ⟨⟨parent, last⟩, located, wrote⟩ := bind_eq_ok.1 wrote
  obtain ⟨checked, walked, rfl⟩ := locateParent_eq_ok.1 located
  cases last : p.names.getLast? with
  | none =>
    rw [last] at wrote
    cases wrote
  | some name =>
    rw [last] at wrote
    obtain ⟨⟨⟩, looked, wrote⟩ := bind_eq_ok.1 wrote
    by_cases special : p.endsInSlash = true ∨ name = Path.dot ∨ name = Path.dotDot
    · rw [if_pos special] at wrote
      cases wrote
    rw [if_neg special] at wrote
    rw [not_or, not_or, Bool.not_eq_true] at special
    by_cases hl : t.nodes.lookup (name :: parent) = some .directory
    · rw [dif_pos hl] at wrote
      cases wrote
    rw [dif_neg hl] at wrote
    by_cases hp : parent = [] ∨ t.nodes.lookup parent = some .directory
    · rw [dif_pos hp] at wrote
      cases wrote
      exact ⟨name, parent, ⟨checked, walked, last, looked, special.2.1, special.2.2⟩, special.1, hl, hp, rfl⟩
    · rw [dif_neg hp] at wrote
      cases wrote

/-- What is written to a file is read back from it. -/
theorem read_write {p : Path} {content : Bytes} (wrote : t.write p content = .ok t') : t'.read p = .ok content := by
  obtain ⟨name, parent, targets, noSlash, hl, hp, rfl⟩ := write_puts wrote
  have here : (t.put name parent (.file content) hl hp).node? (name :: parent) = some (.file content) := by
    rw [node?_put, if_pos rfl]
  have located := targets.put.locate_eq (Option.isSome_of_eq_some here)
  rw [read, find, located]
  simp only [bind, Except.bind, here, noSlash]
  rfl

/-- A file can be written where the way leads to a name that is no directory. -/
theorem Targets.write_eq {p : Path} {content : Bytes} (targets : Targets t p name parent)
    (noSlash : p.endsInSlash = false) (hl : t.nodes.lookup (name :: parent) ≠ some .directory)
    (hp : parent = [] ∨ t.nodes.lookup parent = some .directory) :
    t.write p content = .ok (t.put name parent (.file content) hl hp) := by
  have located : t.locateParent p = .ok (parent, some name) :=
    locateParent_eq_ok.2 ⟨targets.checked, targets.walked, targets.last.symm⟩
  have special : ¬(p.endsInSlash = true ∨ name = Path.dot ∨ name = Path.dotDot) := by
    simp [noSlash, targets.noDot, targets.noDotDot]
  rw [write, located]
  simp only [bind, Except.bind, targets.looked, if_neg special, dif_neg hl, dif_pos hp]
  rfl

/-- Whatever can be written to a file, anything else can be. -/
theorem write_other {p : Path} {content : Bytes} (wrote : t.write p content = .ok t') (other : Bytes) :
    ∃ t'', t.write p other = .ok t'' := by
  obtain ⟨name, parent, targets, noSlash, hl, hp, -⟩ := write_puts wrote
  exact ⟨_, targets.write_eq noSlash hl hp⟩

/-- Where a file was written, one can be written again. -/
theorem write_again {p : Path} {content : Bytes} (wrote : t.write p content = .ok t') (other : Bytes) :
    ∃ t'', t'.write p other = .ok t'' := by
  obtain ⟨name, parent, targets, noSlash, hl, hp, rfl⟩ := write_puts wrote
  have still : Targets (t.put name parent (.file content) hl hp) p name parent := targets.put
  have file : (t.put name parent (.file content) hl hp).node? (name :: parent) = some (.file content) := by
    rw [node?_put, if_pos rfl]
  have noDirectory : (t.put name parent (.file content) hl hp).nodes.lookup (name :: parent) ≠ some .directory := by
    intro directory
    cases file.symm.trans directory
  have inside : parent = [] ∨ (t.put name parent (.file content) hl hp).nodes.lookup parent = some .directory := by
    have directory := (checkStep_eq_ok.1 still.looked).1
    cases parent with
    | nil => exact .inl rfl
    | cons last rest => exact .inr directory
  exact ⟨_, still.write_eq noSlash noDirectory inside⟩

end HeapSampler.FileTree

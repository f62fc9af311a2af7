import HeapSampler.Proofs.Files

/-!
# Where paths lead

A path leads through directories only, so where it leads can be told from its names (`place`), in whatever
tree. What a change leaves alone is told by location: files are kept by everything but being written to, and
a directory that is made can be removed as if it had never been there (`removeDir_createDir`).
-/

namespace HeapSampler.FileTree

variable {t t' u : FileTree} {p : Path} {name via : Bytes} {parent here next l : Location} {content : Bytes}

/-! ## Names, one after another -/

/-- Where a name leads from a location, if it leads anywhere. -/
def follow (here : Location) (name : Bytes) : Location :=
  if name = Path.dot then here else if name = Path.dotDot then here.tail else name :: here

theorem follow_dot (here : Location) : follow here Path.dot = here := if_pos rfl

theorem follow_dotDot (here : Location) : follow here Path.dotDot = here.tail := by
  rw [follow, if_neg (by decide), if_pos rfl]

theorem follow_name (here : Location) (dot : name ≠ Path.dot) (dotDot : name ≠ Path.dotDot) :
    follow here name = name :: here := by
  rw [follow, if_neg dot, if_neg dotDot]

/-- Where a path leads, if it leads anywhere. -/
def place (t : FileTree) (p : Path) : Location :=
  p.names.foldl follow (t.start p)

theorem step_follows (stepped : t.step here via = .ok next) : next = follow here via := by
  have leads := (step_eq_ok.1 stepped).2
  unfold follow
  by_cases dot : via = Path.dot
  · rwa [if_pos dot] at leads ⊢
  by_cases dotDot : via = Path.dotDot
  · rwa [if_neg dot, if_pos dotDot] at leads ⊢
  rw [if_neg dot, if_neg dotDot] at leads ⊢
  exact leads.2

theorem walk_follows {names : List Bytes} (walked : names.foldlM t.step here = .ok next) :
    next = names.foldl follow here := by
  induction names generalizing here with
  | nil =>
    cases walked
    rfl
  | cons via names ih =>
    rw [List.foldlM_cons] at walked
    obtain ⟨middle, stepped, walked⟩ := bind_eq_ok.1 walked
    rw [List.foldl_cons, ← step_follows stepped]
    exact ih walked

theorem Targets.place_eq (targets : Targets t p name parent) : t.place p = name :: parent := by
  obtain ⟨earlier, names⟩ := List.getLast?_eq_some_iff.1 targets.last
  have walked := targets.walked
  rw [names, List.dropLast_concat] at walked
  rw [place, names, List.foldl_append, ← walk_follows walked, List.foldl_cons, List.foldl_nil,
    follow_name parent targets.noDot targets.noDotDot]

/-! ## Directories -/

/-- A directory is made where there was nothing. -/
theorem createDir_makes (made : t.createDir p = .ok t') : ∃ name parent, Targets t p name parent ∧
    t.node? (name :: parent) = none ∧ ∃ hl hp, t' = t.put name parent .directory hl hp := by
  obtain ⟨⟨parent, last⟩, located, made⟩ := bind_eq_ok.1 made
  obtain ⟨checked, walked, last⟩ := locateParent_eq_ok.1 located
  cases last' : p.names.getLast? with
  | none =>
    rw [last, last'] at made
    cases made
  | some name =>
    rw [last, last'] at made
    obtain ⟨⟨⟩, looked, made⟩ := bind_eq_ok.1 made
    by_cases special : name = Path.dot ∨ name = Path.dotDot
    · rw [if_pos special] at made
      cases made
    rw [if_neg special] at made
    rw [not_or] at special
    by_cases hl : t.nodes.lookup (name :: parent) = none
    · rw [dif_pos hl] at made
      by_cases hp : parent = [] ∨ t.nodes.lookup parent = some .directory
      · rw [dif_pos hp] at made
        cases made
        exact ⟨name, parent, ⟨checked, walked, last', looked, special.1, special.2⟩, hl, _, hp, rfl⟩
      · rw [dif_neg hp] at made
        cases made
    · rw [dif_neg hl] at made
      cases made

/-- A directory is removed in which there is nothing. -/
theorem removeDir_eq_ok : t.removeDir p = .ok t' ↔ ∃ name parent, Targets t p name parent ∧
    t.node? (name :: parent) = some .directory ∧ ∃ h, t' = t.drop (name :: parent) h := by
  constructor
  · intro removed
    obtain ⟨⟨parent, last⟩, located, removed⟩ := bind_eq_ok.1 removed
    obtain ⟨checked, walked, last⟩ := locateParent_eq_ok.1 located
    cases last' : p.names.getLast? with
    | none =>
      rw [last, last'] at removed
      cases removed
    | some name =>
      rw [last, last'] at removed
      obtain ⟨⟨⟩, looked, removed⟩ := bind_eq_ok.1 removed
      by_cases dot : name = Path.dot
      · rw [if_pos dot] at removed
        cases removed
      by_cases dotDot : name = Path.dotDot
      · rw [if_neg dot, if_pos dotDot] at removed
        cases removed
      rw [if_neg dot, if_neg dotDot] at removed
      rcases there : t.node? (name :: parent) with _ | (_ | content) <;> rw [there] at removed
      · cases removed
      · by_cases bare : t.hasEntries (name :: parent) = false
        · simp only [dif_pos bare] at removed
          cases removed
          exact ⟨name, parent, ⟨checked, walked, last', looked, dot, dotDot⟩, there, bare, rfl⟩
        · simp only [dif_neg bare] at removed
          cases removed
      · cases removed
  · rintro ⟨name, parent, targets, there, bare, rfl⟩
    have located : t.locateParent p = .ok (parent, some name) :=
      locateParent_eq_ok.2 ⟨targets.checked, targets.walked, targets.last.symm⟩
    rw [removeDir, located]
    simp only [bind, Except.bind, targets.looked, if_neg targets.noDot, if_neg targets.noDotDot, there]
    rw [dif_pos bare]
    rfl

theorem node?_drop {h : t.hasEntries here = false} (named : here ≠ []) (l : Location) :
    (t.drop here h).node? l = if l = here then none else t.node? l := by
  cases l with
  | nil => rw [if_neg named.symm]; rfl
  | cons last rest =>
    have looked : (t.drop here h).node? (last :: rest) =
        (t.nodes.filter fun p => p.1 != here).lookup (last :: rest) := rfl
    rw [looked, lookup_filter t.nodes (· != here)]
    by_cases same : last :: rest = here
    · rw [if_neg (by simpa using same), if_pos same]
    · rw [if_pos (by simpa using same), if_neg same]
      rfl

theorem mem_of_node? {n : Node} (named : l ≠ []) (there : t.node? l = some n) : (l, n) ∈ t.nodes := by
  cases l with
  | nil => exact absurd rfl named
  | cons last rest =>
    obtain ⟨before, after, nodes, -⟩ := List.lookup_eq_some_iff.1 there
    rw [nodes]
    exact List.mem_append_right before List.mem_cons_self

/-- Whatever has something in it is a directory. -/
theorem directory_of_entry {n : Node} (there : t.node? (name :: l) = some n) : t.node? l = some .directory := by
  obtain ⟨last, rest, same, directory⟩ := t.rooted _ (mem_of_node? (List.cons_ne_nil _ _) there)
  cases same
  rcases directory with rfl | directory
  · rfl
  · cases l with
    | nil => rfl
    | cons last rest => exact directory

/-- A directory that was made can be removed as if it had never been there. -/
theorem removeDir_createDir (made : t.createDir p = .ok t') : t'.removeDir p = .ok t := by
  obtain ⟨name, parent, targets, absent, hl, hp, rfl⟩ := createDir_makes made
  have fresh : ∀ q ∈ t.nodes, q.1 ≠ name :: parent := by
    intro q found same
    have missed := List.lookup_eq_none_iff.1 absent q found
    simp [same] at missed
  have kept : t.nodes.filter (fun q => q.1 != name :: parent) = t.nodes :=
    List.filter_eq_self.2 fun q found => bne_iff_ne.2 (fresh q found)
  have bare : (t.put name parent .directory hl hp).hasEntries (name :: parent) = false := by
    refine List.any_eq_false.2 fun q found inside => ?_
    rcases List.mem_cons.1 found with rfl | found
    · simp at inside
    · rcases place : q.1 with _ | ⟨last, here⟩ <;> rw [place] at inside
      · cases inside
      · exact parent_ne t.rooted (List.cons_ne_nil _ _) hl (List.mem_filter.1 found).1 place (eq_of_beq inside)
  refine removeDir_eq_ok.2 ⟨name, parent, targets.put, by rw [node?_put, if_pos rfl], bare, ?_⟩
  have same : ((name :: parent, Node.directory) :: t.nodes.filter fun q => q.1 != name :: parent).filter
      (fun q => q.1 != name :: parent) = t.nodes := by
    rw [List.filter_cons_of_neg (by simp), List.filter_filter]
    simp only [Bool.and_self]
    exact kept
  cases t
  simp only [drop, put, FileTree.mk.injEq, and_true]
  exact same.symm

/-! ## Directories that are there -/

theorem isDir_iff : t.isDir p = true ↔ ∃ l, t.locate p = .ok l ∧ t.node? l = some .directory := by
  rw [isDir, find]
  cases located : t.locate p with
  | error e => simp [bind, Except.bind]
  | ok l =>
    rcases there : t.node? l with _ | (_ | content) <;> simp only [bind, Except.bind, there]
    · simp [throw, throwThe, MonadExceptOf.throw, there]
    · simp [pure, Except.pure, there]
    · by_cases slash : p.endsInSlash <;> simp [slash, throw, throwThe, MonadExceptOf.throw, pure, Except.pure, there]

theorem isDir_createDir (made : t.createDir p = .ok t') : t'.isDir p = true := by
  obtain ⟨name, parent, targets, absent, hl, hp, rfl⟩ := createDir_makes made
  have here : (t.put name parent .directory hl hp).node? (name :: parent) = some .directory := by
    rw [node?_put, if_pos rfl]
  exact isDir_iff.2 ⟨_, targets.put.locate_eq (Option.isSome_of_eq_some here), here⟩

theorem isDir_keeps (keeps : Keeps t t') (there : t.isDir p = true) : t'.isDir p = true := by
  obtain ⟨l, located, directory⟩ := isDir_iff.1 there
  exact isDir_iff.2 ⟨l, locate_keeps keeps located, keeps.directories l directory⟩

/-- The last step of a way that leads somewhere is a name in the directory before, unless it ends where it starts. -/
theorem locateParent_of_locate (located : t.locate p = .ok l) : t.locateParent p = .ok (t.start p, none) ∨
    ∃ name parent, t.locateParent p = .ok (parent, some name) ∧ t.step parent name = .ok l := by
  obtain ⟨⟨⟩, checked, walked⟩ := bind_eq_ok.1 located
  rcases List.eq_nil_or_concat p.names with empty | ⟨earlier, name, names⟩
  · refine .inl (locateParent_eq_ok.2 ⟨checked, ?_, ?_⟩)
    · rw [empty]
      rfl
    · rw [empty]
      rfl
  · rw [List.concat_eq_append] at names
    rw [names, List.foldlM_append] at walked
    obtain ⟨parent, walked, last⟩ := bind_eq_ok.1 walked
    obtain ⟨next, stepped, ended⟩ := bind_eq_ok.1 last
    cases ended
    refine .inr ⟨name, parent, locateParent_eq_ok.2 ⟨checked, ?_, ?_⟩, stepped⟩
    · rwa [names, List.dropLast_concat]
    · rw [names, List.getLast?_concat]

/-- A directory that is there cannot be made, and that is the reason which the system gives. -/
theorem createDir_of_isDir (there : t.isDir p = true) : t.createDir p = .error (.system .alreadyExists) := by
  obtain ⟨l, located, -⟩ := isDir_iff.1 there
  obtain root | ⟨name, parent, parted, stepped⟩ := locateParent_of_locate located
  · rw [createDir, root]
    rfl
  · obtain ⟨looked, leads⟩ := step_eq_ok.1 stepped
    rw [createDir, parted]
    simp only [bind, Except.bind, looked]
    by_cases special : name = Path.dot ∨ name = Path.dotDot
    · rw [if_pos special]
      rfl
    · rw [if_neg special]
      rw [not_or] at special
      rw [if_neg special.1, if_neg special.2] at leads
      have present : t.nodes.lookup (name :: parent) ≠ none := Option.isSome_iff_ne_none.1 leads.1
      rw [dif_neg present]
      rfl

/-! ## What is left alone -/

/-- What some changes leave alone. No file is lost by them, and none is changed or made but in the written
places; no directory is lost but in the cleared ones. -/
structure Spares (written cleared : List Location) (t t' : FileTree) : Prop where
  start : t'.workingDir = t.workingDir
  files : ∀ l content, t.node? l = some (.file content) → ∃ content', t'.node? l = some (.file content')
  same : ∀ l ∉ written, ∀ content, t'.node? l = some (.file content) ↔ t.node? l = some (.file content)
  directories : ∀ l ∉ cleared, t.node? l = some .directory → t'.node? l = some .directory

namespace Spares

variable {written cleared : List Location}

theorem refl (t : FileTree) : Spares written cleared t t :=
  ⟨rfl, fun _ content there => ⟨content, there⟩, fun _ _ _ => Iff.rfl, fun _ _ there => there⟩

theorem trans (first : Spares written cleared t t') (second : Spares written cleared t' u) :
    Spares written cleared t u where
  start := second.start.trans first.start
  files l content there := by
    obtain ⟨content', still⟩ := first.files l content there
    exact second.files l content' still
  same l other content := (second.same l other content).trans (first.same l other content)
  directories l other there := second.directories l other (first.directories l other there)

theorem place_eq (spares : Spares written cleared t t') (p : Path) : t'.place p = t.place p := by
  rw [place, place, FileTree.start, FileTree.start, spares.start]

theorem createDir (made : t.createDir p = .ok t') : Spares written cleared t t' := by
  obtain ⟨name, parent, targets, absent, hl, hp, rfl⟩ := createDir_makes made
  have same (l : Location) (content : Bytes) :
      (t.put name parent .directory hl hp).node? l = some (.file content) ↔ t.node? l = some (.file content) := by
    rw [node?_put]
    by_cases here : l = name :: parent
    · simp [here, absent]
    · rw [if_neg here]
  exact ⟨rfl, fun l content there => ⟨content, (same l content).2 there⟩, fun l _ => same l,
    fun l _ there => node?_put_directory there⟩

theorem write (wrote : t.write p content = .ok t') (named : t.place p ∈ written) : Spares written cleared t t' := by
  obtain ⟨name, parent, targets, noSlash, hl, hp, rfl⟩ := write_puts wrote
  rw [targets.place_eq] at named
  refine ⟨rfl, fun l content' there => ?_, fun l other content' => ?_, fun l _ there => node?_put_directory there⟩
  · rw [node?_put]
    by_cases here : l = name :: parent
    · exact ⟨content, if_pos here⟩
    · exact ⟨content', by rw [if_neg here, there]⟩
  · rw [node?_put, if_neg]
    rintro rfl
    exact other named

theorem removeDir (removed : t.removeDir p = .ok t') (named : t.place p ∈ cleared) : Spares written cleared t t' := by
  obtain ⟨name, parent, targets, there, bare, rfl⟩ := removeDir_eq_ok.1 removed
  rw [targets.place_eq] at named
  have same (l : Location) (content : Bytes) :
      (t.drop (name :: parent) bare).node? l = some (.file content) ↔ t.node? l = some (.file content) := by
    rw [node?_drop (List.cons_ne_nil _ _)]
    by_cases here : l = name :: parent
    · simp [here, there]
    · rw [if_neg here]
  refine ⟨rfl, fun l content there => ⟨content, (same l content).2 there⟩, fun l _ => same l, fun l other there => ?_⟩
  rw [node?_drop (List.cons_ne_nil _ _), if_neg, there]
  rintro rfl
  exact other named

/-- A directory with a file in it is not lost. -/
theorem directory_of_file (spares : Spares written cleared t t') (there : t.node? (name :: l) = some (.file content)) :
    t'.node? l = some .directory := by
  obtain ⟨content', still⟩ := spares.files _ _ there
  exact directory_of_entry still

end Spares

/-! ## What is added -/

/-- A tree grown to another by directories, each where one of some paths leads. All that was there is unchanged. -/
structure GrownBy (ps : List Path) (t t' : FileTree) : Prop where
  start : t'.workingDir = t.workingDir
  kept : ∀ l n, t.node? l = some n → t'.node? l = some n
  added : ∀ l n, t'.node? l = some n → t.node? l = some n ∨ n = .directory ∧ ∃ p ∈ ps, t'.locate p = .ok l

namespace GrownBy

variable {ps qs : List Path}

theorem keeps (grown : GrownBy ps t t') : Keeps t t' where
  start := grown.start
  directories l there := grown.kept l .directory there
  nodes l there := by
    obtain ⟨n, there⟩ := Option.isSome_iff_exists.1 there
    exact Option.isSome_of_eq_some (grown.kept l n there)

theorem refl (t : FileTree) : GrownBy ps t t :=
  ⟨rfl, fun _ _ there => there, fun _ _ there => .inl there⟩

theorem createDir (made : t.createDir p = .ok t') : GrownBy [p] t t' := by
  obtain ⟨name, parent, targets, absent, hl, hp, rfl⟩ := createDir_makes made
  have here : (t.put name parent .directory hl hp).node? (name :: parent) = some .directory := by
    rw [node?_put, if_pos rfl]
  refine ⟨rfl, fun l n there => ?_, fun l n there => ?_⟩
  · rw [node?_put, if_neg, there]
    rintro rfl
    cases absent.symm.trans there
  · by_cases new : l = name :: parent
    · subst new
      cases here.symm.trans there
      exact .inr ⟨rfl, p, List.mem_singleton_self p, targets.put.locate_eq (Option.isSome_of_eq_some here)⟩
    · rw [node?_put, if_neg new] at there
      exact .inl there

theorem trans (first : GrownBy ps t t') (second : GrownBy qs t' u) : GrownBy (ps ++ qs) t u where
  start := second.start.trans first.start
  kept l n there := second.kept l n (first.kept l n there)
  added l n there := by
    obtain between | ⟨directory, p, listed, located⟩ := second.added l n there
    · obtain before | ⟨directory, p, listed, located⟩ := first.added l n between
      · exact .inl before
      · exact .inr ⟨directory, p, List.mem_append_left qs listed, locate_keeps second.keeps located⟩
    · exact .inr ⟨directory, p, List.mem_append_right ps listed, located⟩

end GrownBy

end HeapSampler.FileTree

import HeapSampler.Freezer.Groups
import HeapSampler.Proofs.Paths
import HeapSampler.Run.Plan

/-!
# Where the groups of a run lie

A run has one group below `memory` and one below `freezer`, as long as the name of the group that they are made in
keeps to the directory that it is put in. Nothing checks that it does: a name may be absolute, and it may lead out
of the directory by its double dots. Then the two groups are one (`under_lies`).
-/

namespace HeapSampler

open FileTree (follow follow_dot follow_dotDot follow_name)

/-- The location lies below another one, in any depth. -/
def Location.Below (l base : Location) : Prop :=
  ∃ inner, inner ≠ [] ∧ l = inner ++ base

/-- The text is the name of a file or directory, and not that of a directory that is always there. -/
structure PlainName (s : String) : Prop where
  nonempty : s ≠ ""
  whole : '/' ∉ s.toList
  noDot : s ≠ "."
  noDotDot : s ≠ ".."

instance (s : String) : Decidable (PlainName s) :=
  decidable_of_iff (s ≠ "" ∧ '/' ∉ s.toList ∧ s ≠ "." ∧ s ≠ "..")
    ⟨fun ⟨nonempty, whole, noDot, noDotDot⟩ => ⟨nonempty, whole, noDot, noDotDot⟩,
      fun plain => ⟨plain.nonempty, plain.whole, plain.noDot, plain.noDotDot⟩⟩

namespace PlainName

variable {s : String}

theorem slash_not_mem (plain : PlainName s) : Path.slash ∉ Bytes.ofString s :=
  Bytes.slash_not_mem_ofString plain.whole

theorem names (plain : PlainName s) : (Path.ofString s).names = [Bytes.ofString s] := by
  refine Path.names_whole ?_ plain.slash_not_mem
  intro none
  exact plain.nonempty (Bytes.ofString_injective none)

theorem relative (plain : PlainName s) : (Path.ofString s).isAbsolute = false :=
  Path.isAbsolute_append_whole [] plain.slash_not_mem

/-- What is named in a directory lies right in it. -/
theorem place_join (plain : PlainName s) (t : FileTree) (base : Path) :
    t.place (base / s) = Bytes.ofString s :: t.place base := by
  have dot : Bytes.ofString s ≠ Path.dot := fun same => plain.noDot (Bytes.ofString_injective same)
  have dotDot : Bytes.ofString s ≠ Path.dotDot := fun same => plain.noDotDot (Bytes.ofString_injective same)
  have place := t.place_join base plain.relative
  rw [plain.names, List.foldl_cons, List.foldl_nil, follow_name _ dot dotDot] at place
  exact place

end PlainName

/-! ## Names that keep to a directory -/

/-- Followed from a directory so many levels below another, the names do not lead out of the other one. -/
def keepsInside : (depth : Nat) → List Bytes → Bool
  | _, [] => true
  | depth, name :: names =>
    if name = Path.dot then keepsInside depth names
    else if name = Path.dotDot then
      match depth with
      | 0 => false
      | depth + 1 => keepsInside depth names
    else keepsInside (depth + 1) names

/-- A group of this name lies in the directory in which it is looked for. -/
def Path.keepsInside (p : Path) : Bool :=
  !p.isAbsolute && HeapSampler.keepsInside 0 p.names

section Following

variable {name : Bytes} {names : List Bytes} {depth : Nat}

theorem keepsInside_dot : keepsInside depth (Path.dot :: names) = keepsInside depth names := by
  rw [keepsInside.eq_def]
  exact if_pos rfl

theorem keepsInside_out : keepsInside 0 (Path.dotDot :: names) = false := by
  rw [keepsInside, if_neg (by decide), if_pos rfl]

theorem keepsInside_up : keepsInside (depth + 1) (Path.dotDot :: names) = keepsInside depth names := by
  rw [keepsInside, if_neg (by decide), if_pos rfl]

theorem keepsInside_down (dot : name ≠ Path.dot) (dotDot : name ≠ Path.dotDot) :
    keepsInside depth (name :: names) = keepsInside (depth + 1) names := by
  rw [keepsInside.eq_def]
  exact (if_neg dot).trans (if_neg dotDot)

/-- Names that do not lead out of a directory lead to the same place below it, whatever directory it is. -/
theorem foldl_follow_inside (inner : Location) (inside : keepsInside inner.length names = true) :
    ∃ inner', ∀ base : Location, names.foldl follow (inner ++ base) = inner' ++ base := by
  induction names generalizing inner with
  | nil => exact ⟨inner, fun base => rfl⟩
  | cons name names ih =>
    simp only [List.foldl_cons]
    by_cases dot : name = Path.dot
    · subst dot
      simp only [follow_dot]
      exact ih inner (keepsInside_dot ▸ inside)
    by_cases dotDot : name = Path.dotDot
    · subst dotDot
      simp only [follow_dotDot]
      cases inner with
      | nil =>
        rw [List.length_nil, keepsInside_out] at inside
        cases inside
      | cons last inner =>
        rw [List.length_cons, keepsInside_up] at inside
        exact ih inner inside
    · rw [keepsInside_down dot dotDot] at inside
      obtain ⟨inner', leads⟩ := ih (name :: inner) inside
      refine ⟨inner', fun base => ?_⟩
      rw [follow_name _ dot dotDot]
      exact leads base

/-- Names that lead out of a directory lead to one place from all directories beside it. -/
theorem foldl_follow_outside (inner : Location) (outside : keepsInside inner.length names = false)
    (first second : Bytes) (parent : Location) :
    names.foldl follow (inner ++ first :: parent) = names.foldl follow (inner ++ second :: parent) := by
  induction names generalizing inner with
  | nil => cases outside
  | cons name names ih =>
    rw [List.foldl_cons, List.foldl_cons]
    by_cases dot : name = Path.dot
    · subst dot
      rw [follow_dot, follow_dot]
      exact ih inner (keepsInside_dot ▸ outside)
    by_cases dotDot : name = Path.dotDot
    · subst dotDot
      rw [follow_dotDot, follow_dotDot]
      cases inner with
      | nil => rfl
      | cons last inner =>
        rw [List.length_cons, keepsInside_up] at outside
        exact ih inner outside
    · rw [keepsInside_down dot dotDot] at outside
      rw [follow_name _ dot dotDot, follow_name _ dot dotDot]
      exact ih (name :: inner) outside

end Following

theorem Location.Below.cons {l base : Location} (below : l.Below base) (name : Bytes) :
    Location.Below (name :: l) base := by
  obtain ⟨inner, -, rfl⟩ := below
  exact ⟨name :: inner, List.cons_ne_nil _ _, rfl⟩

/-- Nothing lies below two directories of one directory. -/
theorem Location.Below.same {l parent : Location} {first second : Bytes} (one : l.Below (first :: parent))
    (other : l.Below (second :: parent)) : first = second := by
  obtain ⟨inner, -, rfl⟩ := one
  obtain ⟨inner', -, same⟩ := other
  have ends := List.append_inj_right' same rfl
  exact (List.cons.inj ends).1

namespace Groups

/-- Where the groups of a run lie in a tree, and the files through which it is limited and stopped. -/
structure Lies (mount : Path) (group leaf : String) (t : FileTree) : Prop where
  /-- The groups lie below their own hierarchies if and only if the name of the group keeps inside. -/
  below : (Path.ofString group).keepsInside = true ↔
    (t.place (under mount group leaf).memory).Below (t.place (mount / "memory")) ∧
      (t.place (under mount group leaf).freezer).Below (t.place (mount / "freezer"))
  /-- Then they are two, and so are the files of the limit and of the freezer's state. -/
  apart : (Path.ofString group).keepsInside = true →
    t.place (under mount group leaf).memory ≠ t.place (under mount group leaf).freezer ∧
      (t.place (under mount group leaf).limitFile).Below (t.place (mount / "memory")) ∧
      (t.place (under mount group leaf).stateFile).Below (t.place (mount / "freezer"))
  /-- Otherwise they are one, and both files lie in it. -/
  merged : (Path.ofString group).keepsInside = false →
    t.place (under mount group leaf).memory = t.place (under mount group leaf).freezer ∧
      (t.place (under mount group leaf).limitFile).tail = t.place (under mount group leaf).memory ∧
      (t.place (under mount group leaf).stateFile).tail = t.place (under mount group leaf).memory

theorem memory_plain : PlainName "memory" := by decide

theorem freezer_plain : PlainName "freezer" := by decide

theorem limit_plain : PlainName "memory.limit_in_bytes" := by decide

theorem state_plain : PlainName "freezer.state" := by decide

theorem hierarchies_differ : Bytes.ofString "memory" ≠ Bytes.ofString "freezer" := by decide

section Hierarchy

variable {group leaf : String}

/-- The place of a group that is made below a hierarchy. -/
theorem place_inside (t : FileTree) (plain : PlainName leaf) (inside : (Path.ofString group).keepsInside = true) :
    ∃ inner, inner ≠ [] ∧ ∀ hierarchy : Path, t.place (hierarchy / group / leaf) = inner ++ t.place hierarchy := by
  obtain ⟨relative, keeps⟩ : (Path.ofString group).isAbsolute = false ∧
      keepsInside 0 (Path.ofString group).names = true := by simpa [Path.keepsInside] using inside
  obtain ⟨inner, leads⟩ := foldl_follow_inside [] keeps
  refine ⟨Bytes.ofString leaf :: inner, List.cons_ne_nil _ _, fun hierarchy => ?_⟩
  have place : t.place (hierarchy / group) = inner ++ t.place hierarchy :=
    (t.place_join hierarchy relative).trans (leads _)
  rw [plain.place_join, place]
  rfl

/-- A group whose name leads out is the same for the two hierarchies. -/
theorem place_outside (t : FileTree) (mount : Path) (plain : PlainName leaf)
    (outside : (Path.ofString group).keepsInside = false) :
    t.place (under mount group leaf).memory = t.place (under mount group leaf).freezer := by
  have place : t.place (mount / "memory" / group) = t.place (mount / "freezer" / group) := by
    cases absolute : (Path.ofString group).isAbsolute with
    | true =>
      have whole (hierarchy : Path) : hierarchy / group = Path.ofString group := Path.join_of_absolute absolute
      rw [whole, whole]
    | false =>
      have leads : keepsInside 0 (Path.ofString group).names = false := by simpa [Path.keepsInside, absolute] using outside
      have place (hierarchy : Path) : t.place (hierarchy / group) = _ := t.place_join hierarchy absolute
      rw [place, place, memory_plain.place_join, freezer_plain.place_join]
      exact foldl_follow_outside [] leads _ _ _
  rw [under, plain.place_join, plain.place_join, place]

end Hierarchy

/-- **The groups of a run lie below their hierarchies exactly if the name of the group keeps inside**, and otherwise
they are one group. -/
theorem under_lies (mount : Path) (group leaf : String) (t : FileTree) (plain : PlainName leaf) :
    Lies mount group leaf t := by
  have limit : t.place (under mount group leaf).limitFile = _ := limit_plain.place_join t _
  have state : t.place (under mount group leaf).stateFile = _ := state_plain.place_join t _
  cases inside : (Path.ofString group).keepsInside with
  | true =>
    obtain ⟨inner, some, place⟩ := place_inside t plain inside
    have memory : (t.place (under mount group leaf).memory).Below (t.place (mount / "memory")) := ⟨inner, some, place _⟩
    have freezer : (t.place (under mount group leaf).freezer).Below (t.place (mount / "freezer")) := ⟨inner, some, place _⟩
    constructor
    case below => exact iff_of_true inside ⟨memory, freezer⟩
    case apart =>
      intro _
      rw [limit, state]
      refine ⟨?_, memory.cons _, freezer.cons _⟩
      intro same
      rw [same, memory_plain.place_join] at memory
      rw [freezer_plain.place_join] at freezer
      exact hierarchies_differ (memory.same freezer)
    case merged =>
      intro outside
      rw [inside] at outside
      cases outside
  | false =>
    have merged := place_outside t mount plain inside
    constructor
    case below =>
      refine iff_of_false (by simp [inside]) ?_
      rintro ⟨memory, freezer⟩
      rw [merged, memory_plain.place_join] at memory
      rw [freezer_plain.place_join] at freezer
      exact hierarchies_differ (memory.same freezer)
    case apart =>
      intro keeps
      rw [inside] at keeps
      cases keeps
    case merged =>
      intro _
      rw [limit, state]
      exact ⟨merged, rfl, merged.symm⟩

/-- A group two levels down, with an empty step in between. -/
theorem under_lies_nested : PlainName "heapfreeze" ∧
    FileTree.empty.place (under (Path.ofString "/mount") "tests/./bench/" "heapfreeze").memory ≠
      FileTree.empty.place (under (Path.ofString "/mount") "tests/./bench/" "heapfreeze").freezer := by
  have plain : PlainName "heapfreeze" := by decide
  have lies := under_lies (Path.ofString "/mount") "tests/./bench/" "heapfreeze" .empty plain
  exact ⟨plain, (lies.apart (by decide)).1⟩

/-- A plan whose group is named by an absolute path. -/
def sharedPlan : RunPlan :=
  ⟨"/shared", 1048576, none, ["sleep", "5"], none⟩

/-- A plan without a flaw may put both groups in one place outside the mount. -/
theorem under_merges_shared : sharedPlan.validate = .ok () ∧ PlainName "heapfreeze" ∧
    under (Path.ofString "/mount") sharedPlan.group "heapfreeze" =
      ⟨Path.ofString "/shared/heapfreeze", Path.ofString "/shared/heapfreeze"⟩ ∧
    ¬ (FileTree.empty.place (under (Path.ofString "/mount") sharedPlan.group "heapfreeze").memory).Below
      (FileTree.empty.place (Path.ofString "/mount" / "memory")) := by
  refine ⟨rfl, by decide, by decide, ?_⟩
  rintro ⟨inner, some, same⟩
  have lengths : 2 = inner.length + 2 := (congrArg List.length same).trans List.length_append
  have none : inner.length = 0 := by omega
  exact some (List.eq_nil_of_length_eq_zero none)

end Groups

end HeapSampler

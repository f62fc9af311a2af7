import HeapSampler.Proofs.Hierarchies
import HeapSampler.Proofs.Settings.Repair

/-!
# The mount among the candidates

Mount candidates are tried in order, and repaired settings try none twice in a row. A candidate that is dropped leads
where the one leads that stays, so the same mount is found (`repaired_keeps_mounts`), unless the one that stays is
written with so many slashes and dots that the system refuses its path: then the directory is not found by the name
under which it could have been.
-/

namespace HeapSampler

open Groups (memory_plain)

section Candidates

variable {t : FileTree} {candidate kept dropped mount : Path} {candidates : List Path}

/-- The path of a candidate's memory controller is not too long for the system. -/
def Path.InReach (candidate : Path) : Prop :=
  (candidate / "memory").bytes.length ≤ FileTree.maxPath

instance (candidate : Path) : Decidable candidate.InReach :=
  inferInstanceAs (Decidable (_ ≤ _))

/-- The candidate has a memory controller. -/
def FileTree.isMount (t : FileTree) (candidate : Path) : Bool :=
  t.isDir (candidate / "memory")

theorem inReach_of_isMount (isMount : t.isMount candidate = true) : candidate.InReach := by
  obtain ⟨l, located, -⟩ := FileTree.isDir_iff.1 isMount
  obtain ⟨⟨⟩, checked, -⟩ := FileTree.bind_eq_ok.1 located
  exact (FileTree.checkPath_eq_ok.1 checked).2.2

/-- Candidates that are the same path have the same memory controller, as far as they are in reach. -/
theorem isMount_of_sameAs (same : kept.sameAs dropped = true) (inReach : kept.InReach)
    (isMount : t.isMount dropped = true) : t.isMount kept = true := by
  have back : dropped.sameAs kept = true := beq_iff_eq.2 (eq_of_beq same).symm
  exact FileTree.isDir_join_of_sameAs back memory_plain.relative memory_plain.names inReach isMount

theorem locateMount_eq_ok : locateMount t candidates = .ok mount ↔ candidates.find? t.isMount = some mount := by
  show _ ↔ candidates.find? (fun c => t.isDir (c / "memory")) = some mount
  unfold locateMount
  cases candidates.find? fun c => t.isDir (c / "memory") with
  | none => simp
  | some found => simp

/-- No candidate that is in reach is dropped for one that is not. -/
def KeepsReach (candidates : List Path) : Prop :=
  ∀ pair ∈ droppedAdjacent Path.sameAs candidates, pair.2.InReach → pair.1.InReach

instance (candidates : List Path) : Decidable (KeepsReach candidates) :=
  inferInstanceAs (Decidable (∀ pair ∈ droppedAdjacent Path.sameAs candidates, pair.2.InReach → pair.1.InReach))

/-- The mount that is found is the same without the candidates that are dropped. -/
theorem locateMount_dedupAdjacent (keepsReach : KeepsReach candidates) (t : FileTree) (mount : Path) :
    locateMount t (dedupAdjacent Path.sameAs candidates) = .ok mount ↔ locateMount t candidates = .ok mount := by
  rw [locateMount_eq_ok, locateMount_eq_ok, find?_dedupAdjacent]
  intro pair found isMount
  exact isMount_of_sameAs (same_of_mem_dropped found) (keepsReach pair found (inReach_of_isMount isMount)) isMount

/-- A mount that is found without the dropped candidates is a candidate, so one is found among them all. -/
theorem exists_locateMount (found : locateMount t (dedupAdjacent Path.sameAs candidates) = .ok mount) :
    ∃ first, locateMount t candidates = .ok first := by
  have found := locateMount_eq_ok.1 found
  have among : mount ∈ candidates := mem_dedupAdjacent (List.mem_of_find?_eq_some found)
  have some : (candidates.find? t.isMount).isSome := List.find?_isSome.2 ⟨mount, among, List.find?_some found⟩
  obtain ⟨first, here⟩ := Option.isSome_iff_exists.1 some
  exact ⟨first, locateMount_eq_ok.2 here⟩

end Candidates

namespace Settings

/-- What repair does to settings, and what it does not. -/
structure Repairs (s : Settings) : Prop where
  usable : Usable s.repaired
  /-- Only the pauses and the candidates can be other ones. -/
  others : { s.repaired with
    groups := { s.repaired.groups with
      pollInterval := s.groups.pollInterval
      mountCandidates := s.groups.mountCandidates }
    subject := { s.repaired.subject with livenessPoll := s.subject.livenessPoll } } = s
  again : s.repaired.repaired = s.repaired
  /-- Where there is a mount among the repaired candidates, there is one among all. -/
  mounted : ∀ t mount, locateMount t s.repaired.groups.mountCandidates = .ok mount →
    ∃ first, locateMount t s.groups.mountCandidates = .ok first
  /-- The mount is the one that it was, and found in the same trees, unless a candidate that is in reach is dropped for
  one that is not. -/
  mount : KeepsReach s.groups.mountCandidates → ∀ t mount,
    locateMount t s.repaired.groups.mountCandidates = .ok mount ↔ locateMount t s.groups.mountCandidates = .ok mount

/-- **Repair makes settings usable, changes nothing else, and keeps the mount**, as far as paths are not too long. -/
theorem repaired_keeps_mounts (s : Settings) : Repairs s where
  usable := repaired_usable s
  others := rfl
  again := repaired_idem s
  mounted _ _ := exists_locateMount
  mount keepsReach := locateMount_dedupAdjacent keepsReach

namespace Respelled

/-- A tree with a memory controller. -/
def files : FileTree :=
  let made : Except IoError FileTree := do
    let t ← FileTree.empty.createDir (Path.ofString "/@")
    let t ← t.createDir (Path.ofString "/@/mount")
    t.createDir (Path.ofString "/@/mount/memory")
  made.toOption.getD .empty

/-- Settings with these mount candidates. -/
def settings (candidates : List Path) : Settings :=
  { Settings.default with groups := { GroupSettings.default with mountCandidates := candidates } }

def mount : Path := Path.ofString "/@/mount"

/-- The mount with so many slashes at its end. -/
def slashed (n : Nat) : Path := ⟨mount.bytes ++ List.replicate n Path.slash⟩

theorem slashed_same (n : Nat) : (slashed n).sameAs mount = true := by
  have absolute : (slashed n).isAbsolute = mount.isAbsolute := rfl
  have names : (slashed n).names = mount.names := Path.names_append_slashes _ n
  rw [Path.sameAs, Path.meaning, Path.meaning, absolute, names, beq_self_eq_true]

/-- A path with too many slashes cannot be looked up. -/
theorem not_isMount {n : Nat} (long : FileTree.maxPath ≤ n) (t : FileTree) : ¬ t.isMount (slashed n) = true := by
  intro isMount
  have inReach : (slashed n / "memory").bytes.length ≤ FileTree.maxPath := inReach_of_isMount isMount
  have longer : (slashed n).bytes.length ≤ (slashed n / "memory").bytes.length :=
    Path.length_le_join memory_plain.relative _
  have written : (slashed n).bytes.length = 8 + n := by
    rw [slashed, List.length_append, List.length_replicate]
    rfl
  omega

end Respelled

open Respelled in
/-- One slash more or less makes no difference. -/
theorem repaired_keeps_mounts_respelled :
    (settings [slashed 1, mount]).repaired.groups.mountCandidates = [slashed 1] ∧
      locateMount files [slashed 1, mount] = .ok (slashed 1) ∧ locateMount files [slashed 1] = .ok (slashed 1) := by
  have keepsReach : KeepsReach [slashed 1, mount] := by decide
  have repaired : (settings [slashed 1, mount]).repaired.groups.mountCandidates = [slashed 1] := by decide +kernel
  have there : files.isMount (slashed 1) = true := by decide +kernel
  have located : locateMount files [slashed 1, mount] = .ok (slashed 1) := by
    rw [locateMount_eq_ok, List.find?_cons_of_pos there]
  have keeps := ((repaired_keeps_mounts (settings [slashed 1, mount])).mount keepsReach files (slashed 1)).2 located
  exact ⟨repaired, located, repaired ▸ keeps⟩

open Respelled in
/-- A directory that is found by its second name is not found any more when the name that stays is too long. -/
theorem repaired_loses_mount :
    (settings [slashed 4096, mount]).repaired.groups.mountCandidates = [slashed 4096] ∧
      locateMount files [slashed 4096, mount] = .ok mount ∧
      ∀ other, locateMount files (settings [slashed 4096, mount]).repaired.groups.mountCandidates ≠ .ok other := by
  have missed : ¬ files.isMount (slashed 4096) = true := not_isMount (by decide) files
  have repaired : (settings [slashed 4096, mount]).repaired.groups.mountCandidates = [slashed 4096] := by
    show dedupAdjacent Path.sameAs [slashed 4096, mount] = _
    rw [dedupAdjacent, dedupAdjacent.after, if_pos (slashed_same 4096)]
    rfl
  refine ⟨repaired, ?_, ?_⟩
  · have there : files.isMount mount = true := by decide +kernel
    rw [locateMount_eq_ok, List.find?_cons_of_neg missed, List.find?_cons_of_pos there]
  · intro other located
    rw [repaired, locateMount_eq_ok, List.find?_cons_of_neg missed] at located
    cases located

end Settings

end HeapSampler

import HeapSampler.Freezer.Groups
import HeapSampler.Proofs.Places

/-!
# Groups that are made and removed

Groups are made both or not at all, and making them once more changes nothing (`create_makes`). Whatever is done with
groups, it writes to their files only, and what it removes is the groups.
-/

namespace HeapSampler.Groups

open FileTree (GrownBy Spares)

variable {g : Groups} {t t' : FileTree} {p : Path} {e : MonitorError} {made : Bool} {written cleared : List Location}

/-- A directory is provided: it is there already, or it is made. -/
inductive Provided (t : FileTree) (p : Path) : FileTree → Prop where
  | reused (there : t.isDir p = true) : Provided t p t
  | made {t' : FileTree} (created : t.createDir p = .ok t') : Provided t p t'

theorem ensure_of_createDir (created : t.createDir p = .ok t') : ensure t p = .ok (true, t') := by
  rw [ensure, created]

theorem ensure_of_isDir (there : t.isDir p = true) : ensure t p = .ok (false, t) := by
  rw [ensure, FileTree.createDir_of_isDir there]
  simp only [there, and_self, if_true]

theorem ensure_cases (ensured : ensure t p = .ok (made, t')) :
    made = true ∧ t.createDir p = .ok t' ∨ made = false ∧ t' = t ∧ t.isDir p = true := by
  unfold ensure at ensured
  cases created : t.createDir p with
  | ok files =>
    rw [created] at ensured
    cases ensured
    exact .inl ⟨rfl, rfl⟩
  | error cause =>
    rw [created] at ensured
    by_cases there : cause = .system .alreadyExists ∧ t.isDir p = true
    · simp only [if_pos there] at ensured
      cases ensured
      exact .inr ⟨rfl, rfl, there.2⟩
    · simp only [if_neg there] at ensured
      cases ensured

theorem ensure_error (failed : ensure t p = .error e) : ∃ cause, e = .groupNotCreated p cause := by
  unfold ensure at failed
  cases created : t.createDir p with
  | ok files =>
    rw [created] at failed
    cases failed
  | error cause =>
    rw [created] at failed
    by_cases there : cause = .system .alreadyExists ∧ t.isDir p = true
    · simp only [if_pos there] at failed
      cases failed
    · simp only [if_neg there] at failed
      cases failed
      exact ⟨cause, rfl⟩

theorem ensure_provides : (∃ made, ensure t p = .ok (made, t')) ↔ Provided t p t' := by
  constructor
  · rintro ⟨made, ensured⟩
    obtain ⟨-, created⟩ | ⟨-, rfl, there⟩ := ensure_cases ensured
    · exact .made created
    · exact .reused there
  · intro provided
    cases provided with
    | reused there => exact ⟨false, ensure_of_isDir there⟩
    | made created => exact ⟨true, ensure_of_createDir created⟩

theorem Provided.isDir (provided : Provided t p t') : t'.isDir p = true := by
  cases provided with
  | reused there => exact there
  | made created => exact FileTree.isDir_createDir created

theorem Provided.grown (provided : Provided t p t') : GrownBy [p] t t' := by
  cases provided with
  | reused there => exact .refl t
  | made created => exact .createDir created

theorem Provided.spares (provided : Provided t p t') : Spares written cleared t t' := by
  cases provided with
  | reused there => exact .refl t
  | made created => exact .createDir created

/-- Groups that cannot both be made leave nothing behind. -/
theorem create_undone (failed : g.create t = (.error e, t')) : t' = t ∧ ∃ p cause, e = .groupNotCreated p cause := by
  unfold create at failed
  rcases first : ensure t g.memory with e' | ⟨made, between⟩ <;> rw [first] at failed
  · cases failed
    exact ⟨rfl, _, ensure_error first⟩
  rcases second : ensure between g.freezer with e' | ⟨made', after⟩ <;> simp only [second] at failed
  · cases failed
    refine ⟨?_, _, ensure_error second⟩
    obtain ⟨rfl, created⟩ | ⟨rfl, rfl, -⟩ := ensure_cases first
    · rw [if_pos rfl, removeIfPossible, FileTree.removeDir_createDir created]
    · rfl
  · cases failed

/-- Both groups are made if and only if each can be provided, one after the other. -/
theorem create_provides :
    g.create t = (.ok (), t') ↔ ∃ between, Provided t g.memory between ∧ Provided between g.freezer t' := by
  constructor
  · intro created
    unfold create at created
    rcases first : ensure t g.memory with e' | ⟨made, between⟩ <;> rw [first] at created
    · cases created
    rcases second : ensure between g.freezer with e' | ⟨made', after⟩ <;> simp only [second] at created <;>
      cases created
    exact ⟨between, ensure_provides.1 ⟨made, first⟩, ensure_provides.1 ⟨made', second⟩⟩
  · rintro ⟨between, memory, freezer⟩
    obtain ⟨made, first⟩ := ensure_provides.2 memory
    obtain ⟨made', second⟩ := ensure_provides.2 freezer
    rw [create, first]
    simp only [second]

/-- Groups that were made are both there. -/
theorem create_isDir (created : g.create t = (.ok (), t')) : t'.isDir g.memory = true ∧ t'.isDir g.freezer = true := by
  obtain ⟨between, memory, freezer⟩ := create_provides.1 created
  exact ⟨FileTree.isDir_keeps freezer.grown.keeps memory.isDir, freezer.isDir⟩

theorem create_spares (created : g.create t = (.ok (), t')) : Spares written cleared t t' := by
  obtain ⟨between, memory, freezer⟩ := create_provides.1 created
  exact memory.spares.trans freezer.spares

/-- What becomes of a file tree in which two groups are made, wherever they lie. -/
structure Makes (g : Groups) (t : FileTree) : Prop where
  /-- Both are made if and only if each is there already, or can be made, the second in the tree with the first. -/
  provides : ∀ t', g.create t = (.ok (), t') ↔ ∃ between, Provided t g.memory between ∧ Provided between g.freezer t'
  /-- Then both are directories. -/
  directories : ∀ t', g.create t = (.ok (), t') → t'.isDir g.memory = true ∧ t'.isDir g.freezer = true
  /-- All that was there is unchanged, and nothing is added but the two. -/
  grown : ∀ t', g.create t = (.ok (), t') → GrownBy [g.memory, g.freezer] t t'
  /-- If they cannot be made, the tree is as it was: what was reused is still there, and what was made is gone. -/
  undone : ∀ e t', g.create t = (.error e, t') → t' = t
  /-- Making them once more, right after that, succeeds and changes nothing. -/
  again : ∀ t', g.create t = (.ok (), t') → g.create t' = (.ok (), t')

/-- **Both groups are made, or everything is as before.** -/
theorem create_makes (g : Groups) (t : FileTree) : Makes g t where
  provides t' := create_provides
  directories t' := create_isDir
  grown t' created := by
    obtain ⟨between, memory, freezer⟩ := create_provides.1 created
    exact memory.grown.trans freezer.grown
  undone e t' failed := (create_undone failed).1
  again t' created := by
    obtain ⟨memory, freezer⟩ := create_isDir created
    exact create_provides.2 ⟨t', .reused memory, .reused freezer⟩

/-- What the limit file holds for a limit. -/
def limitText (bytes : UInt64) : Bytes :=
  Bytes.ofString (Decimal.text bytes.toNat)

theorem limit_ok {bytes : UInt64} (set : g.limit bytes t = (.ok (), t')) :
    t.write g.limitFile (limitText bytes) = .ok t' := by
  unfold limit at set
  rcases wrote : t.write g.limitFile (limitText bytes) with cause | files <;> rw [limitText] at wrote <;>
    simp only [wrote] at set <;> cases set
  rfl

theorem limit_error {bytes : UInt64} (failed : g.limit bytes t = (.error e, t')) :
    t' = t ∧ ∃ cause, e = .limitNotSet g.limitFile cause := by
  unfold limit at failed
  rcases wrote : t.write g.limitFile (limitText bytes) with cause | files <;> rw [limitText] at wrote <;>
    simp only [wrote] at failed <;> cases failed
  exact ⟨rfl, cause, rfl⟩

theorem attachTo_cases {pid : UInt32} {r : Except MonitorError Unit} (ran : attachTo p pid t = (r, t')) :
    (∃ content, t.write (tasksFile p) content = .ok t' ∧ r = .ok ()) ∨
      t' = t ∧ ∃ cause, r = .error (.notAttached pid (tasksFile p) cause) := by
  unfold attachTo at ran
  rcases wrote : t.write (tasksFile p) (Bytes.ofString (Decimal.text pid.toNat)) with cause | files <;>
    simp only [wrote] at ran <;> cases ran
  · exact .inr ⟨rfl, cause, rfl⟩
  · exact .inl ⟨_, wrote, rfl⟩

theorem attachTo_spares {pid : UInt32} {r : Except MonitorError Unit} (ran : attachTo p pid t = (r, t'))
    (named : t.place (tasksFile p) ∈ written) : Spares written cleared t t' := by
  obtain ⟨content, wrote, -⟩ | ⟨rfl, -⟩ := attachTo_cases ran
  · exact .write wrote named
  · exact .refl _

theorem attach_spares {pid : UInt32} {r : Except MonitorError Unit} (ran : g.attach pid t = (r, t'))
    (memory : t.place (tasksFile g.memory) ∈ written) (freezer : t.place (tasksFile g.freezer) ∈ written) :
    Spares written cleared t t' := by
  unfold attach at ran
  rcases first : attachTo g.memory pid t with ⟨e' | ⟨⟩, between⟩ <;> rw [first] at ran
  · cases ran
    exact attachTo_spares first memory
  · have spares : Spares written cleared t between := attachTo_spares first memory
    rw [← spares.place_eq] at freezer
    exact spares.trans (attachTo_spares ran freezer)

theorem attach_error {pid : UInt32} (failed : g.attach pid t = (.error e, t')) :
    ∃ p cause, e = .notAttached pid p cause := by
  unfold attach at failed
  rcases first : attachTo g.memory pid t with ⟨e' | ⟨⟩, between⟩ <;> rw [first] at failed
  · obtain ⟨-, -, ⟨⟩⟩ | ⟨-, cause, ⟨⟩⟩ := attachTo_cases first
    cases failed
    exact ⟨_, cause, rfl⟩
  · obtain ⟨-, -, ⟨⟩⟩ | ⟨-, cause, ⟨⟩⟩ := attachTo_cases failed
    exact ⟨_, cause, rfl⟩

theorem removeIfPossible_spares (named : t.place p ∈ cleared) : Spares written cleared t (removeIfPossible t p) := by
  unfold removeIfPossible
  cases removed : t.removeDir p with
  | ok files => exact .removeDir removed named
  | error cause => exact .refl t

/-- Nothing is removed with groups but the groups. -/
theorem destroy_spares (memory : t.place g.memory ∈ cleared) (freezer : t.place g.freezer ∈ cleared) :
    Spares written cleared t (g.destroy t) := by
  have first : Spares written cleared t (removeIfPossible t g.memory) := removeIfPossible_spares memory
  rw [← first.place_eq] at freezer
  exact first.trans (removeIfPossible_spares freezer)

end HeapSampler.Groups

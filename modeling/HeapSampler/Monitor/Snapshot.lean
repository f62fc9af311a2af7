import HeapSampler.Freezer.Transition

/-!
# Snapshots

A snapshot freezes the subject, records the pages of its heap and thaws it again. Whatever the
measurement comes to, the thaw follows it, and the history gains a sample only if all three
succeed.
-/

namespace HeapSampler

/-- How snapshots are taken. -/
structure SnapshotPlan where
  policy : TransitionPolicy
  directory : Path
  output : OutputSettings
  deriving DecidableEq, Repr

namespace Snapshot

/-- The result of a step that may stop with an error, as a value. A fault still stops. -/
def attempt (act : Act σ α) : Act σ (Except MonitorError α) := fun s =>
  match act s with
  | (.ok a, s) => (.ok (.ok a), s)
  | (.error (.error e), s) => (.ok (.error e), s)
  | (.error (.fault f), s) => (.error (.fault f), s)

/-- Records the pages of the subject's heap, if it has one. -/
def measure (c : Collaborators σ) (p : SnapshotPlan) (pid iteration : UInt32) :
    Act σ (Option Sample) := do
  match ← Act.heapRange c pid with
  | none => return none
  | some heap =>
    let artifact := p.output.artifactName iteration
    let pages ← Act.classify c pid iteration (p.directory / artifact) heap
    return some ⟨iteration, pages, artifact⟩

/-- Changes the history. -/
def onHistory (change : History → History) : Act σ Unit :=
  modify fun s => { s with history := change s.history }

/-- Claims the next iteration. -/
def beginIteration : Act σ UInt32 := do
  let (iteration, history) := (← get).history.begin
  modify fun s => { s with history }
  return iteration

/-- The freeze, the measurement and the thaw of an iteration; a measurement's error comes before
the thaw's. -/
def cycle (c : Collaborators σ) (p : SnapshotPlan) (pid iteration : UInt32) :
    Act σ (Except MonitorError (Option Sample)) := do
  match ← attempt (Transition.run c .frozen p.policy) with
  | .error e => return .error e
  | .ok () =>
    let measured ← attempt (measure c p pid iteration)
    let thawed ← attempt (Transition.run c .thawed p.policy)
    return do
      let sample ← measured
      thawed
      return sample

/-- Takes one snapshot of a process. Without a heap there is no sample, and the iteration is handed
back; so it is when anything fails. -/
def take (c : Collaborators σ) (p : SnapshotPlan) (pid : UInt32) : Act σ (Option Sample) := do
  Act.note .snapshotBegan
  let iteration ← beginIteration
  let result ← cycle c p pid iteration
  match result with
  | .ok (some sample) => onHistory (·.record sample)
  | _ => onHistory (·.rollback)
  Act.note (.snapshotEnded result.toOption)
  match result with
  | .ok sample => return sample
  | .error e => Act.fail e

end Snapshot

end HeapSampler

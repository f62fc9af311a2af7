import HeapSampler.Proofs.Snapshot.Course

/-!
# What a snapshot records

A snapshot is recorded as a whole or not at all. What it comes to is told by what its freeze, its measurement
and its thaw come to, each of them begun where the one before it has ended (`take_result`). The history that it
leaves is the one that it found, or that one with its sample at the end (`take_records`).
-/

namespace HeapSampler.Snapshot

open Act (bind_ok bind_error)

variable {σ : Type}

/-! ## The stages of a snapshot -/

section Stages

variable (c : Collaborators σ) (p : SnapshotPlan) (pid : UInt32) (s : Session σ)

/-- The session in which a snapshot has been noted and its iteration claimed. -/
def claimed : Session σ :=
  { s.note .snapshotBegan with history := s.history.begin.2 }

/-- The freeze of a snapshot. -/
def freezing : Except Stop Unit × Session σ :=
  Transition.run c .frozen p.policy (claimed s)

/-- The measurement of a snapshot, where its freeze has ended. -/
def measuring : Except Stop (Option Sample) × Session σ :=
  measure c p pid (s.history.iteration + 1) (freezing c p s).2

/-- The thaw of a snapshot, where its measurement has ended. -/
def thawing : Except Stop Unit × Session σ :=
  Transition.run c .thawed p.policy (measuring c p pid s).2

end Stages

/-- What a snapshot comes to if its freeze, its measurement and its thaw come to this. A fault ends it at once,
and so does an error of the freeze; an error of the measurement is put off until the thaw has been tried. -/
def comesTo : Except Stop Unit → Except Stop (Option Sample) → Except Stop Unit → Except Stop (Option Sample)
  | .error stop, _, _ => .error stop
  | .ok (), .error (.fault f), _ => .error (.fault f)
  | .ok (), _, .error (.fault f) => .error (.fault f)
  | .ok (), .error (.error e), _ => .error (.error e)
  | .ok (), .ok _, .error (.error e) => .error (.error e)
  | .ok (), .ok sample, .ok () => .ok sample

section Results

variable {c : Collaborators σ} {p : SnapshotPlan} {pid : UInt32} {s t : Session σ}

/-- A snapshot is its cycle, begun where its iteration has been claimed, and then an entry in the history or none. -/
theorem take_of_cycle {r : Except Stop (Except MonitorError (Option Sample))}
    (ended : cycle c p pid (s.history.iteration + 1) (claimed s) = (r, t)) :
    (take c p pid s).1 = r.bind stopping := by
  have noted : (Act.note .snapshotBegan : Act σ Unit) s = (.ok (), s.note .snapshotBegan) := rfl
  have begun : (beginIteration : Act σ UInt32) (s.note .snapshotBegan) = (.ok (s.history.iteration + 1), claimed s) :=
    rfl
  rw [take, bind_ok noted, bind_ok begun]
  rcases r with stop | result
  · rw [bind_error ended]
    rfl
  · rw [bind_ok ended]
    rcases result with e | _ | sample <;> rfl

/-- A cycle whose freeze has failed is over. -/
theorem cycle_of_unfrozen {iteration : UInt32} {e : MonitorError}
    (froze : Transition.run c .frozen p.policy s = (.error (.error e), t)) :
    cycle c p pid iteration s = (.ok (.error e), t) := by
  have attempted : attempt (Transition.run c .frozen p.policy) s = (.ok (.error e), t) := attempt_apply froze
  rw [cycle, bind_ok attempted]
  rfl

/-- A cycle whose freeze has succeeded is its measurement, its thaw and the verdict on the two. -/
theorem cycle_of_frozen {iteration : UInt32} (froze : Transition.run c .frozen p.policy s = (.ok (), t)) :
    cycle c p pid iteration s = (do
      let measured ← attempt (measure c p pid iteration)
      let thawed ← attempt (Transition.run c .thawed p.policy)
      return verdict measured thawed : Act σ (Except MonitorError (Option Sample))) t := by
  have attempted : attempt (Transition.run c .frozen p.policy) s = (.ok (.ok ()), t) := attempt_apply froze
  rw [cycle, bind_ok attempted]
  rfl

/-- **What a snapshot comes to** is told by what its stages come to. -/
theorem take_result (c : Collaborators σ) (p : SnapshotPlan) (pid : UInt32) (s : Session σ) :
    (take c p pid s).1 = comesTo (freezing c p s).1 (measuring c p pid s).1 (thawing c p pid s).1 := by
  let iteration := s.history.iteration + 1
  obtain ⟨frozen, t, froze⟩ : ∃ r t, Transition.run c .frozen p.policy (claimed s) = (r, t) := ⟨_, _, rfl⟩
  obtain ⟨measured, u, measures⟩ : ∃ r u, measure c p pid iteration t = (r, u) := ⟨_, _, rfl⟩
  obtain ⟨thawed, v, thaws⟩ : ∃ r v, Transition.run c .thawed p.policy u = (r, v) := ⟨_, _, rfl⟩
  have first : freezing c p s = (frozen, t) := froze
  have second : measuring c p pid s = (measured, u) := by rw [measuring, first]; exact measures
  have third : thawing c p pid s = (thawed, v) := by rw [thawing, second]; exact thaws
  rw [first, second, third]
  obtain ⟨frozen, rfl⟩ | ⟨f, rfl⟩ := stopping_or_fault frozen
  · cases frozen with
    | error e => exact take_of_cycle (cycle_of_unfrozen froze)
    | ok frozen =>
      have cycled : cycle c p pid iteration (claimed s) = _ := cycle_of_frozen froze
      obtain ⟨measured, rfl⟩ | ⟨f, rfl⟩ := stopping_or_fault measured
      · rw [bind_ok (attempt_apply measures)] at cycled
        obtain ⟨thawed, rfl⟩ | ⟨f, rfl⟩ := stopping_or_fault thawed
        · rw [bind_ok (attempt_apply thaws)] at cycled
          rw [take_of_cycle cycled]
          rcases measured with e | sample <;> rcases thawed with e' | ⟨⟩ <;> rfl
        · rw [bind_error (attempt_fault thaws)] at cycled
          rw [take_of_cycle cycled]
          rcases measured with e | sample <;> rfl
      · rw [bind_error (attempt_fault measures)] at cycled
        rw [take_of_cycle cycled]
        rfl
  · have cycled : cycle c p pid iteration (claimed s) = (.error (.fault f), t) := bind_error (attempt_fault froze)
    rw [take_of_cycle cycled]
    rfl

/-- A snapshot succeeds if and only if all its stages do, and it gives what was measured. -/
theorem take_ok_iff {found : Option Sample} :
    (take c p pid s).1 = .ok found ↔
      (freezing c p s).1 = .ok () ∧ (measuring c p pid s).1 = .ok found ∧ (thawing c p pid s).1 = .ok () := by
  rw [take_result]
  rcases (freezing c p s).1 with _ | _ <;> rcases (measuring c p pid s).1 with (_ | _) | _ <;>
    rcases (thawing c p pid s).1 with (_ | _) | _ <;> simp [comesTo]

/-- The error of a snapshot is the first one of its stages; that of its measurement has waited for the thaw. -/
theorem take_error_iff {e : MonitorError} :
    (take c p pid s).1 = .error (.error e) ↔
      (freezing c p s).1 = .error (.error e) ∨
      ((freezing c p s).1 = .ok () ∧ (measuring c p pid s).1 = .error (.error e) ∧
        ∀ f, (thawing c p pid s).1 ≠ .error (.fault f)) ∨
      ((freezing c p s).1 = .ok () ∧ (∃ found, (measuring c p pid s).1 = .ok found) ∧
        (thawing c p pid s).1 = .error (.error e)) := by
  rw [take_result]
  rcases (freezing c p s).1 with _ | _ <;> rcases (measuring c p pid s).1 with (_ | _) | _ <;>
    rcases (thawing c p pid s).1 with (_ | _) | _ <;> simp [comesTo]

/-- A snapshot stops with a fault only if one of its stages does. -/
theorem take_fault {f : Fault} (stopped : (take c p pid s).1 = .error (.fault f)) :
    (freezing c p s).1 = .error (.fault f) ∨ (measuring c p pid s).1 = .error (.fault f) ∨
      (thawing c p pid s).1 = .error (.fault f) := by
  rw [take_result] at stopped
  revert stopped
  rcases (freezing c p s).1 with _ | _ <;> rcases (measuring c p pid s).1 with (_ | _) | _ <;>
    rcases (thawing c p pid s).1 with (_ | _) | _ <;> simp +contextual [comesTo]

/-- A measurement finds no heap, or it comes to what the classifier makes of the heap. -/
theorem measure_cases {iteration : UInt32} {r : Except Stop (Option Sample)}
    (ran : measure c p pid iteration s = (r, t)) :
    (∃ stop, Act.heapRange c pid s = (.error stop, t) ∧ r = .error stop) ∨
    (Act.heapRange c pid s = (.ok none, t) ∧ r = .ok none) ∨
    ∃ heap u counted, Act.heapRange c pid s = (.ok (some heap), u) ∧
      Act.classify c pid iteration (p.directory / p.output.artifactName iteration) heap u = (counted, t) ∧
      r = counted.map fun pages => some ⟨iteration, pages, p.output.artifactName iteration⟩ := by
  obtain ⟨stop, failed, rfl⟩ | ⟨found, u, mapped, ran⟩ := Act.bind_cases ran
  · exact .inl ⟨stop, failed, rfl⟩
  cases found with
  | none =>
    cases ran
    exact .inr (.inl ⟨mapped, rfl⟩)
  | some heap =>
    obtain ⟨stop, failed, rfl⟩ | ⟨pages, v, counts, ran⟩ := Act.bind_cases ran
    · exact .inr (.inr ⟨heap, u, .error stop, mapped, failed, rfl⟩)
    · cases ran
      exact .inr (.inr ⟨heap, u, .ok pages, mapped, counts, rfl⟩)

/-- What was measured is the sample of the iteration, of the pages that the classifier has counted. -/
theorem measure_some {iteration : UInt32} {sample : Sample}
    (measures : (measure c p pid iteration s).1 = .ok (some sample)) :
    sample.iteration = iteration ∧ sample.artifact = p.output.artifactName iteration ∧
      ∃ heap t, Act.heapRange c pid s = (.ok (some heap), t) ∧
        (Act.classify c pid iteration (p.directory / sample.artifact) heap t).1 = .ok sample.pages := by
  obtain ⟨r, t, ran⟩ : ∃ r t, measure c p pid iteration s = (r, t) := ⟨_, _, rfl⟩
  rw [ran] at measures
  cases measures
  obtain ⟨stop, -, failed⟩ | ⟨-, nothing⟩ | ⟨heap, u, counted, mapped, counts, told⟩ := measure_cases ran
  · cases failed
  · cases nothing
  · cases counted with
    | error stop => cases told
    | ok pages =>
      cases told
      exact ⟨rfl, rfl, heap, u, mapped, congrArg Prod.fst counts⟩

/-- Nothing is measured if and only if there is no heap. -/
theorem measure_none_iff {iteration : UInt32} :
    (measure c p pid iteration s).1 = .ok none ↔ (Act.heapRange c pid s).1 = .ok none := by
  obtain ⟨r, t, ran⟩ : ∃ r t, measure c p pid iteration s = (r, t) := ⟨_, _, rfl⟩
  rw [ran]
  obtain ⟨stop, mapped, rfl⟩ | ⟨mapped, rfl⟩ | ⟨heap, u, counted, mapped, -, rfl⟩ := measure_cases ran <;> rw [mapped]
  · simp
  · exact iff_of_true rfl rfl
  · cases counted <;> simp [Except.map]

/-- A snapshot without a sample leaves the history that it found. -/
theorem Take.unsampled {h h' : History} {r : Except Stop (Option Sample)} {es : List Event} (take : Take p h r es h')
    (without : r = .ok none ∨ ∃ e, r = .error (.error e)) : h' = h := by
  cases take with
  | fault | taken => simp at without
  | failed | noHeap => rfl

end Results

/-! ## All or nothing -/

/-- What a snapshot returns, and which history it leaves. -/
structure AllOrNothing (c : Collaborators σ) (p : SnapshotPlan) (pid : UInt32) (s : Session σ) : Prop where
  /-- A sample is the next one, of the pages that the classifier has counted, and the history gains it. -/
  sampled : ∀ sample, (take c p pid s).1 = .ok (some sample) →
    sample.iteration.toNat = s.history.iteration.toNat + 1 ∧
    sample.artifact = p.output.artifactName sample.iteration ∧
    (∃ heap t, Act.heapRange c pid (freezing c p s).2 = (.ok (some heap), t) ∧
      (Act.classify c pid sample.iteration (p.directory / sample.artifact) heap t).1 = .ok sample.pages) ∧
    (take c p pid s).2.history =
      ⟨sample.iteration, max s.history.peak sample.pages, s.history.sizes ++ [sample.pages],
        s.history.artifacts ++ [sample.artifact]⟩
  /-- Without a sample the history stays. -/
  unsampled : (take c p pid s).1 = .ok none ∨ (∃ e, (take c p pid s).1 = .error (.error e)) →
    (take c p pid s).2.history = s.history
  /-- There is no sample, and no error, if and only if there was no heap between a freeze and a thaw. -/
  noHeap : (take c p pid s).1 = .ok none ↔
    (freezing c p s).1 = .ok () ∧ (Act.heapRange c pid (freezing c p s).2).1 = .ok none ∧
      (thawing c p pid s).1 = .ok ()
  /-- The error of a freeze is returned. -/
  unfrozen : ∀ e, (freezing c p s).1 = .error (.error e) → (take c p pid s).1 = .error (.error e)
  /-- The error of a measurement is returned, whether or not the thaw has failed too. -/
  unmeasured : ∀ e, (freezing c p s).1 = .ok () → (measuring c p pid s).1 = .error (.error e) →
    ((thawing c p pid s).1 = .ok () ∨ ∃ e', (thawing c p pid s).1 = .error (.error e')) →
    (take c p pid s).1 = .error (.error e)
  /-- Every error is that of the freeze, of the measurement, or of the thaw of a subject that was measured. -/
  failed : ∀ e, (take c p pid s).1 = .error (.error e) →
    (freezing c p s).1 = .error (.error e) ∨
    ((freezing c p s).1 = .ok () ∧ (measuring c p pid s).1 = .error (.error e)) ∨
    ((freezing c p s).1 = .ok () ∧ (∃ found, (measuring c p pid s).1 = .ok found) ∧
      (thawing c p pid s).1 = .error (.error e))
  /-- Nothing but a fault of a stage keeps a snapshot from returning. -/
  returned : ∀ f, (take c p pid s).1 = .error (.fault f) →
    (freezing c p s).1 = .error (.fault f) ∨ (measuring c p pid s).1 = .error (.fault f) ∨
      (thawing c p pid s).1 = .error (.fault f)
  /-- The number of the last iteration is still the number of the sizes. -/
  aligned : (∀ f, (take c p pid s).1 ≠ .error (.fault f)) →
    (take c p pid s).2.history.iteration.toNat = (take c p pid s).2.history.sizes.length

/-- **A snapshot is recorded as a whole or not at all.** -/
theorem take_records (c : Collaborators σ) (p : SnapshotPlan) (pid : UInt32) (s : Session σ)
    (aligned : s.history.iteration.toNat = s.history.sizes.length)
    (few : s.history.sizes.length < UInt32.size - 1) : AllOrNothing c p pid s := by
  have ran : take c p pid s = ((take c p pid s).1, (take c p pid s).2) := rfl
  obtain ⟨es, -, taken⟩ := take_takes ran
  have next : (s.history.iteration + 1).toNat = s.history.iteration.toNat + 1 := by
    rw [UInt32.toNat_add, aligned]
    apply Nat.mod_eq_of_lt
    exact Nat.add_lt_of_lt_sub few
  have sampled (sample : Sample) (took : (take c p pid s).1 = .ok (some sample)) :
      (take c p pid s).2.history = s.history.begin.2.record sample := by
    rw [took] at taken
    exact taken.kept
  have unsampled : (take c p pid s).1 = .ok none ∨ (∃ e, (take c p pid s).1 = .error (.error e)) →
      (take c p pid s).2.history = s.history := taken.unsampled
  constructor
  case sampled =>
    intro sample took
    obtain ⟨-, measures, -⟩ := take_ok_iff.1 took
    obtain ⟨iteration, artifact, counted⟩ := measure_some measures
    rw [sampled sample took, iteration]
    exact ⟨next, artifact, counted, rfl⟩
  case unsampled => exact unsampled
  case noHeap =>
    rw [take_ok_iff, measuring, measure_none_iff]
  case unfrozen =>
    intro e froze
    exact take_error_iff.2 (.inl froze)
  case unmeasured =>
    intro e froze measures thaws
    refine take_error_iff.2 (.inr (.inl ⟨froze, measures, fun f stopped => ?_⟩))
    rw [stopped] at thaws
    simp at thaws
  case failed =>
    intro e stopped
    obtain froze | ⟨froze, measures, -⟩ | ⟨froze, measures, thaws⟩ := take_error_iff.1 stopped
    · exact .inl froze
    · exact .inr (.inl ⟨froze, measures⟩)
    · exact .inr (.inr ⟨froze, measures, thaws⟩)
  case returned => exact fun f => take_fault
  case aligned =>
    intro whole
    rcases took : (take c p pid s).1 with (e | f) | _ | sample
    · rw [unsampled (.inr ⟨e, took⟩)]
      exact aligned
    · exact absurd took (whole f)
    · rw [unsampled (.inl took)]
      exact aligned
    · rw [sampled sample took, History.record, History.begin, List.length_append, next, aligned]
      rfl

/-- A run that has taken one snapshot, on a machine that is thawed. -/
def onceRecorded : Session (Nat × FreezeState) :=
  { Session.start ⟨Duration.nanosPerSecond⟩ .empty (0, .thawed) with history := ⟨1, 5, [5], ["iteration0001"]⟩ }

/-- The second snapshot of a run gives a smaller heap than the first. -/
theorem take_records_second :
    AllOrNothing (.obeyingFrom 1) ⟨.default, Path.ofString "/", .default⟩ 7 onceRecorded ∧
      (take (.obeyingFrom 1) ⟨.default, Path.ofString "/", .default⟩ 7 onceRecorded).2.history =
        ⟨2, 5, [5, 3], ["iteration0001", "iteration0002"]⟩ := by
  have whole := take_records (.obeyingFrom 1) ⟨.default, Path.ofString "/", .default⟩ 7 onceRecorded rfl (by decide)
  have took : (take (.obeyingFrom 1) ⟨.default, Path.ofString "/", .default⟩ 7 onceRecorded).1 =
      .ok (some ⟨2, 3, "iteration0002"⟩) := Act.ok_of_toOption (by decide +kernel)
  obtain ⟨-, -, -, recorded⟩ := whole.sampled _ took
  exact ⟨whole, recorded⟩

end HeapSampler.Snapshot

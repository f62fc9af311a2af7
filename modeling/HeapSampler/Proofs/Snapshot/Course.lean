import HeapSampler.Proofs.Transition.Attempt

/-!
# What a snapshot does

A snapshot freezes, measures and thaws, and each of the three can fail or stop with a fault. `Take`
lists every way in which a snapshot can go, with its result, its events and what becomes of the
history, and `take_takes` shows that there is no other. What later modules say of snapshots they say
by cases of `Take` and `Cycle`.
-/

namespace HeapSampler

/-- An iteration that is claimed and handed back leaves no trace in the history. -/
theorem History.rollback_begin (h : History) : h.begin.2.rollback = h := by
  simp [begin, rollback]

namespace Snapshot

open Transition (Attempt)

variable {σ : Type} {c : Collaborators σ} {p : SnapshotPlan} {pid iteration : UInt32} {s s' : Session σ}

/-- What measuring can come to, with its events. -/
inductive Measures (p : SnapshotPlan) (iteration : UInt32) : Except Stop (Option Sample) → List Event → Prop where
  | unmapped (stop : Stop) : Measures p iteration (.error stop) [.mapped none]
  | noHeap : Measures p iteration (.ok none) [.mapped (some none)]
  | uncounted (heap : HeapRange) (stop : Stop) :
      Measures p iteration (.error stop) [.mapped (some (some heap)),
        .classified iteration (p.directory / p.output.artifactName iteration) none]
  | counted (heap : HeapRange) (pages : UInt64) :
      Measures p iteration (.ok (some ⟨iteration, pages, p.output.artifactName iteration⟩))
        [.mapped (some (some heap)),
          .classified iteration (p.directory / p.output.artifactName iteration) (some pages)]

theorem measure_measures {r : Except Stop (Option Sample)} (ran : measure c p pid iteration s = (r, s')) :
    ∃ es, s.Adds es s' ∧ Measures p iteration r es := by
  obtain ⟨stop, failed, rfl⟩ | ⟨found, t, mapped, ran⟩ := Act.bind_cases ran
  · exact ⟨_, Act.call_adds failed, .unmapped stop⟩
  cases found with
  | none =>
    cases ran
    exact ⟨_, Act.call_adds mapped, .noHeap⟩
  | some heap =>
    obtain ⟨stop, failed, rfl⟩ | ⟨pages, u, counted, ran⟩ := Act.bind_cases ran
    · exact ⟨_, (Act.call_adds mapped).trans (Act.call_adds failed), .uncounted heap stop⟩
    · cases ran
      exact ⟨_, (Act.call_adds mapped).trans (Act.call_adds counted), .counted heap pages⟩

/-- An error as a reason to stop. -/
abbrev stopping {α : Type} (r : Except MonitorError α) : Except Stop α :=
  r.mapError .error

/-- An error is no fault. -/
theorem stopping_ne_fault {α : Type} (r : Except MonitorError α) (f : Fault) : stopping r ≠ .error (.fault f) := by
  cases r <;> rintro ⟨⟩

/-- Whatever stops an act is an error or a fault. -/
theorem stopping_or_fault {α : Type} (r : Except Stop α) :
    (∃ value, r = stopping value) ∨ ∃ f, r = .error (.fault f) := by
  rcases r with (e | f) | a
  · exact .inl ⟨.error e, rfl⟩
  · exact .inr ⟨f, rfl⟩
  · exact .inl ⟨.ok a, rfl⟩

/-- What a cycle comes to whose measurement and thaw have ended: an error of the measurement comes
first, and without a thaw there is no sample. -/
def verdict (measured : Except MonitorError (Option Sample)) (thawed : Except MonitorError Unit) :
    Except MonitorError (Option Sample) := do
  let sample ← measured
  thawed
  return sample

/-- How a cycle can go. -/
inductive Cycle (p : SnapshotPlan) (iteration : UInt32) :
    Except Stop (Except MonitorError (Option Sample)) → List Event → Prop where
  | unfrozen {e : MonitorError} {freeze : List Event} (frozen : Attempt .frozen (.error (.error e)) freeze) :
      Cycle p iteration (.ok (.error e)) freeze
  | freezeFault {f : Fault} {freeze : List Event} (frozen : Attempt .frozen (.error (.fault f)) freeze) :
      Cycle p iteration (.error (.fault f)) freeze
  | measureFault {f : Fault} {freeze measuring : List Event} (frozen : Attempt .frozen (.ok ()) freeze)
      (measures : Measures p iteration (.error (.fault f)) measuring) :
      Cycle p iteration (.error (.fault f)) (freeze ++ measuring)
  | thawFault {measured : Except MonitorError (Option Sample)} {f : Fault} {freeze measuring thaw : List Event}
      (frozen : Attempt .frozen (.ok ()) freeze) (measures : Measures p iteration (stopping measured) measuring)
      (thaws : Attempt .thawed (.error (.fault f)) thaw) :
      Cycle p iteration (.error (.fault f)) (freeze ++ measuring ++ thaw)
  | complete {measured : Except MonitorError (Option Sample)} {thawed : Except MonitorError Unit}
      {freeze measuring thaw : List Event}
      (frozen : Attempt .frozen (.ok ()) freeze) (measures : Measures p iteration (stopping measured) measuring)
      (thaws : Attempt .thawed (stopping thawed) thaw) :
      Cycle p iteration (.ok (verdict measured thawed)) (freeze ++ measuring ++ thaw)

/-- An attempt gives an error as a value. -/
theorem attempt_apply {α : Type} {act : Act σ α} {value : Except MonitorError α}
    (acted : act s = (stopping value, s')) : attempt act s = (.ok value, s') := by
  cases value <;> simp only [attempt, acted] <;> rfl

theorem attempt_fault {α : Type} {act : Act σ α} {f : Fault} (acted : act s = (.error (.fault f), s')) :
    attempt act s = (.error (.fault f), s') := by
  rw [attempt, acted]

/-- An attempted act that went on gave what the act itself came to. -/
theorem attempt_ok {α : Type} {act : Act σ α} {value : Except MonitorError α}
    (ran : attempt act s = (.ok value, s')) : act s = (stopping value, s') := by
  obtain ⟨a, acted, same⟩ | ⟨e, acted, same⟩ | ⟨f, acted, same⟩ := Act.attempt_cases ran <;> cases same
  · exact acted
  · exact acted

/-- An attempted act stops only with a fault of the act itself. -/
theorem attempt_error {α : Type} {act : Act σ α} {stop : Stop} (ran : attempt act s = (.error stop, s')) :
    ∃ f, stop = .fault f ∧ act s = (.error (.fault f), s') := by
  obtain ⟨a, acted, same⟩ | ⟨e, acted, same⟩ | ⟨f, acted, same⟩ := Act.attempt_cases ran <;> cases same
  exact ⟨f, rfl, acted⟩

theorem cycle_cycles {r : Except Stop (Except MonitorError (Option Sample))}
    (ran : cycle c p pid iteration s = (r, s')) : ∃ es, s.Adds es s' ∧ Cycle p iteration r es := by
  obtain ⟨stop, failed, rfl⟩ | ⟨frozen, t, froze, ran⟩ := Act.bind_cases ran
  · obtain ⟨f, rfl, fault⟩ := attempt_error failed
    obtain ⟨freeze, added, attempted⟩ := Transition.run_attempts fault
    exact ⟨freeze, added, .freezeFault attempted⟩
  obtain ⟨freeze, freezing, attempted⟩ := Transition.run_attempts (attempt_ok froze)
  cases frozen with
  | error e =>
    cases ran
    exact ⟨freeze, freezing, .unfrozen attempted⟩
  | ok settled =>
    cases settled
    obtain ⟨stop, failed, rfl⟩ | ⟨measured, u, measuring, ran⟩ := Act.bind_cases ran
    · obtain ⟨f, rfl, fault⟩ := attempt_error failed
      obtain ⟨es, added, measures⟩ := measure_measures fault
      exact ⟨_, freezing.trans added, .measureFault attempted measures⟩
    obtain ⟨es, added, measures⟩ := measure_measures (attempt_ok measuring)
    obtain ⟨stop, failed, rfl⟩ | ⟨thawed, v, thawing, ran⟩ := Act.bind_cases ran
    · obtain ⟨f, rfl, fault⟩ := attempt_error failed
      obtain ⟨thaw, followed, thaws⟩ := Transition.run_attempts fault
      exact ⟨_, (freezing.trans added).trans followed, .thawFault attempted measures thaws⟩
    · obtain ⟨thaw, followed, thaws⟩ := Transition.run_attempts (attempt_ok thawing)
      cases ran
      exact ⟨_, (freezing.trans added).trans followed, .complete attempted measures thaws⟩

/-- How a snapshot can go: its result, its events, and the history that it leaves in place of `h`. -/
inductive Take (p : SnapshotPlan) (h : History) : Except Stop (Option Sample) → List Event → History → Prop where
  | fault {f : Fault} {es : List Event} (cycle : Cycle p (h.iteration + 1) (.error (.fault f)) es) :
      Take p h (.error (.fault f)) (.snapshotBegan :: es) h.begin.2
  | failed {e : MonitorError} {es : List Event} (cycle : Cycle p (h.iteration + 1) (.ok (.error e)) es) :
      Take p h (.error (.error e)) (.snapshotBegan :: (es ++ [.snapshotEnded none])) h
  | noHeap {es : List Event} (cycle : Cycle p (h.iteration + 1) (.ok (.ok none)) es) :
      Take p h (.ok none) (.snapshotBegan :: (es ++ [.snapshotEnded (some none)])) h
  | taken {sample : Sample} {es : List Event} (cycle : Cycle p (h.iteration + 1) (.ok (.ok (some sample))) es) :
      Take p h (.ok (some sample)) (.snapshotBegan :: (es ++ [.snapshotEnded (some (some sample))]))
        (h.begin.2.record sample)

/-- A cycle stops only with a fault. -/
theorem Cycle.fault_of_error {stop : Stop} {es : List Event} (cycle : Cycle p iteration (.error stop) es) :
    ∃ f, stop = .fault f := by
  cases cycle <;> exact ⟨_, rfl⟩

/-- A cycle that succeeds went through all its stages, and each of them succeeded. -/
theorem Cycle.stages {r : Except Stop (Except MonitorError (Option Sample))} {sample : Option Sample}
    {es : List Event} (cycle : Cycle p iteration r es) (succeeded : r = .ok (.ok sample)) :
    ∃ freeze measuring thaw, es = freeze ++ measuring ++ thaw ∧ Attempt .frozen (.ok ()) freeze ∧
      Measures p iteration (.ok sample) measuring ∧ Attempt .thawed (.ok ()) thaw := by
  cases cycle with
  | unfrozen | freezeFault | measureFault | thawFault => cases succeeded
  | @complete measured thawed freeze measuring thaw frozen measures thaws =>
    cases measured with
    | error e => cases succeeded
    | ok found =>
      cases thawed <;> cases succeeded
      exact ⟨freeze, measuring, thaw, rfl, frozen, measures, thaws⟩

theorem Take.stages {h h' : History} {sample : Option Sample} {es : List Event}
    (take : Take p h (.ok sample) es h') : ∃ freeze measuring thaw,
      es = .snapshotBegan :: (freeze ++ measuring ++ thaw ++ [.snapshotEnded (some sample)]) ∧
      Attempt .frozen (.ok ()) freeze ∧ Measures p (h.iteration + 1) (.ok sample) measuring ∧
      Attempt .thawed (.ok ()) thaw := by
  cases take with
  | noHeap cycle | taken cycle =>
    obtain ⟨freeze, measuring, thaw, rfl, stages⟩ := cycle.stages rfl
    exact ⟨freeze, measuring, thaw, rfl, stages⟩

/-- A sample that was taken is kept. -/
theorem Take.kept {h h' : History} {sample : Sample} {es : List Event} (take : Take p h (.ok (some sample)) es h') :
    h' = h.begin.2.record sample := by
  cases take
  rfl

theorem take_takes {r : Except Stop (Option Sample)} (ran : take c p pid s = (r, s')) :
    ∃ es, s'.events = s.events ++ es ∧ Take p s.history r es s'.history := by
  -- the snapshot is noted and its iteration claimed before the cycle
  obtain ⟨stop, ⟨⟩, -⟩ | ⟨⟨⟩, _, ⟨⟩, ran⟩ := Act.bind_cases ran
  obtain ⟨stop, ⟨⟩, -⟩ | ⟨iteration, began, begun, ran⟩ := Act.bind_cases ran
  have start : began.events = s.events ++ [.snapshotBegan] := by
    cases begun
    exact Session.events_note s _
  have claimed : began.history = s.history.begin.2 := by
    cases begun
    rfl
  cases (show iteration = s.history.iteration + 1 by cases begun; rfl)
  obtain ⟨stop, failed, rfl⟩ | ⟨result, t, ended, ran⟩ := Act.bind_cases ran
  · obtain ⟨es, added, cycled⟩ := cycle_cycles failed
    obtain ⟨f, rfl⟩ := cycled.fault_of_error
    refine ⟨.snapshotBegan :: es, by simp [added.events, start], ?_⟩
    rw [added.history, claimed]
    exact .fault cycled
  obtain ⟨es, added, cycled⟩ := cycle_cycles ended
  have noted (e : Event) (h : History) :
      (({ t with history := h } : Session σ).note e).events = s.events ++ .snapshotBegan :: (es ++ [e]) := by
    have same : ({ t with history := h } : Session σ).events = t.events := Session.events_congr rfl
    rw [Session.events_note, same, added.events, start]
    simp
  match result with
  | .error e =>
    cases ran
    refine ⟨_, noted _ _, ?_⟩
    change Take p s.history _ _ t.history.rollback
    rw [added.history, claimed, History.rollback_begin]
    exact .failed cycled
  | .ok none =>
    cases ran
    refine ⟨_, noted _ _, ?_⟩
    change Take p s.history _ _ t.history.rollback
    rw [added.history, claimed, History.rollback_begin]
    exact .noHeap cycled
  | .ok (some sample) =>
    cases ran
    refine ⟨_, noted _ _, ?_⟩
    change Take p s.history _ _ (t.history.record sample)
    rw [added.history, claimed]
    exact .taken cycled

end Snapshot

end HeapSampler

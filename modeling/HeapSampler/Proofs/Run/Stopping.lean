import HeapSampler.Proofs.Run.Going
import HeapSampler.Proofs.Run.Start
import HeapSampler.Proofs.Snapshot.Uninterrupted

/-!
# How a run stops

A request to stop is looked at between two turns only, and there it comes before everything else. So no
snapshot begins after it, and one that has begun is not torn: it ends as it would have ended, and the run
ends after it. Nor does a snapshot begin once the subject is known to have ended.
-/

namespace HeapSampler

namespace Watch

variable {σ : Type} {c : Collaborators σ} {w : Watch} {l l' : LoopState} {s t u v : Session σ} {k : Nat}

/-! ## Before a snapshot -/

/-- Once the end of the subject was noticed, the subject has ended. -/
theorem Going.ended_of_notice {es : List Event} {status : ExitStatus} (going : Going c w k l s l' t)
    (noted : t.events = s.events ++ es) (noticed : .exitNoticed status ∈ es) : t.alive = false := by
  induction going generalizing es with
  | start =>
    obtain rfl : es = [] := by simpa using noted
    cases noticed
  | @next n l l' l'' s s' s'' turned going ih =>
    have pass := turn_passes turned
    obtain ⟨fs, first, leads⟩ := pass.leads rfl
    obtain ⟨gs, rest, -⟩ := loop_loops going.loop_eq
    obtain rfl : es = fs ++ gs := by
      rw [rest, first, List.append_assoc] at noted
      exact (List.append_cancel_left noted).symm
    rcases List.mem_append.1 noticed with noticed | noticed
    · refine (going.keeps).ended (pass.keeps.ended ?_)
      cases leads with
      | missed due gone => exact gone
      | tookUp | waited => simp at noticed
      | @sampled rest events unasked alive due inner =>
        have outside : .exitNoticed status ∉ rest := Event.not_mem_inner inner rfl
        simp [outside] at noticed
    · exact ih rest noticed

/-- No snapshot begins after the end of the subject was noticed. -/
theorem loop_exit_last {n : Nat} {before after : List Event} {status : ExitStatus}
    (noticed : (loop c w n l s).2.events = s.events ++ (before ++ .exitNoticed status :: after)) :
    .snapshotBegan ∉ after := by
  intro began
  obtain ⟨between, rest, rfl⟩ := List.append_of_mem began
  have split : before ++ .exitNoticed status :: (between ++ .snapshotBegan :: rest) =
      (before ++ .exitNoticed status :: between) ++ .snapshotBegan :: rest := by simp
  rw [split] at noticed
  obtain ⟨k, l', t, -, going, reached, -, alive⟩ := loop_begins noticed
  have known : .exitNoticed status ∈ before ++ .exitNoticed status :: between := by simp
  have gone := going.ended_of_notice reached known
  simp [gone] at alive

/-! ## During a snapshot -/

/-- The clock cannot hold the time of the next snapshot. -/
def Late (w : Watch) (u : Session σ) : Prop :=
  ∃ period, w.plan.mode = .interval period ∧ ¬ u.now.nanos + period.nanos < Instant.limit

/-- How a run ends that is asked to stop while its snapshot after `k` turns, in session `t`, leads to `u`. -/
structure Whole (c : Collaborators σ) (w : Watch) (s : Session σ) (k : Nat) (t : Session σ)
    (r : Except Stop (Option Sample)) (u : Session σ) : Prop where
  /-- The snapshot goes as it goes with no interrupt. -/
  undisturbed : Snapshot.take c.uninterrupted w.snapshots w.pid t.uninterrupted = (r, u.uninterrupted)
  /-- It goes one of the ways that a snapshot can go. -/
  taken : ∃ es, u.events = t.events ++ es ∧ Snapshot.Take w.snapshots t.history r es u.history
  /-- Its sample is kept. -/
  kept : ∀ sample, r = .ok (some sample) → u.history = t.history.begin.2.record sample
  /-- An error of the snapshot is what the loop ends with. -/
  failed : ∀ stop, r = .error stop → ∀ n, w.monitor c (k + 1 + n) s = (.error stop, u)
  /-- Otherwise the run ends interrupted as soon as the waiting control events are taken up, unless the
  clock cannot even hold the time of the next snapshot. -/
  ended : ∀ sample, r = .ok sample →
    (∀ n, w.monitor c (k + 1 + (n + 1)) s = (.ok (some .interrupted), u.emptied)) ∨
      w.Late u ∧ ∀ n, w.monitor c (k + 1 + n) s = (.error (.fault .instantOverflow), u)

/-- How a run, begun in a session, stops. -/
structure Stops (c : Collaborators σ) (w : Watch) (s : Session σ) : Prop where
  /-- Once the monitor was asked to stop, the next turn ends the run, and nothing is done in it. -/
  atOnce : ∀ k t, w.monitor c k s = (.ok none, t) → t.cancelled = true →
    ∀ n, w.monitor c (k + 1 + n) s = (.ok (some .interrupted), t)
  /-- No snapshot begins unless the monitor was not asked to stop by then and the subject is alive. -/
  begins : ∀ n before after, (w.monitor c n s).2.events = s.events ++ (before ++ .snapshotBegan :: after) →
    ∃ k t, k < n ∧ w.monitor c k s = (.ok none, t) ∧ t.events = s.events ++ before ∧ t.cancelled = false ∧
      t.alive = true
  /-- Neither is undone: once asked to stop, the monitor stays so, and a subject that has ended stays ended. -/
  lasting : ∀ k n, (w.monitor c k s).2.Keeps (w.monitor c (k + n) s).2
  /-- No snapshot begins after the end of the subject was noticed. -/
  exitLast : ∀ n before status after,
    (w.monitor c n s).2.events = s.events ++ (before ++ .exitNoticed status :: after) → .snapshotBegan ∉ after
  /-- A snapshot during which the monitor is asked to stop is not torn, and the run ends after it. -/
  whole : ∀ k t rest r u, w.monitor c k s = (.ok none, t) →
    (w.monitor c (k + 1) s).2.events = t.events ++ .snapshotBegan :: rest →
    Snapshot.take c w.snapshots w.pid t = (r, u) → u.cancelled = true → Whole c w s k t r u

/-- Where the clock cannot hold the time of the first look, nothing is done. -/
theorem Stops.of_fault (faulty : ∀ n, w.monitor c n s = (.error (.fault .instantOverflow), s)) : Stops c w s where
  atOnce k t going := by
    rw [faulty] at going
    cases going
  begins n before after began := by simp [faulty] at began
  lasting k n := by
    rw [faulty, faulty]
    exact .of_same rfl rfl
  exitLast n before status after noticed := by simp [faulty] at noticed
  whole k t rest r u going := by
    rw [faulty] at going
    cases going

/-- What follows a snapshot during which the monitor was asked to stop. -/
theorem loop_whole {rest : List Event} {r : Except Stop (Option Sample)} (going : Going c w k l s l' t)
    (began : (loop c w (k + 1) l s).2.events = t.events ++ .snapshotBegan :: rest)
    (taken : Snapshot.take c w.snapshots w.pid t = (r, u)) (asked : u.cancelled = true) :
    (∃ stop, r = .error stop ∧ ∀ n, loop c w (k + 1 + n) l s = (.error stop, u)) ∨
      ∃ sample, r = .ok sample ∧ ((∀ n, loop c w (k + 1 + (n + 1)) l s = (.ok (some .interrupted), u.emptied)) ∨
        w.Late u ∧ ∀ n, loop c w (k + 1 + n) l s = (.error (.fault .instantOverflow), u)) := by
  rcases turned : w.turn c l' t with ⟨q, v⟩
  rw [going.loop_add 1, loop_one turned] at began
  have pass := turn_passes turned
  have ended {q' : Except Stop (Option Outcome)} (ends : ending q = some q') (n : Nat) :
      loop c w (k + 1 + n) l s = (q', v) := by
    rw [Nat.add_right_comm]
    exact going.loop_ended turned ends n
  obtain ⟨stop, rfl, rfl, rfl⟩ | ⟨sample, next, rfl, rfl, settles⟩ :=
    pass.of_begins (pass.begins began List.mem_cons_self) taken
  · exact .inl ⟨stop, rfl, ended rfl⟩
  refine .inr ⟨sample, rfl, ?_⟩
  cases settles with
  | on pending =>
    -- taking up control events does not look at the request to stop, the next turn does
    have still : u.emptied.cancelled = true := asked
    refine .inl fun n => ?_
    rw [(going.snoc turned).loop_add]
    exact loop_of_ending (turn_of_asked c w _ still) rfl n
  | overflow mode late => exact .inr ⟨⟨_, mode, late⟩, ended rfl⟩

/-- **Stopping is prompt and tears nothing.** -/
theorem monitor_stops (c : Collaborators σ) (w : Watch) (s : Session σ) : Stops c w s := by
  obtain faulty | ⟨wake, looping⟩ := monitor_cases c w s
  · exact .of_fault faulty
  constructor
  · intro k t going asked n
    rw [looping] at going
    rw [looping]
    obtain ⟨l, going⟩ := Going.of_loop going
    rw [Nat.add_assoc, going.loop_add, Nat.add_comm]
    exact loop_of_ending (turn_of_asked c w l asked) rfl n
  · intro n before after began
    rw [looping] at began
    obtain ⟨k, l, t, early, going, reached, unasked, alive⟩ := loop_begins began
    exact ⟨k, t, early, by rw [looping, going.loop_eq], reached, unasked, alive⟩
  · intro k n
    rw [looping, looping]
    rcases ran : loop c w k ⟨wake, false⟩ s with ⟨q, t⟩
    by_cases goes : q = .ok none
    · subst goes
      obtain ⟨l, going⟩ := Going.of_loop ran
      rw [going.loop_add]
      exact loop_keeps c w n l t
    · rw [loop_stays ran goes]
      exact .of_same rfl rfl
  · intro n before status after noticed
    rw [looping] at noticed
    exact loop_exit_last noticed
  · intro k t rest r u going began taken asked
    rw [looping] at going began
    obtain ⟨l, going⟩ := Going.of_loop going
    have followed := loop_whole going began taken asked
    obtain ⟨es, noted, course⟩ := Snapshot.take_takes taken
    have same := Snapshot.take_uninterrupted c w.snapshots w.pid t
    rw [taken] at same
    simp only [← looping] at followed
    refine ⟨same, ⟨es, noted, course⟩, ?_, ?_, ?_⟩
    · rintro sample rfl
      exact course.kept
    · rintro stop rfl
      obtain ⟨_, ⟨⟩, ends⟩ | ⟨_, ⟨⟩, -⟩ := followed
      exact ends
    · rintro sample rfl
      obtain ⟨_, ⟨⟩, -⟩ | ⟨_, ⟨⟩, ends⟩ := followed
      exact ends

/-- While the pages are classified the subject ends, another sample is asked for and the monitor is asked to
stop. -/
def Small.hectic : Collaborators (Nat × FreezeState) :=
  { Collaborators.obeyingFrom 1 with
    classify := fun _ _ _ _ scene =>
      { scene.answer 3 with happenings := [.subjectEnds (.signal killSignal), .control .sampleNow, .interrupt] } }

/-- The snapshot is completed and kept, and then the small run ends interrupted. -/
example :
    (Small.watch.monitor Small.hectic 5 Small.after).1.toOption = some (some .interrupted) ∧
      (Small.watch.monitor Small.hectic 5 Small.after).2.history.sizes = [3] := by
  decide +kernel

end Watch

end HeapSampler

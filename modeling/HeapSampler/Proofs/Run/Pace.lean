import HeapSampler.Proofs.Run.Waiting

/-!
# The pace of a run

Where a pause makes snapshots due, nothing else does. Between two turns the time of the next look is a pause
after the beginning of the loop and a pause after every snapshot that was completed (`Paced`), and no snapshot
begins before it.
-/

namespace HeapSampler

variable {σ : Type}

namespace Session

variable {s t u : Session σ}

/-- What was noted from one session to another, was noted between their moments. -/
structure Tells (s : Session σ) (es : List (Instant × Event)) (t : Session σ) : Prop where
  timeline : t.timeline = s.timeline ++ es
  later : s.now ≤ t.now
  between : ∀ p ∈ es, s.now ≤ p.1 ∧ p.1 ≤ t.now

theorem Tells.of_same (trace : t.trace = s.trace) (later : s.now ≤ t.now) : s.Tells [] t :=
  ⟨by rw [timeline_congr trace, List.append_nil], later, by simp⟩

theorem Tells.trans {es fs : List (Instant × Event)} (first : s.Tells es t) (second : t.Tells fs u) :
    s.Tells (es ++ fs) u where
  timeline := by rw [second.timeline, first.timeline, List.append_assoc]
  later := Nat.le_trans first.later second.later
  between p found := by
    rcases List.mem_append.1 found with found | found
    · exact ⟨(first.between p found).1, Nat.le_trans (first.between p found).2 second.later⟩
    · exact ⟨Nat.le_trans first.later (second.between p found).1, (second.between p found).2⟩

theorem Tells.note (s : Session σ) (e : Event) : s.Tells [(s.now, e)] (s.note e) where
  timeline := timeline_note s e
  later := Nat.le_refl _
  between p found := by
    rw [List.mem_singleton.1 found]
    exact ⟨Nat.le_refl _, Nat.le_refl _⟩

theorem Tells.advanceTo (s : Session σ) (t : Instant) : s.Tells [] (s.advanceTo t) :=
  .of_same (advanceTo_trace s t) (now_le_advanceTo s t)

/-- What is noted during a snapshot is noted between its beginning and its end. -/
theorem tells_lasts : Lasts (fun _ => True) fun s t : Session σ => ∃ es, s.Tells es t where
  refl s := ⟨[], .of_same rfl (Nat.le_refl _)⟩
  trans := by
    rintro s t u ⟨es, first⟩ ⟨fs, second⟩
    exact ⟨es ++ fs, first.trans second⟩
  note s e := ⟨_, .note s e⟩
  history s h := ⟨[], .of_same rfl (Nat.le_refl _)⟩
  advanceTo s t := ⟨[], .advanceTo s t⟩
  absorb s r _ := by
    refine ⟨[], .of_same (absorb_trace s r) ?_⟩
    rw [absorb_now]
    exact Nat.le_add_right _ _

theorem emptied_tells (s : Session σ) : s.Tells (s.inbox.map fun e => (s.now, .took e)) s.emptied where
  timeline := by simp [emptied, Session.timeline]
  later := Nat.le_refl _
  between p found := by
    obtain ⟨e, -, rfl⟩ := List.mem_map.1 found
    exact ⟨Nat.le_refl _, Nat.le_refl _⟩

end Session

/-! ## What a turn tells -/

namespace Act

theorem subjectAlive_tells : Along (fun s t : Session σ => ∃ es, s.Tells es t) Act.subjectAlive := by
  intro s
  unfold Act.subjectAlive
  rw [bind_ok get_apply]
  have same (t : Session σ) : t.Tells [] t := .of_same rfl (Nat.le_refl _)
  rcases s.subject with _ | ⟨pid, _ | status, _ | _⟩
  · exact ⟨_, same s⟩
  · exact ⟨_, same s⟩
  · exact ⟨_, same s⟩
  · exact ⟨_, (Session.Tells.note s _).trans (.of_same rfl (Nat.le_refl _))⟩
  · exact ⟨_, same s⟩

end Act

namespace Watch

open Session (Tells)
open Act (Along)

variable {c : Collaborators σ} {w : Watch} {l l' : LoopState} {s t u : Session σ} {period : Duration}
  {start : Instant} {es : List (Instant × Event)}

theorem settle_tells (w : Watch) (l : LoopState) : Along (fun s t : Session σ => ∃ es, s.Tells es t) (settle w l) := by
  intro s
  rcases settled : settle w l s with ⟨r, t⟩
  cases settle_settles settled with
  | on => exact ⟨_, s.emptied_tells⟩
  | overflow => exact ⟨[], .of_same rfl (Nat.le_refl _)⟩

theorem turn_tells (c : Collaborators σ) (w : Watch) (l : LoopState) :
    Along (fun s t : Session σ => ∃ es, s.Tells es t) (w.turn c l) := by
  have lasts := Session.tells_lasts (σ := σ)
  have looks : Along (fun s t : Session σ => ∃ es, s.Tells es t) (w.look l) := by
    unfold look
    cases w.plan.mode with
    | interval => exact .pure lasts _
    | onRequest =>
      refine .bind lasts Act.subjectAlive_tells fun alive => ?_
      cases alive with
      | false => exact .pure lasts _
      | true => exact .bind lasts (.deadlineIn lasts _) fun _ => .pure lasts _
  intro s
  cases turn_way c w l s with
  | asked turned =>
    rw [turned]
    exact lasts.refl s
  | due due turned =>
    rw [turned]
    refine Along.bind lasts (.bind lasts Act.subjectAlive_tells fun alive => ?_) (fun _ => .pure lasts _) s
    cases alive with
    | false => exact settle_tells w l
    | true =>
      refine .bind lasts (fun s => ?_) fun _ => settle_tells w l
      rw [Act.discard_apply]
      exact Along.take lasts c.brings_any _ _ s
  | ended turned =>
    rw [turned]
    exact Act.subjectAlive_tells s
  | event idle turned =>
    rw [turned]
    exact ⟨_, (Tells.note s _).trans (.of_same rfl (Nat.le_refl _))⟩
  | soon idle turned =>
    rw [turned]
    exact lasts.advanceTo s _
  | late idle turned =>
    rw [turned]
    exact lasts.trans (lasts.advanceTo s _) (looks _)

/-- The loop, begun at some moment, has told some events and keeps its pace. -/
structure Paced (period : Duration) (start : Instant) (es : List (Instant × Event)) (l : LoopState) (s : Session σ) :
    Prop where
  begun : start.later period ≤ l.nextWake
  completed : ∀ t result, (t, .snapshotEnded result) ∈ es → t.later period ≤ l.nextWake
  due : l.samplePending = true → l.nextWake ≤ s.now

theorem later_le_later {a b : Instant} (le : a ≤ b) (d : Duration) : a.later d ≤ b.later d :=
  Nat.add_le_add_right le d.nanos

theorem demandsSample_interval (mode : w.plan.mode = .interval period) (e : ControlEvent) :
    w.demandsSample e = false := by
  cases e <;> simp [demandsSample, mode]

/-- After a snapshot, completed or not begun, the next one is due a pause later. -/
theorem sample_paced (mode : w.plan.mode = .interval period) (paced : Paced period start es l s)
    (due : l.samplePending = true) (sampled : w.sample c l s = (.ok l', t)) :
    ∃ fs, s.Tells fs t ∧ Paced period start (es ++ fs) l' t := by
  obtain ⟨u, ⟨gs, tells⟩, settled⟩ : ∃ u, (∃ gs, s.Tells gs u) ∧ settle w l u = (.ok l', t) := by
    unfold sample at sampled
    obtain ⟨stop, -, ⟨⟩⟩ | ⟨alive, v, looked, sampled⟩ := Act.bind_cases sampled
    have looks := Act.subjectAlive_tells s
    rw [looked] at looks
    cases alive with
    | false => exact ⟨v, looks, sampled⟩
    | true =>
      obtain ⟨stop, -, ⟨⟩⟩ | ⟨sample, u, taken, settled⟩ := Act.discard_bind_cases sampled
      have takes := Along.take Session.tells_lasts c.brings_any w.snapshots w.pid v
      rw [taken] at takes
      exact ⟨u, Session.tells_lasts.trans looks takes, settled⟩
  have reached : l.nextWake ≤ u.now := Nat.le_trans (paced.due due) tells.later
  have wakes : l'.nextWake = u.now.later period ∧ l'.samplePending = u.inbox.any w.demandsSample ∧ t = u.emptied := by
    unfold settle at settled
    simp only [mode] at settled
    obtain ⟨stop, -, ⟨⟩⟩ | ⟨wake, v, set, settled⟩ := Act.bind_cases settled
    rw [Act.deadlineIn_apply] at set
    by_cases fits : u.now.nanos + period.nanos < Instant.limit
    · rw [if_pos fits] at set
      cases set
      rw [Act.bind_ok (drain_apply w u)] at settled
      cases settled
      exact ⟨rfl, rfl, rfl⟩
    · rw [if_neg fits] at set
      cases set
  obtain ⟨wake, pending, rfl⟩ := wakes
  refine ⟨_, tells.trans u.emptied_tells, ?_, ?_, ?_⟩
  · rw [wake]
    exact Nat.le_trans paced.begun (Nat.le_trans reached (Nat.le_add_right _ _))
  · intro t result ended
    rw [wake]
    rcases List.mem_append.1 ended with ended | ended
    · exact Nat.le_trans (paced.completed t result ended) (Nat.le_trans reached (Nat.le_add_right _ _))
    rcases List.mem_append.1 ended with ended | ended
    · exact later_le_later (tells.between _ ended).2 period
    · simp at ended
  · intro due'
    simp [pending, demandsSample_interval mode] at due'

/-- Every turn keeps the pace. -/
theorem turn_paced (mode : w.plan.mode = .interval period) (paced : Paced period start es l s)
    (turned : w.turn c l s = (.ok (.inr l'), t)) : ∃ fs, s.Tells fs t ∧ Paced period start (es ++ fs) l' t := by
  cases turn_way c w l s with
  | asked turned' =>
    rw [turned'] at turned
    cases turned
  | due due turned' =>
    rw [turned'] at turned
    obtain ⟨stop, -, ⟨⟩⟩ | ⟨_, _, sampled, ⟨⟩⟩ := Act.bind_cases turned
    exact sample_paced mode paced due sampled
  | ended turned' =>
    rw [turned'] at turned
    cases turned
  | event idle turned' =>
    rw [turned'] at turned
    cases turned
    refine ⟨_, (Tells.note s _).trans (.of_same rfl (Nat.le_refl _)), paced.begun, fun t result ended => ?_, ?_⟩
    · exact paced.completed t result (by simpa using ended)
    · simp [demandsSample_interval mode]
  | soon idle turned' =>
    rw [turned'] at turned
    cases turned
    refine ⟨[], .advanceTo s _, ?_⟩
    rw [List.append_nil]
    exact ⟨paced.begun, paced.completed, by simp [idle]⟩
  | late idle turned' =>
    rw [turned', look] at turned
    simp only [mode] at turned
    cases turned
    refine ⟨[], .advanceTo s _, ?_⟩
    rw [List.append_nil]
    exact ⟨paced.begun, paced.completed, fun _ =>
      Nat.le_trans (due_le_wakeTime c s l.nextWake) (Session.le_advanceTo s _)⟩

theorem Going.paced {k : Nat} (mode : w.plan.mode = .interval period) (going : Going c w k l s l' t)
    (paced : Paced period start es l s) : ∃ fs, s.Tells fs t ∧ Paced period start (es ++ fs) l' t := by
  induction going generalizing es with
  | start => exact ⟨[], .of_same rfl (Nat.le_refl _), by rwa [List.append_nil]⟩
  | next turned going ih =>
    obtain ⟨fs, tells, paced⟩ := turn_paced mode paced turned
    obtain ⟨gs, tells', paced⟩ := ih paced
    exact ⟨fs ++ gs, tells.trans tells', by rwa [← List.append_assoc]⟩

theorem loop_tells (c : Collaborators σ) (w : Watch) (n : Nat) (l : LoopState) (s : Session σ) :
    ∃ es, s.Tells es (loop c w n l s).2 := by
  induction n generalizing l s with
  | zero => exact ⟨[], .of_same rfl (Nat.le_refl _)⟩
  | succ n ih =>
    have told := turn_tells c w l s
    obtain ⟨r, t, q, turned, ends⟩ | ⟨l', t, turned⟩ := turn_cases c w l s <;> rw [turned] at told
    · rw [loop_of_ending turned ends]
      exact told
    · rw [loop_of_turn turned]
      exact Session.tells_lasts.trans told (ih l' t)

/-- No snapshot begins earlier than a pause after the beginning, or than a pause after another was completed. -/
theorem monitor_paced (mode : w.plan.mode = .interval period) (c : Collaborators σ) (s : Session σ) (n : Nat)
    {before after : List (Instant × Event)}
    (began : (w.monitor c n s).2.timeline = s.timeline ++ (before ++ (start, .snapshotBegan) :: after)) :
    s.now.later period ≤ start ∧ ∀ t result, (t, .snapshotEnded result) ∈ before → t.later period ≤ start := by
  have pause : w.period = period := by rw [Watch.period, mode]
  rw [monitor_eq, pause] at began
  by_cases fits : s.now.nanos + period.nanos < Instant.limit
  · rw [if_pos fits] at began
    have events := congrArg (List.map Prod.snd) began
    simp only [List.map_append, List.map_cons] at events
    obtain ⟨k, l, u, early, going, reached, -, -, due⟩ := loop_begins_due events
    have begins : Paced period s.now [] ⟨s.now.later period, false⟩ s := ⟨Nat.le_refl _, by simp, by simp⟩
    obtain ⟨fs, tells, paced⟩ := going.paced mode begins
    obtain ⟨m, rfl⟩ := Nat.exists_eq_add_of_lt early
    rw [Nat.add_assoc, going.loop_add] at began
    obtain ⟨gs, rest⟩ := loop_tells c w (m + 1) l u
    rw [rest.timeline, tells.timeline, List.append_assoc] at began
    have told : u.events = s.events ++ fs.map Prod.snd := by
      rw [Session.events, tells.timeline, List.map_append]
      rfl
    have notes : fs.map Prod.snd = before.map Prod.snd := List.append_cancel_left (told.symm.trans reached)
    have same : fs.length = before.length := by simpa using congrArg List.length notes
    obtain ⟨rfl, rfl⟩ := List.append_inj (List.append_cancel_left began) same
    have noted : u.now ≤ start := (rest.between _ List.mem_cons_self).1
    have wakes : l.nextWake ≤ start := Nat.le_trans (paced.due due) noted
    exact ⟨Nat.le_trans paced.begun wakes, fun t result ended => Nat.le_trans (paced.completed t result ended) wakes⟩
  · rw [if_neg fits] at began
    simp at began

end Watch

end HeapSampler

import HeapSampler.Proofs.Lasting
import HeapSampler.Proofs.Run.Course
import HeapSampler.Proofs.Snapshot.Order

/-!
# Turn by turn

`Pass` lists the ways in which a turn of the sampling loop can go from one session to the next. What a turn
notes depends on whether it leads on to another turn (`Leads`) or ends the loop (`Closes`), and in both cases
a snapshot begins only under the conditions of `Begins`.
-/

namespace HeapSampler

variable {σ : Type}

/-! ## Looking at the subject, taking up events -/

namespace Session

variable {s t : Session σ}

/-- All that was noted is that the subject has ended. -/
def Notices (es : List Event) : Prop :=
  ∀ e ∈ es, ∃ status, e = .exitNoticed status

theorem Notices.not_mem {e : Event} {es : List Event} (notices : Notices es) (other : ∀ status, e ≠ .exitNoticed status) :
    e ∉ es := by
  intro found
  obtain ⟨status, same⟩ := notices e found
  exact other status same

/-- A look at the subject found that it has ended. -/
structure Loses (s t : Session σ) : Prop where
  ended : s.alive = false
  found : t.foundDead = true
  still : t.alive = false
  notes : ∃ notice, t.events = s.events ++ notice ∧ Notices notice
  cancelled : t.cancelled = s.cancelled
  inbox : t.inbox = s.inbox
  agenda : t.agenda = s.agenda
  history : t.history = s.history

theorem subjectAlive_of_alive (alive : s.alive = true) : Act.subjectAlive s = (.ok true, s) := by
  unfold Act.subjectAlive
  rw [Act.bind_ok Act.get_apply]
  rcases subject : s.subject with _ | ⟨pid, _ | status, noticed⟩ <;> simp [Session.alive, subject] at alive
  rfl

theorem subjectAlive_of_ended (ended : s.alive = false) : ∃ t, Act.subjectAlive s = (.ok false, t) ∧ s.Loses t := by
  unfold Act.subjectAlive
  rw [Act.bind_ok Act.get_apply]
  have known (found : s.foundDead = true) : s.Loses s := by
    refine ⟨ended, found, ended, ⟨[], (List.append_nil _).symm, ?_⟩, rfl, rfl, rfl, rfl⟩
    exact fun e none => absurd none List.not_mem_nil
  rcases subject : s.subject with _ | ⟨pid, _ | status, _ | _⟩
  · exact ⟨s, rfl, known (by rw [foundDead, subject]; rfl)⟩
  · simp [Session.alive, subject] at ended
  · simp [Session.alive, subject] at ended
  · refine ⟨_, rfl, ended, rfl, rfl, ⟨[.exitNoticed status], events_note s _, ?_⟩, rfl, rfl, rfl, rfl⟩
    exact fun e found => ⟨status, List.mem_singleton.1 found⟩
  · exact ⟨s, rfl, known (by rw [foundDead, subject]; rfl)⟩

/-- The session after all control events that are waiting were taken up. -/
def emptied (s : Session σ) : Session σ :=
  { s with inbox := [], trace := (s.inbox.map fun e => (s.now, .took e)).reverse ++ s.trace }

theorem foldl_took_eq (es : List ControlEvent) (s : Session σ) :
    es.foldl (fun s e => s.note (.took e)) s =
      { s with trace := (es.map fun e => (s.now, .took e)).reverse ++ s.trace } := by
  induction es generalizing s with
  | nil => rfl
  | cons e es ih =>
    rw [List.foldl_cons, ih]
    simp [note]

theorem emptied_events (s : Session σ) : s.emptied.events = s.events ++ s.inbox.map .took := by
  simp [emptied, events, timeline]

end Session

namespace Watch

open Session (Loses)

variable {c : Collaborators σ} {w : Watch} {l : LoopState} {s s' t : Session σ}

theorem drain_apply (w : Watch) (s : Session σ) : w.drain s = (.ok (s.inbox.any w.demandsSample), s.emptied) := by
  have taken (s : Session σ) : { s.inbox.foldl (fun s e => s.note (.took e)) s with inbox := [] } = s.emptied := by
    rw [Session.foldl_took_eq]
    rfl
  rw [← taken]
  rfl

/-- What may follow a snapshot in its turn. -/
inductive Settles (w : Watch) (u : Session σ) : Except Stop LoopState → Session σ → Prop where
  /-- All waiting control events were taken up. -/
  | on {l : LoopState} (pending : l.samplePending = u.inbox.any w.demandsSample) : Settles w u (.ok l) u.emptied
  /-- The clock cannot hold the time of the next snapshot. -/
  | overflow {period : Duration} (mode : w.plan.mode = .interval period)
      (late : ¬ u.now.nanos + period.nanos < Instant.limit) : Settles w u (.error (.fault .instantOverflow)) u

theorem settle_settles {r : Except Stop LoopState} (ran : settle w l s = (r, s')) : Settles w s r s' := by
  unfold settle at ran
  cases mode : w.plan.mode with
  | onRequest =>
    rw [mode] at ran
    simp only [Act.bind_ok (show (pure l.nextWake : Act σ Instant) s = (.ok l.nextWake, s) from rfl),
      Act.bind_ok (drain_apply w s)] at ran
    cases ran
    exact .on rfl
  | interval period =>
    rw [mode] at ran
    simp only at ran
    by_cases fits : s.now.nanos + period.nanos < Instant.limit
    · have set : Act.deadlineIn period s = (.ok (s.now.later period), s) := by
        rw [Act.deadlineIn_apply, if_pos fits]
      rw [Act.bind_ok set, Act.bind_ok (drain_apply w s)] at ran
      cases ran
      exact .on rfl
    · have fault : Act.deadlineIn period s = (.error (.fault .instantOverflow), s) := by
        rw [Act.deadlineIn_apply, if_neg fits]
      rw [Act.bind_error fault] at ran
      cases ran
      exact .overflow mode fits

/-! ## Turns -/

/-- How a turn can go from one session to another, with its result. -/
inductive Pass (c : Collaborators σ) (w : Watch) (l : LoopState) (s : Session σ) :
    Except Stop (Outcome ⊕ LoopState) → Session σ → Prop where
  /-- The monitor has been asked to stop. -/
  | interrupted (asked : s.cancelled = true) : Pass c w l s (.ok (.inl .interrupted)) s
  /-- The snapshot that was due ended the run. -/
  | failed {stop : Stop} {u : Session σ} (unasked : s.cancelled = false) (due : l.samplePending = true)
      (alive : s.alive = true) (taken : Snapshot.take c w.snapshots w.pid s = (.error stop, u)) :
      Pass c w l s (.error stop) u
  /-- The snapshot that was due was taken. -/
  | sampled {sample : Option Sample} {r : Except Stop LoopState} {u v : Session σ} (unasked : s.cancelled = false)
      (due : l.samplePending = true) (alive : s.alive = true)
      (taken : Snapshot.take c w.snapshots w.pid s = (.ok sample, u)) (settles : Settles w u r v) :
      Pass c w l s (r.map .inr) v
  /-- A snapshot was due, but the subject had ended. -/
  | missed {r : Except Stop LoopState} {t u : Session σ} (unasked : s.cancelled = false)
      (due : l.samplePending = true) (loses : s.Loses t) (settles : Settles w t r u) : Pass c w l s (r.map .inr) u
  /-- A control event was taken up. -/
  | takesUp {e : ControlEvent} {rest : List ControlEvent} (unasked : s.cancelled = false)
      (idle : l.samplePending = false) (alive : s.alive = true) (waiting : s.inbox = e :: rest) :
      Pass c w l s (.ok (.inr { l with samplePending := w.demandsSample e })) { s.note (.took e) with inbox := rest }
  /-- Some time passed. -/
  | waits {l' : LoopState} {t : Instant} (unasked : s.cancelled = false) (idle : l.samplePending = false)
      (alive : s.alive = true) (empty : s.inbox = []) (due : l'.samplePending = true → w.plan.mode ≠ .onRequest) :
      Pass c w l s (.ok (.inr l')) (s.advanceTo t)
  /-- The subject had ended, at once or after some time. -/
  | exits {t u : Session σ} (unasked : s.cancelled = false) (idle : l.samplePending = false)
      (waited : t = s ∨ s.alive = true ∧ s.inbox = [] ∧ ∃ m, t = s.advanceTo m) (loses : t.Loses u) :
      Pass c w l s (.ok (.inl .subjectExited)) u
  /-- The clock cannot hold the time of the next look. -/
  | overflows {t : Instant} (unasked : s.cancelled = false) (idle : l.samplePending = false)
      (alive : s.alive = true) (empty : s.inbox = []) :
      Pass c w l s (.error (.fault .instantOverflow)) (s.advanceTo t)

theorem sample_passes {r : Except Stop LoopState} (unasked : s.cancelled = false) (due : l.samplePending = true)
    (ran : w.sample c l s = (r, s')) : Pass c w l s (r.map .inr) s' := by
  unfold sample at ran
  cases alive : s.alive with
  | false =>
    obtain ⟨t, looked, loses⟩ := Session.subjectAlive_of_ended alive
    rw [Act.bind_ok looked] at ran
    have settled : settle w l t = (r, s') := ran
    exact .missed unasked due loses (settle_settles settled)
  | true =>
    rw [Act.bind_ok (Session.subjectAlive_of_alive alive)] at ran
    simp only [if_true] at ran
    obtain ⟨stop, stopped, rfl⟩ | ⟨sample, u, taken, ran⟩ := Act.discard_bind_cases ran
    · exact .failed unasked due alive stopped
    · have settled : settle w l u = (r, s') := ran
      exact .sampled unasked due alive taken (settle_settles settled)

theorem look_passes {m : Instant} {r : Except Stop (Outcome ⊕ LoopState)} (unasked : s.cancelled = false)
    (idle : l.samplePending = false) (alive : s.alive = true) (empty : s.inbox = [])
    (ran : w.look l (s.advanceTo m) = (r, s')) : Pass c w l s r s' := by
  unfold look at ran
  cases mode : w.plan.mode with
  | interval period =>
    rw [mode] at ran
    cases ran
    exact .waits unasked idle alive empty (by simp [mode])
  | onRequest =>
    rw [mode] at ran
    simp only at ran
    cases still : (s.advanceTo m).alive with
    | false =>
      obtain ⟨u, looked, loses⟩ := Session.subjectAlive_of_ended still
      rw [Act.bind_ok looked] at ran
      cases ran
      exact .exits unasked idle (.inr ⟨alive, empty, m, rfl⟩) loses
    | true =>
      rw [Act.bind_ok (Session.subjectAlive_of_alive still)] at ran
      simp only [if_true] at ran
      obtain ⟨stop, stopped, rfl⟩ | ⟨wake, u, set, ran⟩ := Act.bind_cases ran
      · rw [Act.deadlineIn_apply] at stopped
        split at stopped <;> cases stopped
        exact .overflows unasked idle alive empty
      · rw [Act.deadlineIn_apply] at set
        cases congrArg Prod.snd set
        cases ran
        exact .waits unasked idle alive empty (by simp [idle])

theorem wait_passes {r : Except Stop (Outcome ⊕ LoopState)} (unasked : s.cancelled = false)
    (idle : l.samplePending = false) (ran : w.wait c l s = (r, s')) : Pass c w l s r s' := by
  unfold wait at ran
  cases alive : s.alive with
  | false =>
    obtain ⟨u, looked, loses⟩ := Session.subjectAlive_of_ended alive
    rw [Act.bind_ok looked] at ran
    cases ran
    exact .exits unasked idle (.inl rfl) loses
  | true =>
    rw [Act.bind_ok (Session.subjectAlive_of_alive alive)] at ran
    simp only [Bool.not_true, Bool.false_eq_true, if_false] at ran
    rw [Act.bind_ok Act.get_apply] at ran
    have advanced (t : Instant) :
        (modify fun s => s.advanceTo t : Act σ Unit) s = (.ok (), s.advanceTo t) := rfl
    cases waiting : s.inbox with
    | cons e rest =>
      rw [waiting] at ran
      cases ran
      exact .takesUp unasked idle alive waiting
    | nil =>
      rw [waiting] at ran
      rcases agenda : s.agenda with _ | ⟨⟨t, what⟩, later⟩ <;> rw [agenda] at ran <;> simp only at ran
      · rw [Act.bind_ok (advanced _)] at ran
        exact look_passes unasked idle alive waiting ran
      · by_cases soon : t ≤ wakeTime c s l.nextWake
        · rw [if_pos soon, Act.bind_ok (advanced t)] at ran
          cases ran
          exact .waits unasked idle alive waiting (by simp [idle])
        · rw [if_neg soon, Act.bind_ok (advanced _)] at ran
          exact look_passes unasked idle alive waiting ran

theorem turn_passes {r : Except Stop (Outcome ⊕ LoopState)} (ran : w.turn c l s = (r, s')) : Pass c w l s r s' := by
  rw [turn, Act.bind_ok Act.get_apply] at ran
  cases asked : s.cancelled with
  | true =>
    rw [asked] at ran
    cases ran
    exact .interrupted asked
  | false =>
    rw [asked] at ran
    simp only [Bool.false_eq_true, if_false] at ran
    cases due : l.samplePending with
    | false =>
      rw [due] at ran
      exact wait_passes asked due ran
    | true =>
      rw [due] at ran
      simp only [if_true] at ran
      obtain ⟨stop, stopped, rfl⟩ | ⟨next, t, sampled, ran⟩ := Act.bind_cases ran
      · exact sample_passes asked due stopped
      · cases ran
        exact sample_passes asked due sampled

/-- Time alone undoes nothing. -/
theorem advanceTo_keeps (s : Session σ) (t : Instant) : s.Keeps (s.advanceTo t) :=
  (Session.Keeps.lasts.advanceTo s t fun _ _ => trivial).2

theorem Settles.keeps {r : Except Stop LoopState} (settles : Settles w s r t) : s.Keeps t := by
  cases settles <;> exact .of_same rfl rfl

theorem loses_keeps (loses : s.Loses t) : s.Keeps t where
  asked asked := by rw [loses.cancelled, asked]
  ended _ := loses.still
  found _ := loses.found

/-- A turn undoes nothing that happened before it. -/
theorem Pass.keeps {r : Except Stop (Outcome ⊕ LoopState)} (pass : Pass c w l s r s') : s.Keeps s' := by
  have taken_keeps {q : Except Stop (Option Sample)} {u : Session σ}
      (taken : Snapshot.take c w.snapshots w.pid s = (q, u)) : s.Keeps u := by
    have kept := Snapshot.take_keeps c w.snapshots w.pid s
    rwa [taken] at kept
  cases pass with
  | interrupted | takesUp => exact .of_same rfl rfl
  | failed unasked due alive taken => exact taken_keeps taken
  | sampled unasked due alive taken settles => exact (taken_keeps taken).trans settles.keeps
  | missed unasked due loses settles => exact (loses_keeps loses).trans settles.keeps
  | waits | overflows => exact advanceTo_keeps s _
  | exits unasked idle waited loses =>
    rcases waited with rfl | ⟨-, -, m, rfl⟩
    · exact loses_keeps loses
    · exact (advanceTo_keeps s m).trans (loses_keeps loses)

/-! ## What a turn notes -/

/-- What a turn comes to as the result of a loop, unless it leads on. -/
def ending : Except Stop (Outcome ⊕ LoopState) → Option (Except Stop (Option Outcome))
  | .ok (.inl outcome) => some (.ok (some outcome))
  | .ok (.inr _) => none
  | .error stop => some (.error stop)

/-- What a turn that leads on notes, and whether a snapshot is due after it. -/
inductive Leads (w : Watch) (l : LoopState) (s : Session σ) (l' : LoopState) (s' : Session σ) : List Event → Prop where
  | sampled {rest : List Event} {events : List ControlEvent} (unasked : s.cancelled = false) (alive : s.alive = true)
      (due : l.samplePending = true) (inner : ∀ e ∈ rest, e.isInner)
      (pending : l'.samplePending = events.any w.demandsSample) (empty : s'.inbox = []) :
      Leads w l s l' s' (.snapshotBegan :: (rest ++ events.map .took))
  | missed {notice : List Event} {events : List ControlEvent} (due : l.samplePending = true) (gone : s.alive = false)
      (found : s'.foundDead = true) (notices : Session.Notices notice)
      (pending : l'.samplePending = events.any w.demandsSample) : Leads w l s l' s' (notice ++ events.map .took)
  | tookUp {e : ControlEvent} (idle : l.samplePending = false) (waiting : s.inbox = e :: s'.inbox)
      (pending : l'.samplePending = w.demandsSample e) : Leads w l s l' s' [.took e]
  | waited (idle : l.samplePending = false) (empty : s.inbox = [])
      (due : l'.samplePending = true → w.plan.mode ≠ .onRequest) : Leads w l s l' s' []

/-- What a turn that ends the loop notes. -/
inductive Closes (w : Watch) (l : LoopState) (s s' : Session σ) : Except Stop (Option Outcome) → List Event → Prop where
  | interrupted : Closes w l s s' (.ok (some .interrupted)) []
  | failed {stop : Stop} {rest : List Event} (unasked : s.cancelled = false) (alive : s.alive = true)
      (due : l.samplePending = true) (inner : ∀ e ∈ rest, e.isInner) :
      Closes w l s s' (.error stop) (.snapshotBegan :: rest)
  | missed {notice : List Event} {f : Fault} (due : l.samplePending = true) (found : s'.foundDead = true)
      (notices : Session.Notices notice) : Closes w l s s' (.error (.fault f)) notice
  | exited {notice : List Event} (idle : l.samplePending = false) (found : s'.foundDead = true)
      (notices : Session.Notices notice) : Closes w l s s' (.ok (some .subjectExited)) notice
  | overflowed {f : Fault} (idle : l.samplePending = false) : Closes w l s s' (.error (.fault f)) []

theorem take_notes {r : Except Stop (Option Sample)} (taken : Snapshot.take c w.snapshots w.pid s = (r, t)) :
    ∃ rest, t.events = s.events ++ .snapshotBegan :: rest ∧ ∀ e ∈ rest, e.isInner := by
  obtain ⟨es, noted, take⟩ := Snapshot.take_takes taken
  obtain ⟨rest, rfl, inner⟩ := take.inner
  exact ⟨rest, noted, inner⟩

theorem Pass.leads {l' : LoopState} {r : Except Stop (Outcome ⊕ LoopState)} (pass : Pass c w l s r s')
    (on : r = .ok (.inr l')) : ∃ es, s'.events = s.events ++ es ∧ Leads w l s l' s' es := by
  cases pass with
  | interrupted | failed | exits | overflows => cases on
  | sampled unasked due alive taken settles =>
    obtain ⟨rest, noted, inner⟩ := take_notes taken
    cases settles with
    | overflow => cases on
    | on pending =>
      cases on
      refine ⟨_, ?_, .sampled unasked alive due inner pending rfl⟩
      rw [Session.emptied_events, noted, List.append_assoc]
      rfl
  | missed unasked due loses settles =>
    obtain ⟨notice, noted, notices⟩ := loses.notes
    cases settles with
    | overflow => cases on
    | on pending =>
      cases on
      refine ⟨_, ?_, .missed due loses.ended loses.found notices pending⟩
      rw [Session.emptied_events, noted, List.append_assoc]
  | takesUp unasked idle alive waiting =>
    cases on
    exact ⟨_, Session.events_note s _, .tookUp idle waiting rfl⟩
  | waits unasked idle alive empty due =>
    cases on
    refine ⟨[], ?_, .waited idle empty due⟩
    rw [Session.events_congr (Session.advanceTo_trace _ _), List.append_nil]

theorem Pass.closes {r : Except Stop (Outcome ⊕ LoopState)} {q : Except Stop (Option Outcome)}
    (pass : Pass c w l s r s') (ends : ending r = some q) : ∃ es, s'.events = s.events ++ es ∧ Closes w l s s' q es := by
  cases pass with
  | takesUp | waits => cases ends
  | interrupted asked =>
    cases ends
    exact ⟨[], (List.append_nil _).symm, .interrupted⟩
  | failed unasked due alive taken =>
    cases ends
    obtain ⟨rest, noted, inner⟩ := take_notes taken
    exact ⟨_, noted, .failed unasked alive due inner⟩
  | sampled unasked due alive taken settles =>
    obtain ⟨rest, noted, inner⟩ := take_notes taken
    cases settles <;> cases ends
    exact ⟨_, noted, .failed unasked alive due inner⟩
  | missed unasked due loses settles =>
    obtain ⟨notice, noted, notices⟩ := loses.notes
    cases settles <;> cases ends
    exact ⟨notice, noted, .missed due loses.found notices⟩
  | exits unasked idle waited loses =>
    cases ends
    obtain ⟨notice, noted, notices⟩ := loses.notes
    refine ⟨notice, ?_, .exited idle loses.found notices⟩
    rcases waited with rfl | ⟨-, -, m, rfl⟩
    · exact noted
    · rw [noted, Session.events_congr (Session.advanceTo_trace _ _)]
  | overflows unasked idle alive empty =>
    cases ends
    refine ⟨[], ?_, .overflowed idle⟩
    rw [Session.events_congr (Session.advanceTo_trace _ _), List.append_nil]

theorem ending_cases (r : Except Stop (Outcome ⊕ LoopState)) :
    (∃ q, ending r = some q) ∨ ∃ l, r = .ok (.inr l) := by
  rcases r with stop | outcome | l
  · exact .inl ⟨_, rfl⟩
  · exact .inl ⟨_, rfl⟩
  · exact .inr ⟨l, rfl⟩

/-- A turn begins a snapshot only if one is due, the subject is alive and the monitor was not asked to
stop; and it begins it at once. -/
structure Begins (l : LoopState) (s : Session σ) (es : List Event) : Prop where
  unasked : s.cancelled = false
  alive : s.alive = true
  due : l.samplePending = true
  first : ∃ rest, es = .snapshotBegan :: rest ∧ .snapshotBegan ∉ rest

theorem Begins.at_once {before after : List Event} (begins : Begins l s (before ++ .snapshotBegan :: after)) :
    before = [] := by
  obtain ⟨rest, split, once⟩ := begins.first
  cases before with
  | nil => rfl
  | cons e before =>
    cases split
    simp at once

theorem Pass.begins {r : Except Stop (Outcome ⊕ LoopState)} {es : List Event} (pass : Pass c w l s r s')
    (noted : s'.events = s.events ++ es) (began : .snapshotBegan ∈ es) : Begins l s es := by
  have none_inner {rest : List Event} (inner : ∀ e ∈ rest, e.isInner) : .snapshotBegan ∉ rest :=
    Event.not_mem_inner inner rfl
  have none_took {events : List ControlEvent} : Event.snapshotBegan ∉ events.map Event.took := by
    simp
  have none_notices {notice : List Event} (notices : Session.Notices notice) : .snapshotBegan ∉ notice :=
    notices.not_mem (by simp)
  obtain ⟨q, ends⟩ | ⟨l', rfl⟩ := ending_cases r
  · obtain ⟨es', noted', closes⟩ := pass.closes ends
    obtain rfl : es = es' := List.append_cancel_left (noted.symm.trans noted')
    cases closes with
    | interrupted | overflowed => cases began
    | failed unasked alive due inner => exact ⟨unasked, alive, due, _, rfl, none_inner inner⟩
    | missed due found notices | exited idle found notices => exact absurd began (none_notices notices)
  · obtain ⟨es', noted', leads⟩ := pass.leads rfl
    obtain rfl : es = es' := List.append_cancel_left (noted.symm.trans noted')
    cases leads with
    | sampled unasked alive due inner =>
      refine ⟨unasked, alive, due, _, rfl, fun found => ?_⟩
      exact (List.mem_append.1 found).elim (none_inner inner) none_took
    | missed due gone found notices =>
      exact ((List.mem_append.1 began).elim (none_notices notices) none_took).elim
    | @tookUp e =>
      have none : Event.snapshotBegan ∉ [e].map Event.took := none_took
      exact absurd began none
    | waited => cases began

/-- A turn that begins a snapshot ends with the snapshot's error, or with what follows a snapshot. -/
theorem Pass.of_begins {q : Except Stop (Option Sample)} {r : Except Stop (Outcome ⊕ LoopState)} {es : List Event}
    {u v : Session σ} (pass : Pass c w l s r v) (begins : Begins l s es)
    (taken : Snapshot.take c w.snapshots w.pid s = (q, u)) :
    (∃ stop, q = .error stop ∧ r = .error stop ∧ v = u) ∨
      ∃ sample next, q = .ok sample ∧ r = next.map .inr ∧ Settles w u next v := by
  cases pass with
  | interrupted asked => simp [begins.unasked] at asked
  | failed unasked due alive stopped =>
    cases stopped.symm.trans taken
    exact .inl ⟨_, rfl, rfl, rfl⟩
  | sampled unasked due alive sampled settles =>
    cases sampled.symm.trans taken
    exact .inr ⟨_, _, rfl, rfl, settles⟩
  | missed unasked due loses =>
    have gone := loses.ended
    simp [begins.alive] at gone
  | takesUp unasked idle | waits unasked idle | exits unasked idle | overflows unasked idle =>
    simp [begins.due] at idle

end Watch

end HeapSampler

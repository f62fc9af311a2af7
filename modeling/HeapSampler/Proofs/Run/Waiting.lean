import HeapSampler.Proofs.Run.Going

/-!
# Waiting

A turn that neither ends the run nor takes a snapshot waits: for a control event, for whatever comes next, or
for the time of the next look. Here each of these turns is said as an equation, with the state of the loop and
the session that it leads to.
-/

namespace HeapSampler

/-! ## Time -/

theorem Instant.le_def {a b : Instant} : a ≤ b ↔ a.nanos ≤ b.nanos := Iff.rfl

namespace Watch

variable {σ : Type} {c : Collaborators σ} {w : Watch} {l : LoopState} {s : Session σ}

/-! ## When a run wakes -/

/-- The wake time is the later of the present and the moment at which the clock wakes a sleeper. -/
theorem wakeTime_nanos (c : Collaborators σ) (s : Session σ) (due : Instant) :
    (wakeTime c s due).nanos = max s.now.nanos (c.wakes s.state due).nanos := by
  rw [wakeTime]
  split
  · next awake => exact (Nat.max_eq_left awake).symm
  · next asleep => exact (Nat.max_eq_right (Nat.le_of_not_le asleep)).symm

theorem now_le_wakeTime (c : Collaborators σ) (s : Session σ) (due : Instant) : s.now ≤ wakeTime c s due := by
  rw [Instant.le_def, wakeTime_nanos]
  exact Nat.le_max_left _ _

theorem due_le_wakeTime (c : Collaborators σ) (s : Session σ) (due : Instant) : due ≤ wakeTime c s due := by
  rw [Instant.le_def, wakeTime_nanos]
  exact Nat.le_trans (Nat.le_add_right _ _) (Nat.le_max_right _ _)

/-- A run that is woken before the time does not wake at another time for that. -/
theorem wakeTime_congr {a b : Session σ} {due : Instant} (state : b.state = a.state) (later : a.now ≤ b.now)
    (early : b.now ≤ wakeTime c a due) : wakeTime c b due = wakeTime c a due := by
  rw [Instant.le_def] at later early
  have same : (wakeTime c b due).nanos = (wakeTime c a due).nanos := by
    rw [wakeTime_nanos] at early
    rw [wakeTime_nanos, wakeTime_nanos, state]
    omega
  exact congrArg Instant.mk same

/-- What a run waits for: a control event that has come, something that comes before the run wakes, or the time
at which it wakes. -/
theorem await_cases (c : Collaborators σ) (s : Session σ) (due : Instant) :
    (∃ e rest, s.inbox = e :: rest) ∨ s.inbox = [] ∧
      ((∃ p later, s.agenda = p :: later ∧ p.1 ≤ wakeTime c s due) ∨
        ∀ p ∈ s.agenda.head?, ¬ p.1 ≤ wakeTime c s due) := by
  rcases s.inbox with _ | ⟨e, rest⟩
  · refine .inr ⟨rfl, ?_⟩
    rcases s.agenda with _ | ⟨p, later⟩
    · exact .inr nofun
    · by_cases soon : p.1 ≤ wakeTime c s due
      · exact .inl ⟨p, later, rfl, soon⟩
      · exact .inr fun q first => Option.some.inj first ▸ soon
  · exact .inl ⟨e, rest, rfl⟩

/-! ## Turns -/

theorem turn_of_due (unasked : s.cancelled = false) (due : l.samplePending = true) :
    w.turn c l s = (w.sample c l >>= fun l' => pure (.inr l')) s := by
  rw [turn, Act.bind_ok Act.get_apply, unasked, due]
  rfl

theorem turn_of_idle (unasked : s.cancelled = false) (idle : l.samplePending = false) :
    w.turn c l s = w.wait c l s := by
  rw [turn, Act.bind_ok Act.get_apply, unasked, idle]
  rfl

theorem wait_of_ended (ended : s.alive = false) :
    w.wait c l s = (.ok (.inl .subjectExited), (Act.subjectAlive s).2) := by
  obtain ⟨t, looked, -⟩ := Session.subjectAlive_of_ended ended
  rw [wait, Act.bind_ok looked, looked]
  rfl

theorem wait_of_inbox {e : ControlEvent} {rest : List ControlEvent} (alive : s.alive = true)
    (inbox : s.inbox = e :: rest) : w.wait c l s =
      (.ok (.inr { l with samplePending := w.demandsSample e }), { s.note (.took e) with inbox := rest }) := by
  rw [wait, Act.bind_ok (Session.subjectAlive_of_alive alive)]
  simp only [Bool.not_true, Bool.false_eq_true, if_false]
  rw [Act.bind_ok Act.get_apply]
  simp only [inbox]
  rfl

theorem wait_of_soon {p : Instant × Happening} {later : List (Instant × Happening)} (alive : s.alive = true)
    (inbox : s.inbox = []) (agenda : s.agenda = p :: later) (soon : p.1 ≤ wakeTime c s l.nextWake) :
    w.wait c l s = (.ok (.inr l), s.advanceTo p.1) := by
  rw [wait, Act.bind_ok (Session.subjectAlive_of_alive alive)]
  simp only [Bool.not_true, Bool.false_eq_true, if_false]
  rw [Act.bind_ok Act.get_apply]
  simp only [inbox, agenda, if_pos soon]
  rfl

theorem wait_of_late (alive : s.alive = true) (inbox : s.inbox = [])
    (late : ∀ p ∈ s.agenda.head?, ¬ p.1 ≤ wakeTime c s l.nextWake) :
    w.wait c l s = w.look l (s.advanceTo (wakeTime c s l.nextWake)) := by
  rw [wait, Act.bind_ok (Session.subjectAlive_of_alive alive)]
  simp only [Bool.not_true, Bool.false_eq_true, if_false]
  rw [Act.bind_ok Act.get_apply]
  cases agenda : s.agenda with
  | nil =>
    simp only [inbox]
    rfl
  | cons p later =>
    have after : ¬ p.1 ≤ wakeTime c s l.nextWake := late p (by rw [agenda]; rfl)
    simp only [inbox, if_neg after]
    rfl

/-- What a turn does, according to what decides on it. -/
inductive Way (c : Collaborators σ) (w : Watch) (l : LoopState) (s : Session σ) : Prop where
  /-- The monitor has been asked to stop. -/
  | asked (turned : w.turn c l s = (.ok (.inl .interrupted), s))
  /-- A snapshot is due. -/
  | due (due : l.samplePending = true) (turned : w.turn c l s = (w.sample c l >>= fun l' => pure (.inr l')) s)
  /-- The subject has ended. -/
  | ended (turned : w.turn c l s = (.ok (.inl .subjectExited), (Act.subjectAlive s).2))
  /-- A control event has come. -/
  | event {e : ControlEvent} {rest : List ControlEvent} (idle : l.samplePending = false)
      (turned : w.turn c l s =
        (.ok (.inr { l with samplePending := w.demandsSample e }), { s.note (.took e) with inbox := rest }))
  /-- Something comes before the run wakes. -/
  | soon {t : Instant} (idle : l.samplePending = false) (turned : w.turn c l s = (.ok (.inr l), s.advanceTo t))
  /-- Nothing comes before the run wakes. -/
  | late (idle : l.samplePending = false)
      (turned : w.turn c l s = w.look l (s.advanceTo (wakeTime c s l.nextWake)))

theorem turn_way (c : Collaborators σ) (w : Watch) (l : LoopState) (s : Session σ) : Way c w l s := by
  cases unasked : s.cancelled with
  | true => exact .asked (turn_of_asked c w l unasked)
  | false =>
    cases due : l.samplePending with
    | true => exact .due due (turn_of_due unasked due)
    | false =>
      have waits : w.turn c l s = w.wait c l s := turn_of_idle unasked due
      cases alive : s.alive with
      | false => exact .ended (waits.trans (wait_of_ended alive))
      | true =>
        obtain ⟨e, rest, inbox⟩ | ⟨inbox, ⟨p, later, agenda, soon⟩ | late⟩ := await_cases c s l.nextWake
        · exact .event due (waits.trans (wait_of_inbox alive inbox))
        · exact .soon due (waits.trans (wait_of_soon alive inbox agenda soon))
        · exact .late due (waits.trans (wait_of_late alive inbox late))

/-! ## The first turn -/

theorem monitor_eq (c : Collaborators σ) (w : Watch) (n : Nat) (s : Session σ) :
    w.monitor c n s = if s.now.nanos + w.period.nanos < Instant.limit
      then loop c w n ⟨s.now.later w.period, false⟩ s else (.error (.fault .instantOverflow), s) := by
  by_cases fits : s.now.nanos + w.period.nanos < Instant.limit
  · rw [if_pos fits, monitor, Act.bind_ok]
    rw [Act.deadlineIn_apply, if_pos fits]
  · rw [if_neg fits, monitor, Act.bind_error]
    rw [Act.deadlineIn_apply, if_neg fits]

end Watch

end HeapSampler

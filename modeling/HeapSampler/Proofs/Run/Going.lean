import HeapSampler.Proofs.Run.Turns

/-!
# Turns one after another

`Going` puts turns that lead on one after another. A loop that is still going after some turns goes on from
where these turns led (`Going.loop_add`), and one that has ended did so in a turn (`Going.of_ended`), so what
is known of one turn is known of every turn of a run.
-/

namespace HeapSampler

namespace Watch

variable {σ : Type} {c : Collaborators σ} {w : Watch} {l : LoopState} {s t : Session σ}

/-! ## From turn to turn -/

/-- So many turns lead on from one state of the loop and session to others. -/
inductive Going (c : Collaborators σ) (w : Watch) : Nat → LoopState → Session σ → LoopState → Session σ → Prop where
  | start (l : LoopState) (s : Session σ) : Going c w 0 l s l s
  | next {n : Nat} {l l' l'' : LoopState} {s s' s'' : Session σ} (turned : w.turn c l s = (.ok (.inr l'), s'))
      (going : Going c w n l' s' l'' s'') : Going c w (n + 1) l s l'' s''

/-- A turn ends the loop or leads on. -/
theorem turn_cases (c : Collaborators σ) (w : Watch) (l : LoopState) (s : Session σ) :
    (∃ r t q, w.turn c l s = (r, t) ∧ ending r = some q) ∨ ∃ l' t, w.turn c l s = (.ok (.inr l'), t) := by
  rcases turned : w.turn c l s with ⟨r, t⟩
  obtain ⟨q, ends⟩ | ⟨l', rfl⟩ := ending_cases r
  · exact .inl ⟨r, t, q, rfl, ends⟩
  · exact .inr ⟨l', t, rfl⟩

theorem loop_zero (c : Collaborators σ) (w : Watch) (l : LoopState) (s : Session σ) :
    loop c w 0 l s = (.ok none, s) := rfl

theorem loop_of_turn {l' : LoopState} (turned : w.turn c l s = (.ok (.inr l'), t)) (n : Nat) :
    loop c w (n + 1) l s = loop c w n l' t := by
  rw [loop, Act.bind_ok turned]

theorem loop_of_ending {r : Except Stop (Outcome ⊕ LoopState)} {q : Except Stop (Option Outcome)}
    (turned : w.turn c l s = (r, t)) (ends : ending r = some q) (n : Nat) : loop c w (n + 1) l s = (q, t) := by
  rcases r with stop | outcome | l' <;> cases ends
  · rw [loop, Act.bind_error turned]
  · rw [loop, Act.bind_ok turned]
    rfl

theorem turn_of_asked (c : Collaborators σ) (w : Watch) (l : LoopState) (asked : s.cancelled = true) :
    w.turn c l s = (.ok (.inl .interrupted), s) := by
  rw [turn, Act.bind_ok Act.get_apply, asked]
  rfl

theorem loop_one {r : Except Stop (Outcome ⊕ LoopState)} (turned : w.turn c l s = (r, t)) :
    loop c w 1 l s = ((ending r).getD (.ok none), t) := by
  obtain ⟨q, ends⟩ | ⟨l', rfl⟩ := ending_cases r
  · rw [loop_of_ending turned ends, ends]
    rfl
  · rw [loop_of_turn turned]
    rfl

namespace Going

variable {k : Nat} {l' l'' : LoopState}

/-- A loop goes on from where its first turns led. -/
theorem loop_add (going : Going c w k l s l' t) (n : Nat) : loop c w (k + n) l s = loop c w n l' t := by
  induction going with
  | start => rw [Nat.zero_add]
  | next turned going ih => rw [Nat.add_right_comm, loop_of_turn turned, ih]

theorem loop_eq (going : Going c w k l s l' t) : loop c w k l s = (.ok none, t) :=
  going.loop_add 0

theorem snoc {u : Session σ} (going : Going c w k l s l' t) (turned : w.turn c l' t = (.ok (.inr l''), u)) :
    Going c w (k + 1) l s l'' u := by
  induction going with
  | start => exact .next turned (.start _ _)
  | next first going ih => exact .next first (ih turned)

theorem keeps (going : Going c w k l s l' t) : s.Keeps t := by
  induction going with
  | start => exact .of_same rfl rfl
  | next turned going ih => exact (turn_passes turned).keeps.trans ih

/-- A loop that has not ended after some turns is going on. -/
theorem of_loop {k : Nat} {l : LoopState} {s t : Session σ} (going : loop c w k l s = (.ok none, t)) :
    ∃ l', Going c w k l s l' t := by
  induction k generalizing l s with
  | zero =>
    cases going
    exact ⟨l, .start l _⟩
  | succ k ih =>
    rcases turned : w.turn c l s with ⟨stop | outcome | l', u⟩
    · rw [loop_of_ending turned rfl] at going
      cases going
    · rw [loop_of_ending turned rfl] at going
      cases going
    · rw [loop_of_turn turned] at going
      obtain ⟨l'', rest⟩ := ih going
      exact ⟨l'', .next turned rest⟩

/-- A loop that has ended did so in one of its turns. -/
theorem of_ended {n : Nat} {l : LoopState} {s u : Session σ} {q : Except Stop (Option Outcome)}
    (ended : loop c w n l s = (q, u)) (other : q ≠ .ok none) :
    ∃ k l' t r, k < n ∧ Going c w k l s l' t ∧ w.turn c l' t = (r, u) ∧ ending r = some q := by
  induction n generalizing l s with
  | zero =>
    cases ended
    exact absurd rfl other
  | succ n ih =>
    obtain ⟨r, t, q', turned, ends⟩ | ⟨l', t, turned⟩ := turn_cases c w l s
    · rw [loop_of_ending turned ends] at ended
      cases ended
      exact ⟨0, l, s, r, Nat.succ_pos n, .start l s, turned, ends⟩
    · rw [loop_of_turn turned] at ended
      obtain ⟨k, l'', t', r, before, going, last, ends⟩ := ih ended
      exact ⟨k + 1, l'', t', r, Nat.succ_lt_succ before, .next turned going, last, ends⟩

/-- A loop that ended in a turn has no further ones. -/
theorem loop_ended {r : Except Stop (Outcome ⊕ LoopState)} {q : Except Stop (Option Outcome)} {u : Session σ}
    (going : Going c w k l s l' t) (turned : w.turn c l' t = (r, u)) (ends : ending r = some q) (n : Nat) :
    loop c w (k + n + 1) l s = (q, u) := by
  rw [Nat.add_assoc, going.loop_add, loop_of_ending turned ends]

end Going

/-- The loop undoes nothing that happened before it. -/
theorem loop_keeps (c : Collaborators σ) (w : Watch) (n : Nat) (l : LoopState) (s : Session σ) :
    s.Keeps (loop c w n l s).2 := by
  induction n generalizing l s with
  | zero => exact .of_same rfl rfl
  | succ n ih =>
    obtain ⟨r, t, q, turned, ends⟩ | ⟨l', t, turned⟩ := turn_cases c w l s
    · rw [loop_of_ending turned ends]
      exact (turn_passes turned).keeps
    · rw [loop_of_turn turned]
      exact (turn_passes turned).keeps.trans (ih l' t)

/-- A loop begins its snapshots between two turns, when one is due, while the subject is alive and the monitor
was not asked to stop. -/
theorem loop_begins_due {n : Nat} {l : LoopState} {s : Session σ} {before after : List Event}
    (began : (loop c w n l s).2.events = s.events ++ (before ++ .snapshotBegan :: after)) :
    ∃ k l' t, k < n ∧ Going c w k l s l' t ∧ t.events = s.events ++ before ∧ t.cancelled = false ∧
      t.alive = true ∧ l'.samplePending = true := by
  induction n generalizing l s before with
  | zero =>
    rw [loop_zero] at began
    simp at began
  | succ n ih =>
    -- the snapshot begins in the first turn, or in one of those after it by induction
    have here {es : List Event} (begins : Begins l s es) {between : List Event}
        (split : es = before ++ .snapshotBegan :: between) :
        ∃ k l' t, k < n + 1 ∧ Going c w k l s l' t ∧ t.events = s.events ++ before ∧ t.cancelled = false ∧
          t.alive = true ∧ l'.samplePending = true := by
      subst split
      obtain rfl := begins.at_once
      exact ⟨0, l, s, Nat.succ_pos n, .start l s, by simp, begins.unasked, begins.alive, begins.due⟩
    obtain ⟨r, t, q, turned, ends⟩ | ⟨l', t, turned⟩ := turn_cases c w l s
    · rw [loop_of_ending turned ends] at began
      exact here ((turn_passes turned).begins began (by simp)) rfl
    · have pass := turn_passes turned
      obtain ⟨es, noted, -⟩ := pass.leads rfl
      obtain ⟨fs, followed, -⟩ := loop_loops (show loop c w n l' t = _ from rfl)
      rw [loop_of_turn turned, followed, noted, List.append_assoc] at began
      obtain ⟨between, split, -⟩ | ⟨between, rfl, rest⟩ := Event.split_cases (List.append_cancel_left began)
      · exact here (pass.begins noted (by simp [split])) split
      · rw [rest] at followed
        obtain ⟨k, l'', u, early, going, reached, unasked, alive, due⟩ := ih followed
        exact ⟨k + 1, l'', u, Nat.succ_lt_succ early, .next turned going,
          by rw [reached, noted, List.append_assoc], unasked, alive, due⟩

theorem loop_begins {n : Nat} {l : LoopState} {s : Session σ} {before after : List Event}
    (began : (loop c w n l s).2.events = s.events ++ (before ++ .snapshotBegan :: after)) :
    ∃ k l' t, k < n ∧ Going c w k l s l' t ∧ t.events = s.events ++ before ∧ t.cancelled = false ∧
      t.alive = true := by
  obtain ⟨k, l', t, early, going, reached, unasked, alive, -⟩ := loop_begins_due began
  exact ⟨k, l', t, early, going, reached, unasked, alive⟩

/-- No snapshot begins once the subject has ended. -/
theorem loop_begins_none (c : Collaborators σ) (w : Watch) (n : Nat) (l : LoopState) (gone : s.alive = false) :
    ∃ es, (loop c w n l s).2.events = s.events ++ es ∧ .snapshotBegan ∉ es := by
  obtain ⟨es, noted, -⟩ := loop_loops (show loop c w n l s = _ from rfl)
  refine ⟨es, noted, fun began => ?_⟩
  obtain ⟨before, after, rfl⟩ := List.append_of_mem began
  obtain ⟨k, l', t, -, going, -, -, alive⟩ := loop_begins noted
  simp [going.keeps.ended gone] at alive

/-- More turns make no difference to a loop that has ended. -/
theorem loop_stays {k : Nat} {q : Except Stop (Option Outcome)} (ended : loop c w k l s = (q, t))
    (other : q ≠ .ok none) (n : Nat) : loop c w (k + n) l s = (q, t) := by
  obtain ⟨j, l', u, r, early, going, turned, ends⟩ := Going.of_ended ended other
  obtain ⟨m, rfl⟩ := Nat.exists_eq_add_of_lt early
  rw [Nat.add_right_comm, Nat.add_assoc j m n]
  exact going.loop_ended turned ends (m + n)

/-- The loop of a run begins with no snapshot due, unless the clock cannot hold the time of its first look. -/
theorem monitor_cases (c : Collaborators σ) (w : Watch) (s : Session σ) :
    (∀ n, w.monitor c n s = (.error (.fault .instantOverflow), s)) ∨
      ∃ wake, ∀ n, w.monitor c n s = loop c w n ⟨wake, false⟩ s := by
  by_cases fits : s.now.nanos + w.period.nanos < Instant.limit
  · refine .inr ⟨s.now.later w.period, fun n => ?_⟩
    rw [monitor, Act.bind_ok]
    rw [Act.deadlineIn_apply, if_pos fits]
  · refine .inl fun n => ?_
    rw [monitor, Act.bind_error]
    rw [Act.deadlineIn_apply, if_neg fits]

end Watch

end HeapSampler

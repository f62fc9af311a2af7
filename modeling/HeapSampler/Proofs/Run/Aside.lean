import HeapSampler.Monitor.Loop
import HeapSampler.Proofs.Acts

/-!
# What a run does aside

Between snapshots a run takes up control events, notices the end of the subject, and waits. Such an
act is done aside: it leaves the freezer, the subject's memory and the history alone.
-/

namespace HeapSampler

/-- The event is none of a snapshot's: a control event was taken up, or the end of the subject was
noticed. -/
def Event.isAside : Event → Bool
  | .took _ | .exitNoticed _ => true
  | _ => false

/-- From one session to another nothing was noted but what is done aside. -/
def Session.Passes {σ : Type} (s t : Session σ) : Prop :=
  ∃ es, s.Adds es t ∧ ∀ e ∈ es, e.isAside

namespace Session.Passes

variable {σ : Type} {s t u : Session σ}

theorem of_same (trace : t.trace = s.trace) (history : t.history = s.history) : s.Passes t :=
  ⟨[], .of_same trace history, by simp⟩

theorem refl (s : Session σ) : s.Passes s :=
  of_same rfl rfl

theorem trans (first : s.Passes t) (second : t.Passes u) : s.Passes u := by
  obtain ⟨es, added, aside⟩ := first
  obtain ⟨fs, followed, aside'⟩ := second
  refine ⟨es ++ fs, added.trans followed, ?_⟩
  intro e found
  rcases List.mem_append.1 found with found | found
  · exact aside e found
  · exact aside' e found

theorem note (s : Session σ) {e : Event} (aside : e.isAside = true) : s.Passes (s.note e) := by
  refine ⟨[e], ⟨Session.events_note s e, rfl⟩, ?_⟩
  intro f found
  rw [List.mem_singleton.1 found]
  exact aside

end Session.Passes

namespace Watch

open Session (Passes)
open Act (NoError)

variable {σ α β : Type} {c : Collaborators σ} {w : Watch} {l : LoopState} {s s' : Session σ}

/-- An act done aside: it notes nothing else, it leaves the history alone, and no error stops it. -/
def Aside (act : Act σ α) : Prop :=
  ∀ ⦃s s' r⦄, act s = (r, s') → s.Passes s' ∧ NoError r

theorem Aside.pure (a : α) : Aside (pure a : Act σ α) := by
  rintro s s' r ⟨⟩
  exact ⟨.refl s, .ok a⟩

theorem Aside.get : Aside (get : Act σ (Session σ)) := by
  rintro s s' r ⟨⟩
  exact ⟨.refl s, .ok s⟩

theorem Aside.modify {f : Session σ → Session σ} (passes : ∀ s : Session σ, s.Passes (f s)) :
    Aside (modify f : Act σ Unit) := by
  rintro s s' r ⟨⟩
  exact ⟨passes s, .ok ()⟩

theorem Aside.bind {x : Act σ α} {f : α → Act σ β} (first : Aside x) (second : ∀ a, Aside (f a)) :
    Aside (x >>= f) := by
  intro s s' r ran
  obtain ⟨stop, stopped, rfl⟩ | ⟨a, t, gone, ran⟩ := Act.bind_cases ran
  · obtain ⟨passes, goes⟩ := first stopped
    exact ⟨passes, goes.of_stop⟩
  · obtain ⟨passes, -⟩ := first gone
    obtain ⟨passes', goes⟩ := second a ran
    exact ⟨passes.trans passes', goes⟩

theorem deadlineIn_aside (d : Duration) : Aside (Act.deadlineIn d : Act σ Instant) := by
  intro s s' r ran
  rw [Act.deadlineIn_apply] at ran
  cases ran
  refine ⟨.refl s, fun e same => ?_⟩
  split at same <;> cases same

theorem subjectAlive_aside : Aside (Act.subjectAlive : Act σ Bool) := by
  unfold Act.subjectAlive
  apply Aside.get.bind
  intro s
  rcases s.subject with _ | ⟨pid, _ | status, noticed⟩
  · exact .pure _
  · exact .pure _
  cases noticed with
  | true => exact .pure _
  | false =>
    refine (Aside.modify fun s => .note s rfl).bind fun _ => ?_
    refine (Aside.modify fun s => ?_).bind fun _ => .pure _
    exact .of_same rfl rfl

theorem foldl_took (events : List ControlEvent) (s : Session σ) :
    s.Passes (events.foldl (fun s e => s.note (.took e)) s) := by
  induction events generalizing s with
  | nil => exact .refl s
  | cons e events ih => exact (Passes.note s rfl).trans (ih _)

theorem drain_aside (w : Watch) : Aside (w.drain : Act σ Bool) := by
  unfold drain
  apply Aside.get.bind
  intro _
  refine (Aside.modify fun t => ?_).bind fun _ => .pure _
  exact (foldl_took _ t).trans (.of_same rfl rfl)

theorem look_aside (w : Watch) (l : LoopState) : Aside (w.look l : Act σ (Outcome ⊕ LoopState)) := by
  unfold look
  cases w.plan.mode with
  | interval => exact .pure _
  | onRequest =>
    apply subjectAlive_aside.bind
    intro alive
    cases alive with
    | true => exact (deadlineIn_aside _).bind fun _ => .pure _
    | false => exact .pure _

theorem advanceTo_aside (t : Instant) : Aside (modify fun s => s.advanceTo t : Act σ Unit) :=
  .modify fun s => .of_same (Session.advanceTo_trace s t) (Session.advanceTo_history s t)

theorem wait_aside (c : Collaborators σ) (w : Watch) (l : LoopState) : Aside (w.wait c l) := by
  unfold wait
  apply subjectAlive_aside.bind
  intro alive
  cases alive with
  | false => exact .pure _
  | true =>
    apply Aside.get.bind
    intro s
    cases s.inbox with
    | cons e rest =>
      have took (t : Session σ) : t.Passes (t.note (.took e)) := .note t rfl
      refine (Aside.modify fun t => ?_).bind fun _ => .pure _
      exact (took t).trans (.of_same rfl rfl)
    | nil =>
      rcases s.agenda with _ | ⟨⟨t, what⟩, later⟩
      · exact (advanceTo_aside _).bind fun _ => look_aside w l
      · by_cases soon : t ≤ wakeTime c s l.nextWake
        · simp only [if_pos soon]
          exact (advanceTo_aside t).bind fun _ => .pure _
        · simp only [if_neg soon]
          exact (advanceTo_aside _).bind fun _ => look_aside w l

end Watch

end HeapSampler

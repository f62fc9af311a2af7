import HeapSampler.Monitor.Snapshot
import HeapSampler.Proofs.Events

/-!
# Acts, one after another

An act takes a session to a result and a later session. `bind_cases` says what a sequence of two
acts can have done, and `attempt_cases` what an attempted act can have done; every later fact about
a composite act is read off by taking it apart with these two.
-/

namespace HeapSampler

namespace Act

variable {σ α β : Type} {s s' t : Session σ}

theorem ok_of_toOption {ε : Type} {r : Except ε α} {a : α} (told : r.toOption = some a) : r = .ok a := by
  cases r with
  | error => cases told
  | ok b => exact congrArg Except.ok (Option.some.inj told)

theorem get_apply : (get : Act σ (Session σ)) s = (.ok s, s) := rfl

theorem bind_ok {x : Act σ α} {f : α → Act σ β} {a : α} (first : x s = (.ok a, t)) :
    (x >>= f) s = f a t := by
  change ExceptT.bindCont f (x s).1 (x s).2 = f a t
  rw [first]
  rfl

theorem bind_error {x : Act σ α} {f : α → Act σ β} {stop : Stop} (first : x s = (.error stop, t)) :
    (x >>= f) s = (.error stop, t) := by
  change ExceptT.bindCont f (x s).1 (x s).2 = (.error stop, t)
  rw [first]
  rfl

/-- A sequence stopped in its first act, or its second act went on from there. -/
theorem bind_cases {x : Act σ α} {f : α → Act σ β} {r : Except Stop β} (ran : (x >>= f) s = (r, s')) :
    (∃ stop, x s = (.error stop, s') ∧ r = .error stop) ∨ ∃ a t, x s = (.ok a, t) ∧ f a t = (r, s') := by
  rcases first : x s with ⟨stop | a, t⟩
  · rw [bind_error first] at ran
    cases ran
    exact .inl ⟨stop, rfl, rfl⟩
  · rw [bind_ok first] at ran
    exact .inr ⟨a, t, rfl, ran⟩

theorem discard_apply (x : Act σ α) (s : Session σ) : (discard x) s = ((x s).1.map fun _ => (), (x s).2) := by
  change ExceptT.map (Function.const α ()) x s = _
  simp only [ExceptT.map, ExceptT.mk, bind, StateT.bind]
  rcases x s with ⟨stop | a, t⟩ <;> rfl

theorem discard_bind_cases {x : Act σ α} {f : Unit → Act σ β} {r : Except Stop β}
    (ran : (discard x >>= f) s = (r, s')) :
    (∃ stop, x s = (.error stop, s') ∧ r = .error stop) ∨ ∃ a t, x s = (.ok a, t) ∧ f () t = (r, s') := by
  rcases acted : x s with ⟨stop | a, t⟩
  · have stopped : discard x s = (.error stop, t) := by rw [discard_apply, acted]; rfl
    rw [bind_error stopped] at ran
    cases ran
    exact .inl ⟨stop, rfl, rfl⟩
  · have gone : discard x s = (.ok (), t) := by rw [discard_apply, acted]; rfl
    rw [bind_ok gone] at ran
    exact .inr ⟨a, t, rfl, ran⟩

/-- An attempted act gives a value or an error as a value; only a fault passes through. -/
theorem attempt_cases {act : Act σ α} {r : Except Stop (Except MonitorError α)}
    (ran : Snapshot.attempt act s = (r, s')) :
    (∃ a, act s = (.ok a, s') ∧ r = .ok (.ok a)) ∨
      (∃ e, act s = (.error (.error e), s') ∧ r = .ok (.error e)) ∨
      ∃ f, act s = (.error (.fault f), s') ∧ r = .error (.fault f) := by
  unfold Snapshot.attempt at ran
  rcases acted : act s with ⟨(e | f) | a, t⟩ <;> rw [acted] at ran <;> cases ran
  · exact .inr (.inl ⟨e, rfl, rfl⟩)
  · exact .inr (.inr ⟨f, rfl, rfl⟩)
  · exact .inl ⟨a, rfl, rfl⟩

/-- What an act came to that no error stopped; a fault may have. -/
def NoError (r : Except Stop α) : Prop :=
  ∀ e, r ≠ .error (.error e)

theorem NoError.ok (a : α) : NoError (.ok a) := by
  rintro e ⟨⟩

theorem NoError.of_stop {stop : Stop} (goes : NoError (.error stop : Except Stop α)) :
    NoError (.error stop : Except Stop β) := by
  rintro e ⟨⟩
  exact goes e rfl

theorem NoError.map {r : Except Stop α} (goes : NoError r) (f : α → β) : NoError (r.map f) := by
  cases r with
  | ok a => exact .ok (f a)
  | error stop => exact goes.of_stop

/-- An attempt runs its act to the end, and no error stops it. -/
theorem attempt_runs {act : Act σ α} {r : Except Stop (Except MonitorError α)}
    (ran : Snapshot.attempt act s = (r, s')) : (∃ r', act s = (r', s')) ∧ NoError r := by
  obtain ⟨a, acted, rfl⟩ | ⟨e, acted, rfl⟩ | ⟨f, acted, rfl⟩ := attempt_cases ran
  · exact ⟨⟨_, acted⟩, .ok _⟩
  · exact ⟨⟨_, acted⟩, .ok _⟩
  · exact ⟨⟨_, acted⟩, by rintro e ⟨⟩⟩

/-! ## Dealing with collaborators -/

/-- Whatever a collaborator answers, the dealing is noted, once, and the history stays. -/
theorem call_adds {door : Door σ α} {event : Option α → Event} {r : Except Stop α}
    (ran : call door event s = (r, s')) : s.Adds [event r.toOption] s' := by
  cases ran
  exact ⟨by rw [Session.events_congr (Session.absorb_trace _ _), Session.events_note], Session.absorb_history _ _⟩

theorem call_timeline (door : Door σ α) (event : Option α → Event) (s : Session σ) :
    (call door event s).2.timeline = s.timeline ++ [(s.now, event (call door event s).1.toOption)] := by
  rw [← Session.timeline_note]
  exact Session.timeline_congr (Session.absorb_trace _ _)

theorem call_now (door : Door σ α) (event : Option α → Event) (s : Session σ) :
    (call door event s).2.now = s.now.later (door s.scene).elapsed :=
  Session.absorb_now _ _

theorem sleep_adds (c : Collaborators σ) (d : Duration) (s : Session σ) : s.Adds [] (sleep c d s).2 :=
  .of_same (Session.advanceTo_trace s _) (Session.advanceTo_history s _)

/-- A deadline is set, or the clock cannot hold it. Nothing else changes. -/
theorem deadlineIn_apply (d : Duration) (s : Session σ) :
    deadlineIn d s = (if s.now.nanos + d.nanos < Instant.limit then .ok (s.now.later d)
      else .error (.fault .instantOverflow), s) := by
  have here : (Act.now : Act σ Instant) s = (.ok s.now, s) := rfl
  rw [deadlineIn, bind_ok here, Instant.later?]
  by_cases fits : s.now.nanos + d.nanos < Instant.limit
  · rw [if_pos fits, if_pos fits]
    rfl
  · rw [if_neg fits, if_neg fits]
    rfl

end Act

/-! ## A machine that obeys -/

/-- What a scene answers at once and unchanged. -/
def Scene.answer {σ α : Type} (scene : Scene σ) (a : α) : Reply σ α :=
  ⟨.ok a, scene.files, scene.state, .zero, []⟩

/-- A freezer that counts the requests made of it and obeys from the given one on, in front of a heap
of three pages. Nothing takes time but pauses. -/
def Collaborators.obeyingFrom (first : Nat) : Collaborators (Nat × FreezeState) where
  request target scene :=
    let requests := scene.state.1 + 1
    { scene.answer () with state := (requests, if first ≤ requests then target else scene.state.2) }
  observe scene := scene.answer (some scene.state.2)
  heapRange _ scene := scene.answer (some ⟨0, 12288⟩)
  classify _ _ _ _ scene := scene.answer 3
  oversleep _ _ := .zero

end HeapSampler

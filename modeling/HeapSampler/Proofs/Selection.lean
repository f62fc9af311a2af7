import HeapSampler.Proofs.Acts

/-!
# Leaving happenings out

Some happenings can be left out of a session, those that have come and those that will, together with what
was noted of them. An act that does not look at them does then what it did with them, and leads to the same
session, in which they are left out again (`Act.Undisturbed`). A snapshot is such an act, whatever is left out
but the end of the subject (`Snapshot.take_only`).
-/

namespace HeapSampler

variable {σ α β : Type}

/-! ## What is left out -/

/-- A choice of happenings. The end of the subject is not left out. -/
structure Selection where
  keeps : Happening → Bool
  ends : ∀ status, keeps (.subjectEnds status) = true

/-- The event does not tell of a control event that is left out. -/
def Event.told (k : Selection) : Event → Bool
  | .took e => k.keeps (.control e)
  | _ => true

/-- The reply, with nothing else meanwhile than what is kept. -/
def Reply.only (k : Selection) (r : Reply σ α) : Reply σ α :=
  { r with happenings := r.happenings.filter k.keeps }

/-- The collaborators, who reply as they do with nothing else meanwhile than what is kept. -/
def Collaborators.only (k : Selection) (c : Collaborators σ) : Collaborators σ where
  request target scene := (c.request target scene).only k
  observe scene := (c.observe scene).only k
  heapRange pid scene := (c.heapRange pid scene).only k
  classify pid iteration artifact heap scene := (c.classify pid iteration artifact heap scene).only k
  oversleep := c.oversleep

namespace Session

variable (k : Selection)

/-- The session with nothing else than what is kept, neither so far nor later. -/
def only (s : Session σ) : Session σ :=
  { s with
    cancelled := s.cancelled && k.keeps .interrupt
    inbox := s.inbox.filter fun e => k.keeps (.control e)
    agenda := s.agenda.filter fun p => k.keeps p.2
    trace := s.trace.filter fun p => p.2.told k }

theorem only_happen (s : Session σ) (h : Happening) :
    (s.happen h).only k = if k.keeps h then (s.only k).happen h else s.only k := by
  cases h with
  | interrupt => cases kept : k.keeps .interrupt <;> simp [only, happen, kept]
  | control e => cases kept : k.keeps (.control e) <;> simp [only, happen, kept, List.filter_append]
  | subjectEnds status => simp [only, happen, k.ends]

theorem only_foldl_happen {γ : Type} (what : γ → Happening) (plans : List γ) (s : Session σ) :
    (plans.foldl (fun s p => s.happen (what p)) s).only k =
      (plans.filter fun p => k.keeps (what p)).foldl (fun s p => s.happen (what p)) (s.only k) := by
  induction plans generalizing s with
  | nil => rfl
  | cons p plans ih =>
    rw [List.foldl_cons, ih, only_happen, List.filter_cons]
    cases k.keeps (what p) <;> rfl

theorem only_advanceTo (s : Session σ) (t : Instant) : (s.advanceTo t).only k = (s.only k).advanceTo t := by
  have comm (due : Instant × Happening → Bool) :
      (s.agenda.filter due).filter (fun p => k.keeps p.2) = (s.only k).agenda.filter due := by
    simp only [only, List.filter_filter, Bool.and_comm]
  have went (due : Instant × Happening → Bool) : ((s.agenda.filter due).foldl (fun s p => s.happen p.2) s).only k =
      ((s.only k).agenda.filter due).foldl (fun s p => s.happen p.2) (s.only k) := by
    rw [only_foldl_happen k Prod.snd, comm]
  rw [advanceTo, advanceTo, List.partition_eq_filter_filter, List.partition_eq_filter_filter]
  let reached (s' : Session σ) (agenda : List (Instant × Happening)) : Session σ :=
    { s' with now := if s.now ≤ t then t else s.now, agenda }
  exact (congrArg (reached · _) (went _)).trans (congrArg (reached _) (comm _))

theorem only_absorb (s : Session σ) (r : Reply σ α) : (s.absorb r).only k = (s.only k).absorb (r.only k) := by
  refine (only_foldl_happen k id r.happenings _).trans ?_
  rw [only_advanceTo]
  rfl

theorem only_note (s : Session σ) {e : Event} (told : e.told k = true) : (s.note e).only k = (s.only k).note e := by
  simp [only, note, told]

end Session

/-! ## Acts that do not look at what is left out -/

namespace Act

/-- The second act does with what is kept as the first does with all that happens. -/
def Undisturbed (k : Selection) (x y : Act σ α) : Prop :=
  ∀ s, y (s.only k) = ((x s).1, (x s).2.only k)

namespace Undisturbed

variable {k : Selection}

theorem pure (a : α) : Undisturbed k (pure a : Act σ α) (pure a) :=
  fun _ => rfl

theorem throw (stop : Stop) : Undisturbed k (throw stop : Act σ α) (throw stop) :=
  fun _ => rfl

theorem bind {x y : Act σ α} {f g : α → Act σ β} (first : Undisturbed k x y)
    (second : ∀ a, Undisturbed k (f a) (g a)) : Undisturbed k (x >>= f) (y >>= g) := by
  intro s
  have went := first s
  rcases ran : x s with ⟨stop | a, t⟩ <;> rw [ran] at went
  · rw [bind_error ran, bind_error went]
  · rw [bind_ok ran, bind_ok went]
    exact second a t

theorem discard {x y : Act σ α} (same : Undisturbed k x y) : Undisturbed k (discard x) (discard y) := by
  intro s
  rw [discard_apply, discard_apply, same s]

theorem attempt {x y : Act σ α} (same : Undisturbed k x y) :
    Undisturbed k (Snapshot.attempt x) (Snapshot.attempt y) := by
  intro s
  have went := same s
  unfold Snapshot.attempt
  rw [went]
  rcases x s with ⟨(e | f) | a, t⟩ <;> rfl

theorem modify {f : Session σ → Session σ} (comm : ∀ s, (f s).only k = f (s.only k)) :
    Undisturbed k (modify f : Act σ Unit) (modify f) :=
  fun s => congrArg (Prod.mk _) (comm s).symm

theorem note {e : Event} (told : e.told k = true) : Undisturbed k (Act.note e : Act σ Unit) (Act.note e) :=
  modify fun s => s.only_note k told

theorem onHistory (change : History → History) :
    Undisturbed k (Snapshot.onHistory change : Act σ Unit) (Snapshot.onHistory change) :=
  fun _ => rfl

theorem now : Undisturbed k (Act.now : Act σ Instant) Act.now :=
  fun _ => rfl

theorem deadlineIn (d : Duration) : Undisturbed k (Act.deadlineIn d : Act σ Instant) (Act.deadlineIn d) := by
  intro s
  rw [deadlineIn_apply, deadlineIn_apply]
  rfl

theorem call {door quiet : Door σ α} {event : Option α → Event} (same : ∀ scene, quiet scene = (door scene).only k)
    (told : ∀ answer, (event answer).told k = true) : Undisturbed k (Act.call door event) (Act.call quiet event) := by
  intro s
  have scene : (s.only k).scene = s.scene := rfl
  unfold Act.call
  simp only [same, scene, Session.only_absorb, Session.only_note k _ (told _)]
  rfl

theorem sleep (c : Collaborators σ) (d : Duration) : Undisturbed k (Act.sleep c d) (Act.sleep (c.only k) d) := by
  intro s
  exact congrArg (Prod.mk _) (Session.only_advanceTo k s _).symm

theorem request (c : Collaborators σ) (target : FreezeState) :
    Undisturbed k (Act.request c target) (Act.request (c.only k) target) :=
  call (fun _ => rfl) fun _ => rfl

theorem observe (c : Collaborators σ) : Undisturbed k (Act.observe c) (Act.observe (c.only k)) :=
  call (fun _ => rfl) fun _ => rfl

theorem subjectAlive : Undisturbed k (Act.subjectAlive : Act σ Bool) Act.subjectAlive := by
  intro s
  have subject : (s.only k).subject = s.subject := rfl
  unfold Act.subjectAlive
  rw [bind_ok get_apply, bind_ok get_apply, subject]
  rcases s.subject with _ | ⟨pid, _ | status, _ | _⟩ <;> rfl

/-! ## Snapshots -/

theorem await (c : Collaborators σ) (target : FreezeState) (p : TransitionPolicy) (looks retries : Nat)
    (deadline : Instant) : Undisturbed k (Transition.await c target p looks retries deadline)
      (Transition.await (c.only k) target p looks retries deadline) := by
  induction looks generalizing retries deadline with
  | zero => exact throw _
  | succ looks ih =>
    rw [Transition.await.eq_def, Transition.await.eq_def]
    refine bind (sleep c _) fun _ => bind (observe c) fun answer => ?_
    by_cases settled : answer = some target
    · rw [if_pos settled, if_pos settled]
      exact pure _
    rw [if_neg settled, if_neg settled]
    refine bind now fun t => ?_
    by_cases early : t < deadline
    · rw [if_pos early, if_pos early]
      exact ih _ _
    rw [if_neg early, if_neg early]
    cases retries with
    | zero => exact throw _
    | succ retries => exact bind (request c target) fun _ => bind (deadlineIn _) fun _ => ih _ _

theorem transition (c : Collaborators σ) (target : FreezeState) (p : TransitionPolicy) :
    Undisturbed k (Transition.run c target p) (Transition.run (c.only k) target p) :=
  bind (request c target) fun _ => bind (deadlineIn _) fun _ => await c target p _ _ _

theorem measure (c : Collaborators σ) (p : SnapshotPlan) (pid iteration : UInt32) :
    Undisturbed k (Snapshot.measure c p pid iteration) (Snapshot.measure (c.only k) p pid iteration) := by
  refine bind (call (fun _ => rfl) fun _ => rfl) fun found => ?_
  cases found with
  | none => exact pure _
  | some heap => exact bind (call (fun _ => rfl) fun _ => rfl) fun _ => pure _

theorem cycle (c : Collaborators σ) (p : SnapshotPlan) (pid iteration : UInt32) :
    Undisturbed k (Snapshot.cycle c p pid iteration) (Snapshot.cycle (c.only k) p pid iteration) := by
  refine bind (transition c _ _).attempt fun frozen => ?_
  cases frozen with
  | error e => exact pure _
  | ok => exact bind (measure c p pid iteration).attempt fun _ => bind (transition c _ _).attempt fun _ => pure _

theorem take (c : Collaborators σ) (p : SnapshotPlan) (pid : UInt32) :
    Undisturbed k (Snapshot.take c p pid) (Snapshot.take (c.only k) p pid) := by
  have claims : Undisturbed k (Snapshot.beginIteration : Act σ UInt32) Snapshot.beginIteration := fun _ => rfl
  refine bind (note rfl) fun _ => bind claims fun iteration => bind (cycle c p pid iteration) fun result => ?_
  rcases result with e | _ | sample
  · exact bind (onHistory _) fun _ => bind (note rfl) fun _ => throw _
  · exact bind (onHistory _) fun _ => bind (note rfl) fun _ => pure _
  · exact bind (onHistory _) fun _ => bind (note rfl) fun _ => pure _

end Undisturbed

end Act

namespace Snapshot

/-- A snapshot goes as it goes with nothing else than what is kept. -/
theorem take_only (k : Selection) (c : Collaborators σ) (p : SnapshotPlan) (pid : UInt32) (s : Session σ) :
    take (c.only k) p pid (s.only k) = ((take c p pid s).1, (take c p pid s).2.only k) :=
  Act.Undisturbed.take c p pid s

end Snapshot

end HeapSampler

import HeapSampler.Proofs.Acts

/-!
# What lasts

While a snapshot is taken the monitor notes events, waits, deals with collaborators and changes its
history; it does nothing else to its session. A relation between an earlier and a later session that
survives these four therefore survives every snapshot, however the snapshot goes (`Act.Along.take`). Two
such relations are what runs rely on: what happened before is not undone, and no request for a sample
arrives that nobody sends.
-/

namespace HeapSampler

variable {σ α β : Type}

/-- All that happens while collaborators reply is of some kind. -/
structure Collaborators.Bring (c : Collaborators σ) (kind : Happening → Prop) : Prop where
  request : ∀ target scene, ∀ h ∈ (c.request target scene).happenings, kind h
  observe : ∀ scene, ∀ h ∈ (c.observe scene).happenings, kind h
  heapRange : ∀ pid scene, ∀ h ∈ (c.heapRange pid scene).happenings, kind h
  classify : ∀ pid iteration artifact heap scene,
    ∀ h ∈ (c.classify pid iteration artifact heap scene).happenings, kind h

theorem Collaborators.brings_any (c : Collaborators σ) : c.Bring fun _ => True :=
  ⟨by simp, by simp, by simp, by simp⟩

/-- The happening is not a request for a sample. -/
def Happening.isQuiet : Happening → Prop
  | .control .sampleNow => False
  | _ => True

namespace Session

/-! ## What the outside has done -/

/-- The subject has not ended. -/
def alive (s : Session σ) : Bool :=
  s.subject.any fun p => p.status.isNone

/-- The end of the subject has been noticed. -/
def foundDead (s : Session σ) : Bool :=
  s.subject.all fun p => p.noticed

/-- All that is on the agenda is of some kind. -/
def Expects (s : Session σ) (kind : Happening → Prop) : Prop :=
  ∀ p ∈ s.agenda, kind p.2

/-- The outside has done nothing between two sessions. -/
structure SameOutside (s t : Session σ) : Prop where
  subject : t.subject = s.subject
  cancelled : t.cancelled = s.cancelled
  inbox : t.inbox = s.inbox

/-! ## Lasting relations -/

/-- A relation between an earlier and a later session that survives whatever a snapshot does, as long
as all that happens during replies is of some kind. -/
structure Lasts (kind : Happening → Prop) (R : Session σ → Session σ → Prop) : Prop where
  refl : ∀ s, R s s
  trans : ∀ {s t u}, R s t → R t u → R s u
  note : ∀ s e, R s (s.note e)
  history : ∀ (s : Session σ) history, R s { s with history }
  advanceTo : ∀ s t, R s (s.advanceTo t)
  absorb : ∀ {α : Type} (s) (r : Reply σ α), (∀ h ∈ r.happenings, kind h) → R s (s.absorb r)

/-- What looks only at the outside and survives all happenings of a kind, lasts while nothing else is
expected. -/
theorem Lasts.of_happen {kind : Happening → Prop} {V : Session σ → Session σ → Prop}
    (aside : ∀ s t, SameOutside s t → V s t) (trans : ∀ {s t u}, V s t → V t u → V s u)
    (happen : ∀ s h, kind h → V s (s.happen h)) : Lasts kind fun s t => s.Expects kind → t.Expects kind ∧ V s t := by
  have all {γ : Type} (what : γ → Happening) (plans : List γ) (s : Session σ) (of : ∀ p ∈ plans, kind (what p)) :
      V s (plans.foldl (fun s p => s.happen (what p)) s) := by
    induction plans generalizing s with
    | nil => exact aside s s ⟨rfl, rfl, rfl⟩
    | cons p plans ih =>
      exact trans (happen s _ (of p List.mem_cons_self)) (ih _ fun q found => of q (List.mem_cons_of_mem p found))
  have advance (s : Session σ) (t : Instant) (expects : s.Expects kind) :
      (s.advanceTo t).Expects kind ∧ V s (s.advanceTo t) := by
    rw [Session.advanceTo, List.partition_eq_filter_filter]
    constructor
    · exact fun p found => expects p (List.mem_filter.1 found).1
    · refine trans (all Prod.snd _ s fun p found => ?_) (aside _ _ ⟨rfl, rfl, rfl⟩)
      exact expects p (List.mem_filter.1 found).1
  have agenda_happen (s : Session σ) (h : Happening) : (s.happen h).agenda = s.agenda := by
    cases h <;> rfl
  constructor
  · exact fun s expects => ⟨expects, aside s s ⟨rfl, rfl, rfl⟩⟩
  · intro s t u first second expects
    obtain ⟨between, went⟩ := first expects
    obtain ⟨last, on⟩ := second between
    exact ⟨last, trans went on⟩
  · exact fun s e expects => ⟨expects, aside s _ ⟨rfl, rfl, rfl⟩⟩
  · exact fun s h expects => ⟨expects, aside s _ ⟨rfl, rfl, rfl⟩⟩
  · exact advance
  · intro α s r brings expects
    -- what is on the agenda for the time of the reply comes before what the reply brings
    let begun : Session σ := { s with files := r.files, state := r.state }
    obtain ⟨later, went⟩ := advance begun (s.now.later r.elapsed) expects
    have started : V s begun := aside s begun ⟨rfl, rfl, rfl⟩
    refine ⟨?_, trans started (trans went (all id r.happenings _ brings))⟩
    have same := foldl_happen agenda_happen id r.happenings (begun.advanceTo (s.now.later r.elapsed))
    exact fun p found => later p (same ▸ found)

/-- What has happened before the earlier of two sessions is not undone in the later: a request to stop
stays, and so does the end of the subject, noticed or not. -/
structure Keeps (s t : Session σ) : Prop where
  asked : s.cancelled = true → t.cancelled = true
  ended : s.alive = false → t.alive = false
  found : s.foundDead = true → t.foundDead = true

theorem Keeps.of_same {s t : Session σ} (subject : t.subject = s.subject) (cancelled : t.cancelled = s.cancelled) :
    Keeps s t where
  asked asked := by rw [cancelled, asked]
  ended gone := by rw [alive, subject, ← alive, gone]
  found known := by rw [foundDead, subject, ← foundDead, known]

theorem Keeps.trans {s t u : Session σ} (first : Keeps s t) (second : Keeps t u) : Keeps s u where
  asked asked := second.asked (first.asked asked)
  ended gone := second.ended (first.ended gone)
  found known := second.found (first.found known)

theorem Keeps.happen (s : Session σ) (h : Happening) : Keeps s (s.happen h) := by
  cases h with
  | interrupt => exact ⟨fun _ => rfl, id, id⟩
  | control e => exact ⟨id, id, id⟩
  | subjectEnds status =>
    rcases subject : s.subject with _ | ⟨pid, _ | earlier, noticed⟩ <;>
      constructor <;> simp [Session.happen, alive, foundDead, subject]

theorem Keeps.lasts : Lasts (fun _ => True)
    fun s t : Session σ => s.Expects (fun _ => True) → t.Expects (fun _ => True) ∧ Keeps s t :=
  .of_happen (fun _ _ same => .of_same same.subject same.cancelled) Keeps.trans fun s h _ => Keeps.happen s h

/-- How many requests for samples are waiting. -/
def requested (s : Session σ) : Nat :=
  s.inbox.count .sampleNow

theorem quiet_lasts : Lasts Happening.isQuiet
    fun s t : Session σ => s.Expects Happening.isQuiet → t.Expects Happening.isQuiet ∧ t.requested = s.requested := by
  refine .of_happen (fun s t same => ?_) (fun first second => second.trans first) fun s h quiet => ?_
  · rw [requested, same.inbox, requested]
  · rcases h with _ | ⟨_ | _⟩ | _
    · rfl
    · cases quiet
    · exact List.count_append.trans (Nat.add_zero _)
    · rfl

end Session

/-! ## Acts along a relation -/

namespace Act

/-- The act leads from every session to one in a relation to it. -/
def Along (R : Session σ → Session σ → Prop) (act : Act σ α) : Prop :=
  ∀ s, R s (act s).2

namespace Along

open Session (Lasts)

variable {kind : Happening → Prop} {R : Session σ → Session σ → Prop}

theorem andThen (trans : ∀ s t u, R s t → R t u → R s u) {x : Act σ α} {f : α → Act σ β}
    (first : Along R x) (second : ∀ a, Along R (f a)) : Along R (x >>= f) := by
  intro s
  have went := first s
  rcases ran : x s with ⟨stop | a, t⟩ <;> rw [ran] at went
  · rw [bind_error ran]
    exact went
  · rw [bind_ok ran]
    exact trans s t _ went (second a t)

theorem attempt {act : Act σ α} (along : Along R act) : Along R (Snapshot.attempt act) := by
  intro s
  have went := along s
  rcases ran : Snapshot.attempt act s with ⟨r, t⟩
  obtain ⟨⟨r', acted⟩, -⟩ := attempt_runs ran
  rw [acted] at went
  exact went

variable (lasts : Lasts kind R)
include lasts

theorem pure (a : α) : Along R (pure a : Act σ α) :=
  fun s => lasts.refl s

theorem throw (stop : Stop) : Along R (throw stop : Act σ α) :=
  fun s => lasts.refl s

theorem bind {x : Act σ α} {f : α → Act σ β} (first : Along R x) (second : ∀ a, Along R (f a)) : Along R (x >>= f) :=
  andThen (R := R) (fun _ _ _ => lasts.trans) first second

theorem note (e : Event) : Along R (Act.note e : Act σ Unit) :=
  fun s => lasts.note s e

theorem onHistory (change : History → History) : Along R (Snapshot.onHistory change : Act σ Unit) :=
  fun s => lasts.history s _

theorem deadlineIn (d : Duration) : Along R (Act.deadlineIn d : Act σ Instant) := by
  intro s
  rw [deadlineIn_apply]
  exact lasts.refl s

theorem call {door : Door σ α} {event : Option α → Event}
    (brings : ∀ scene, ∀ h ∈ (door scene).happenings, kind h) : Along R (Act.call door event) :=
  fun s => lasts.trans (lasts.note s _) (lasts.absorb _ _ (brings s.scene))

theorem sleep (c : Collaborators σ) (d : Duration) : Along R (Act.sleep c d) :=
  fun s => lasts.advanceTo s _

/-! ## Snapshots -/

variable {c : Collaborators σ} (brings : c.Bring kind)
include brings

theorem await {target : FreezeState} {p : TransitionPolicy} (looks retries : Nat) (deadline : Instant) :
    Along R (Transition.await c target p looks retries deadline) := by
  induction looks generalizing retries deadline with
  | zero => exact throw lasts _
  | succ looks ih =>
    rw [Transition.await.eq_def]
    refine bind lasts (sleep lasts c _) fun _ => bind lasts (call lasts brings.observe) fun answer => ?_
    by_cases settled : answer = some target
    · rw [if_pos settled]
      exact pure lasts _
    rw [if_neg settled]
    refine bind lasts (fun s => lasts.refl s) fun now => ?_
    by_cases early : now < deadline
    · rw [if_pos early]
      exact ih _ _
    rw [if_neg early]
    cases retries with
    | zero => exact throw lasts _
    | succ retries =>
      refine bind lasts (call lasts (brings.request target)) fun _ => ?_
      exact bind lasts (deadlineIn lasts _) fun _ => ih _ _

theorem transition (target : FreezeState) (p : TransitionPolicy) : Along R (Transition.run c target p) := by
  unfold Transition.run
  refine bind lasts (call lasts (brings.request target)) fun _ => ?_
  exact bind lasts (deadlineIn lasts _) fun _ => await lasts brings _ _ _

theorem measure (p : SnapshotPlan) (pid iteration : UInt32) : Along R (Snapshot.measure c p pid iteration) := by
  unfold Snapshot.measure
  refine bind lasts (call lasts (brings.heapRange pid)) fun found => ?_
  cases found with
  | none => exact pure lasts _
  | some heap =>
    exact bind lasts (call lasts (brings.classify pid iteration _ heap)) fun _ => pure lasts _

theorem cycle (p : SnapshotPlan) (pid iteration : UInt32) : Along R (Snapshot.cycle c p pid iteration) := by
  unfold Snapshot.cycle
  refine bind lasts (attempt (transition lasts brings _ _)) fun frozen => ?_
  cases frozen with
  | error e => exact pure lasts _
  | ok =>
    refine bind lasts (attempt (measure lasts brings _ _ _)) fun _ => ?_
    exact bind lasts (attempt (transition lasts brings _ _)) fun _ => pure lasts _

theorem take (p : SnapshotPlan) (pid : UInt32) : Along R (Snapshot.take c p pid) := by
  unfold Snapshot.take
  refine bind lasts (note lasts _) fun _ => bind lasts (fun s => lasts.history s _) fun iteration => ?_
  refine bind lasts (cycle lasts brings _ _ _) fun result => ?_
  rcases result with e | _ | sample
  · exact bind lasts (onHistory lasts _) fun _ => bind lasts (note lasts _) fun _ => throw lasts _
  · exact bind lasts (onHistory lasts _) fun _ => bind lasts (note lasts _) fun _ => pure lasts _
  · exact bind lasts (onHistory lasts _) fun _ => bind lasts (note lasts _) fun _ => pure lasts _

end Along

end Act

namespace Snapshot

/-- A snapshot undoes nothing that happens meanwhile. -/
theorem take_keeps (c : Collaborators σ) (p : SnapshotPlan) (pid : UInt32) (s : Session σ) :
    s.Keeps (take c p pid s).2 :=
  (Act.Along.take Session.Keeps.lasts c.brings_any p pid s fun _ _ => trivial).2

/-- No request for a sample arrives during a snapshot if nobody sends one. -/
theorem take_quiet {c : Collaborators σ} (quiet : c.Bring Happening.isQuiet) (p : SnapshotPlan) (pid : UInt32)
    {s : Session σ} (expects : s.Expects Happening.isQuiet) :
    (take c p pid s).2.Expects Happening.isQuiet ∧ (take c p pid s).2.requested = s.requested :=
  Act.Along.take Session.quiet_lasts quiet p pid s expects

end Snapshot

end HeapSampler

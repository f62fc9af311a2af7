import HeapSampler.Monitor.Session

/-!
# What a session has noted

The trace of a session tells every dealing with a collaborator and every turn of the run. Read
oldest first it is the session's timeline, and its events without their moments. `Session.Adds` is
what most acts do to what the monitor itself keeps: some events are noted, and the history stays as
it is. Nothing that happens outside touches either.
-/

namespace HeapSampler

namespace Event

/-- The state that the freezer was asked for. -/
def request? : Event → Option FreezeState
  | .requested target _ => some target
  | _ => none

/-- What a look at the freezer showed, if it did not fail. -/
def look? : Event → Option (Option (Option FreezeState))
  | .observed answer => some answer
  | _ => none

/-- The freezer was asked or looked at. -/
def touchesFreezer : Event → Bool
  | .requested _ _ | .observed _ => true
  | _ => false

/-- The heap was looked up. -/
def isMapping : Event → Bool
  | .mapped _ => true
  | _ => false

/-- The pages of a heap were classified. -/
def isCounting : Event → Bool
  | .classified _ _ _ => true
  | _ => false

/-- The subject's memory was inspected. -/
def measures (e : Event) : Bool :=
  e.isMapping || e.isCounting

/-- The event belongs to a snapshot that has begun. -/
def isInner : Event → Bool
  | .requested _ _ | .observed _ | .mapped _ | .classified _ _ _ | .snapshotEnded _ => true
  | _ => false

/-- A control event was taken up. -/
def isTaking : Event → Bool
  | .took _ => true
  | _ => false

theorem not_mem_inner {e : Event} {es : List Event} (inner : ∀ e ∈ es, e.isInner) (outer : e.isInner = false) :
    e ∉ es := by
  intro found
  simp [inner e found] at outer

/-- All requests to the freezer, failed ones included, in order. -/
def requests (es : List Event) : List FreezeState :=
  es.filterMap request?

/-- What all looks at the freezer showed, in order. -/
def looks (es : List Event) : List (Option (Option FreezeState)) :=
  es.filterMap look?

/-- An event among earlier and later events is one of the earlier or one of the later. -/
theorem split_cases {e : Event} {es fs before after : List Event} (split : es ++ fs = before ++ e :: after) :
    (∃ between, es = before ++ e :: between ∧ after = between ++ fs) ∨
      ∃ between, before = es ++ between ∧ fs = between ++ e :: after := by
  obtain ⟨between, rfl, rest⟩ | ⟨between, rfl, rest⟩ := List.append_eq_append_iff.1 split
  · exact .inr ⟨between, rfl, rest⟩
  · cases between with
    | nil => exact .inr ⟨[], by simp, rest.symm⟩
    | cons head between =>
      cases rest
      exact .inl ⟨between, rfl, rfl⟩

/-- Every event satisfies a property together with the events before it. -/
def Throughout (P : List Event → Event → Prop) (es : List Event) : Prop :=
  ∀ before e after, es = before ++ e :: after → P before e

section Throughout

variable {P : List Event → Event → Prop} {e : Event} {es fs : List Event}

theorem Throughout.of_forall (always : ∀ e ∈ es, ∀ before, P before e) : Throughout P es := by
  rintro before e after rfl
  exact always e (by simp) before

theorem Throughout.append (first : Throughout P es) (second : Throughout (fun before => P (es ++ before)) fs) :
    Throughout P (es ++ fs) := by
  intro before e after split
  obtain ⟨between, rfl, -⟩ | ⟨between, rfl, rest⟩ := split_cases split
  · exact first before e between rfl
  · exact second between e after rest

theorem Throughout.cons (first : P [] e) (rest : Throughout (fun before => P (e :: before)) es) :
    Throughout P (e :: es) := by
  have alone : Throughout P [e] := by
    intro before f after split
    cases before with
    | nil =>
      cases split
      exact first
    | cons head before => simp at split
  exact alone.append rest

end Throughout

end Event

namespace Session

variable {σ : Type} {s t u : Session σ}

/-! ## What was noted -/

/-- What was noted in a session, each event with its moment, oldest first. -/
def timeline (s : Session σ) : List (Instant × Event) :=
  s.trace.reverse

/-- The events of a session, oldest first. -/
def events (s : Session σ) : List Event :=
  s.timeline.map Prod.snd

theorem timeline_congr (same : t.trace = s.trace) : t.timeline = s.timeline := by
  rw [timeline, timeline, same]

theorem events_congr (same : t.trace = s.trace) : t.events = s.events := by
  rw [events, events, timeline_congr same]

@[simp] theorem timeline_note (s : Session σ) (e : Event) : (s.note e).timeline = s.timeline ++ [(s.now, e)] := by
  simp [note, timeline]

@[simp] theorem events_note (s : Session σ) (e : Event) : (s.note e).events = s.events ++ [e] := by
  simp [events]

/-- The monitor noted some events and left its history alone. -/
structure Adds (s : Session σ) (es : List Event) (t : Session σ) : Prop where
  events : t.events = s.events ++ es
  history : t.history = s.history

theorem Adds.refl (s : Session σ) : s.Adds [] s :=
  ⟨by simp, rfl⟩

theorem Adds.trans {es fs : List Event} (first : s.Adds es t) (second : t.Adds fs u) : s.Adds (es ++ fs) u :=
  ⟨by rw [second.events, first.events, List.append_assoc], second.history.trans first.history⟩

/-- Nothing is added where the trace and the history are the same. -/
theorem Adds.of_same (trace : t.trace = s.trace) (history : t.history = s.history) : s.Adds [] t :=
  ⟨by rw [events_congr trace, List.append_nil], history⟩

/-! ## What happens outside -/

section Happenings

variable {β γ : Type} {view : Session σ → β}

/-- What no happening changes stays as it is, whatever happens. -/
theorem foldl_happen (blind : ∀ s h, view (s.happen h) = view s) (what : γ → Happening) (plans : List γ)
    (s : Session σ) : view (plans.foldl (fun s p => s.happen (what p)) s) = view s := by
  induction plans generalizing s with
  | nil => rfl
  | cons p plans ih => rw [List.foldl_cons, ih, blind]

end Happenings

@[simp] theorem happen_trace (s : Session σ) (h : Happening) : (s.happen h).trace = s.trace := by
  cases h <;> rfl

@[simp] theorem happen_history (s : Session σ) (h : Happening) : (s.happen h).history = s.history := by
  cases h <;> rfl

@[simp] theorem happen_now (s : Session σ) (h : Happening) : (s.happen h).now = s.now := by
  cases h <;> rfl

@[simp] theorem advanceTo_trace (s : Session σ) (t : Instant) : (s.advanceTo t).trace = s.trace :=
  foldl_happen happen_trace Prod.snd _ s

@[simp] theorem advanceTo_history (s : Session σ) (t : Instant) : (s.advanceTo t).history = s.history :=
  foldl_happen happen_history Prod.snd _ s

theorem advanceTo_now (s : Session σ) (t : Instant) : (s.advanceTo t).now = if s.now ≤ t then t else s.now := rfl

theorem now_le_advanceTo (s : Session σ) (t : Instant) : s.now ≤ (s.advanceTo t).now := by
  rw [advanceTo_now]
  split
  · assumption
  · exact Nat.le_refl _

theorem le_advanceTo (s : Session σ) (t : Instant) : t ≤ (s.advanceTo t).now := by
  rw [advanceTo_now]
  split
  · exact Nat.le_refl _
  · exact Nat.le_of_not_le ‹_›

/-- Waiting until a later moment leads to that moment. -/
theorem advanceTo_later_now (s : Session σ) (d : Duration) :
    (s.advanceTo (s.now.later d)).now = s.now.later d := by
  rw [advanceTo_now, if_pos]
  exact Nat.le_add_right _ _

@[simp] theorem absorb_trace {α : Type} (s : Session σ) (r : Reply σ α) : (s.absorb r).trace = s.trace :=
  (foldl_happen happen_trace id r.happenings _).trans (advanceTo_trace _ _)

@[simp] theorem absorb_history {α : Type} (s : Session σ) (r : Reply σ α) : (s.absorb r).history = s.history :=
  (foldl_happen happen_history id r.happenings _).trans (advanceTo_history _ _)

theorem absorb_now {α : Type} (s : Session σ) (r : Reply σ α) : (s.absorb r).now = s.now.later r.elapsed :=
  (foldl_happen happen_now id r.happenings _).trans
    (advanceTo_later_now { s with files := r.files, state := r.state } r.elapsed)

end Session

end HeapSampler

import HeapSampler.Proofs.Run.Pace
import HeapSampler.Proofs.Run.WindUp
import HeapSampler.Proofs.Selection

/-!
# What a run heeds

A control event that makes no snapshot due is taken up and noted, and that is all. Yet it wakes the loop,
which then waits anew, for the same moment. So a run with such events takes more turns than one without, and
while both wait the one without them has not noticed yet that time has passed (`Follows`). A turn either takes up
what is not heeded, or is a turn of the other run too (`turn_follows`).
-/

namespace HeapSampler

variable {σ α : Type}

/-! ## Time -/

/-- Of two waits from different moments on, the earlier one is as long as the later one if it leads beyond both. -/
theorem Instant.later_eq {x y p q : Instant} (earlier : x ≤ y) (sooner : p ≤ q)
    (reached : q ≤ if y ≤ p then p else y) (level : x = y ∨ ¬ q ≤ y) :
    (if x ≤ q then q else x) = if y ≤ p then p else y := by
  obtain ⟨x⟩ := x
  obtain ⟨y⟩ := y
  obtain ⟨p⟩ := p
  obtain ⟨q⟩ := q
  simp only [Instant.le_def, Instant.mk.injEq] at *
  split at reached <;> split <;> simp only [Instant.mk.injEq] at reached ⊢ <;> omega

namespace Session

variable {s : Session σ} {t : Instant}

/-- What is to come, comes in the order of time. -/
def InOrder (s : Session σ) : Prop :=
  s.agenda.Pairwise fun p q => p.1 ≤ q.1

instance (s : Session σ) : Decidable s.InOrder :=
  inferInstanceAs (Decidable (s.agenda.Pairwise fun p q => p.1 ≤ q.1))

/-- What comes first, comes before everything else. -/
theorem first_le {p q : Instant × Happening} {later : List (Instant × Happening)}
    (sorted : (p :: later).Pairwise fun p q => p.1 ≤ q.1) (found : q ∈ p :: later) : p.1 ≤ q.1 := by
  rcases List.mem_cons.1 found with rfl | rest
  · exact Nat.le_refl _
  · exact (List.pairwise_cons.1 sorted).1 q rest

theorem agenda_happen (s : Session σ) (h : Happening) : (s.happen h).agenda = s.agenda := by
  cases h <;> rfl

theorem advanceTo_agenda (s : Session σ) (t : Instant) : (s.advanceTo t).agenda.Sublist s.agenda := by
  rw [advanceTo, List.partition_eq_filter_filter]
  exact List.filter_sublist

/-- Nothing is added to what is to come. -/
theorem agenda_lasts : Lasts (fun _ => True) fun s t : Session σ => t.agenda.Sublist s.agenda where
  refl s := .refl _
  trans first second := second.trans first
  note s e := .refl _
  history s h := .refl _
  advanceTo := advanceTo_agenda
  absorb s r _ := by
    have same := foldl_happen agenda_happen id r.happenings
      (({ s with files := r.files, state := r.state } : Session σ).advanceTo (s.now.later r.elapsed))
    exact same ▸ advanceTo_agenda { s with files := r.files, state := r.state } _

/-! ## Waiting -/

theorem foldl_happen_now (plans : List (Instant × Happening)) (s : Session σ) (now : Instant) :
    plans.foldl (fun s p => s.happen p.2) { s with now } = { plans.foldl (fun s p => s.happen p.2) s with now } := by
  induction plans generalizing s with
  | nil => rfl
  | cons p plans ih =>
    have comm : ({ s with now } : Session σ).happen p.2 = { s.happen p.2 with now } := by cases p.2 <;> rfl
    rw [List.foldl_cons, comm, ih]
    rfl

/-- Where a wait leads depends on the time that it leads to, not on the time when it began. -/
theorem advanceTo_congr {now : Instant} {u : Instant}
    (same : (if now ≤ u then u else now) = if s.now ≤ t then t else s.now) :
    ({ s with now } : Session σ).advanceTo u = s.advanceTo t := by
  rw [advanceTo, advanceTo]
  simp only [same, foldl_happen_now]

/-- If nothing is due, only time passes. -/
theorem advanceTo_of_none (none : ∀ p ∈ s.agenda, ¬ p.1 ≤ (s.advanceTo t).now) :
    s.advanceTo t = { s with now := (s.advanceTo t).now } := by
  rw [advanceTo_now] at none ⊢
  have due : s.agenda.filter (fun p => decide (p.1 ≤ if s.now ≤ t then t else s.now)) = [] :=
    List.filter_eq_nil_iff.2 fun p found => by simpa using none p found
  have later : s.agenda.filter (fun p => !decide (p.1 ≤ if s.now ≤ t then t else s.now)) = s.agenda :=
    List.filter_eq_self.2 fun p found => by simpa using none p found
  rw [advanceTo, List.partition_eq_filter_filter]
  simp only [due, Function.comp_def, later, List.foldl_nil]

/-- How much there is to take up, now or later. -/
def pending (s : Session σ) : Nat :=
  2 * s.agenda.length + s.inbox.length

theorem foldl_happen_pending (plans : List (Instant × Happening)) (s : Session σ) :
    (plans.foldl (fun s p => s.happen p.2) s).inbox.length ≤ s.inbox.length + plans.length := by
  induction plans generalizing s with
  | nil => exact Nat.le_refl _
  | cons p plans ih =>
    have one : (s.happen p.2).inbox.length ≤ s.inbox.length + 1 := by cases p.2 <;> simp [happen]
    have rest := ih (s.happen p.2)
    rw [List.foldl_cons, List.length_cons]
    omega

/-- What was due is not to come any more. -/
theorem advanceTo_pending {p : Instant × Happening} (found : p ∈ s.agenda) (due : p.1 ≤ (s.advanceTo t).now) :
    (s.advanceTo t).pending < s.pending := by
  rw [advanceTo_now] at due
  rw [pending, advanceTo, List.partition_eq_filter_filter]
  simp only [Function.comp_def]
  generalize (if s.now ≤ t then t else s.now) = now at due ⊢
  have inbox := foldl_happen_pending (s.agenda.filter fun p => decide (p.1 ≤ now)) s
  have split := (List.filter_append_perm (fun p : Instant × Happening => decide (p.1 ≤ now)) s.agenda).length_eq
  have moved : 0 < (s.agenda.filter fun p => decide (p.1 ≤ now)).length :=
    List.length_pos_of_mem (List.mem_filter.2 ⟨found, decide_eq_true due⟩)
  rw [List.length_append] at split
  rw [pending]
  omega

end Session

namespace Watch

open Act (Undisturbed)

variable {c : Collaborators σ} {w : Watch} {l l' : LoopState} {a b s t : Session σ}

/-! ## What is heeded -/

/-- What a run heeds: whatever happens but control events that make no snapshot due. These are the status dumps, and
where there is a pause between two snapshots they are all control events. -/
def heeded (w : Watch) : Selection where
  keeps
    | .control e => w.demandsSample e
    | _ => true
  ends _ := rfl

/-- The session without what is not heeded. -/
abbrev calm (w : Watch) (s : Session σ) : Session σ :=
  s.only w.heeded

theorem calm_cancelled (w : Watch) (s : Session σ) : (w.calm s).cancelled = s.cancelled :=
  Bool.and_true _

theorem settle_undisturbed (w : Watch) (l : LoopState) :
    Undisturbed w.heeded (settle w l : Act σ LoopState) (settle w l) := by
  have drains : Undisturbed w.heeded (w.drain : Act σ Bool) w.drain := by
    intro s
    have same : (w.calm s).inbox.any w.demandsSample = s.inbox.any w.demandsSample := by
      simp [Session.only, heeded, List.any_filter]
    have emptied : (w.calm s).emptied = w.calm s.emptied := by
      simp [Session.emptied, Session.only, List.filter_append, List.filter_reverse, List.filter_map, Function.comp_def,
        Event.told]
    rw [drain_apply, drain_apply, same, emptied]
  unfold settle
  cases w.plan.mode with
  | interval period => exact (Undisturbed.deadlineIn period).bind fun _ => drains.bind fun _ => .pure _
  | onRequest => exact (Undisturbed.pure l.nextWake).bind fun _ => drains.bind fun _ => .pure _

theorem sample_undisturbed (c : Collaborators σ) (w : Watch) (l : LoopState) :
    Undisturbed w.heeded (w.sample c l) (w.sample (c.only w.heeded) l) := by
  refine Undisturbed.subjectAlive.bind fun alive => ?_
  cases alive with
  | false => exact settle_undisturbed w l
  | true => exact (Undisturbed.take c _ _).discard.bind fun _ => settle_undisturbed w l

theorem look_undisturbed (w : Watch) (l : LoopState) :
    Undisturbed w.heeded (w.look l : Act σ (Outcome ⊕ LoopState)) (w.look l) := by
  unfold look
  cases w.plan.mode with
  | interval => exact .pure _
  | onRequest =>
    refine Undisturbed.subjectAlive.bind fun alive => ?_
    cases alive with
    | false => exact .pure _
    | true => exact (Undisturbed.deadlineIn _).bind fun _ => .pure _

/-! ## Two runs -/

/-- The run in session `a` still waits, while the one in session `b` has been woken by what is not heeded. -/
structure Waits (c : Collaborators σ) (w : Watch) (l : LoopState) (a b : Session σ) : Prop where
  earlier : a.now ≤ b.now
  early : b.now ≤ wakeTime c a l.nextWake
  future : ∀ p ∈ (w.calm b).agenda, ¬ p.1 ≤ b.now
  empty : (w.calm b).inbox = []
  unasked : b.cancelled = false
  idle : l.samplePending = false
  alive : b.alive = true

/-- The session `a` is the session `b` without what is not heeded, or as it was when it began to wait. -/
structure Follows (c : Collaborators σ) (w : Watch) (l : LoopState) (a b : Session σ) : Prop where
  same : a = { w.calm b with now := a.now }
  waits : a.now = b.now ∨ Waits c w l a b

theorem Follows.level (c : Collaborators σ) (w : Watch) (l : LoopState) (b : Session σ) :
    Follows c w l (w.calm b) b :=
  ⟨rfl, .inl rfl⟩

namespace Follows

variable (follows : Follows c w l a b)
include follows

theorem eq_of_now (same : a.now = b.now) : a = w.calm b := by
  have := follows.same
  rwa [same] at this

theorem earlier : a.now ≤ b.now := by
  rcases follows.waits with same | waits
  · rw [same]
    exact Nat.le_refl _
  · exact waits.earlier

theorem state_eq : b.state = a.state := by
  rw [follows.same]
  rfl

/-- Waking one of them does not change when both will wake. -/
theorem wakeTime_eq : wakeTime c b l.nextWake = wakeTime c a l.nextWake := by
  rcases follows.waits with same | waits
  · rw [follows.eq_of_now same]
    rfl
  · exact wakeTime_congr follows.state_eq waits.earlier waits.early

theorem unasked_eq : a.cancelled = b.cancelled := by
  rw [follows.same]
  exact calm_cancelled w b

theorem alive_eq : a.alive = b.alive := by
  rw [follows.same]
  rfl

theorem inbox_eq : a.inbox = (w.calm b).inbox := by
  rw [follows.same]

theorem agenda_eq : a.agenda = (w.calm b).agenda := by
  rw [follows.same]

/-- Two waits that lead to one moment lead to one session. -/
theorem advanceTo_eq {t u : Instant} (reaches : (if a.now ≤ u then u else a.now) = if b.now ≤ t then t else b.now) :
    a.advanceTo u = w.calm (b.advanceTo t) := by
  rw [calm, Session.only_advanceTo, follows.same]
  exact Session.advanceTo_congr (s := w.calm b) reaches

/-- As long as nothing is heeded, the one run waits on while the other goes on. -/
theorem goesOn {b' : Session σ} (idle : l.samplePending = false) (unasked : b.cancelled = false)
    (alive : b.alive = true) (empty : (w.calm b).inbox = []) (same : w.calm b' = { w.calm b with now := b'.now })
    (later : b.now ≤ b'.now) (early : b'.now ≤ wakeTime c a l.nextWake)
    (future : ∀ p ∈ (w.calm b).agenda, ¬ p.1 ≤ b'.now) : Follows c w l a b' := by
  refine ⟨by rw [same, follows.same], .inr ?_⟩
  refine ⟨Nat.le_trans follows.earlier later, early, by rwa [same], by rwa [same], ?_, idle, ?_⟩
  · rw [← calm_cancelled w, same]
    exact (calm_cancelled w b).trans unasked
  · have living : (w.calm b').alive = true := by
      rw [same]
      exact alive
    exact living

/-- Unless the runs wait, they are on a level. -/
theorem eq_calm (active : b.cancelled = true ∨ l.samplePending = true ∨ b.alive = false ∨ (w.calm b).inbox ≠ []) :
    a = w.calm b := by
  rcases follows.waits with level | waits
  · exact follows.eq_of_now level
  · simp [waits.unasked, waits.idle, waits.alive, waits.empty] at active

end Follows

/-- A turn of both runs. -/
def Together (c : Collaborators σ) (w : Watch) (l : LoopState) (a b : Session σ) : Prop :=
  ∃ r b', w.turn c l b = (r, b') ∧ w.turn (c.only w.heeded) l a = (r, w.calm b')

theorem Together.of_undisturbed {x y : Act σ (Outcome ⊕ LoopState)} (same : Undisturbed w.heeded x y)
    (first : w.turn c l b = x s) (second : w.turn (c.only w.heeded) l a = y (w.calm s)) : Together c w l a b :=
  ⟨_, _, first, second.trans (same s)⟩

/-- If there is something else to do than to wait, both runs do it. -/
theorem together_of_active (active : b.cancelled = true ∨ l.samplePending = true ∨ b.alive = false) :
    Together c w l (w.calm b) b := by
  cases asked : b.cancelled with
  | true => exact ⟨_, _, turn_of_asked c w l asked, turn_of_asked _ w l ((calm_cancelled w b).trans asked)⟩
  | false =>
    have unasked := (calm_cancelled w b).trans asked
    cases due : l.samplePending with
    | true =>
      have same := (sample_undisturbed c w l).bind fun l' => Undisturbed.pure (.inr l' : Outcome ⊕ LoopState)
      exact .of_undisturbed same (turn_of_due asked due) (turn_of_due unasked due)
    | false =>
      have ended : b.alive = false := by simpa [asked, due] using active
      have found : Act.subjectAlive (w.calm b) = ((Act.subjectAlive b).1, w.calm (Act.subjectAlive b).2) :=
        Undisturbed.subjectAlive b
      refine ⟨_, _, (turn_of_idle asked due).trans (wait_of_ended ended), ?_⟩
      rw [turn_of_idle unasked due, wait_of_ended (s := w.calm b) ended, found]

section Idle

variable (order : b.InOrder) (follows : Follows c w l a b)
  (unasked : b.cancelled = false) (idle : l.samplePending = false) (alive : b.alive = true)
include follows unasked idle alive

/-- Taking up a control event that is not heeded leaves the other run waiting. -/
theorem turn_of_inbox {e : ControlEvent} {rest : List ControlEvent} (inbox : b.inbox = e :: rest) :
    (∃ b', w.turn c l b = (.ok (.inr l), b') ∧ Follows c w l a b' ∧ b'.pending < b.pending) ∨
      Together c w l a b := by
  have turned := (turn_of_idle (w := w) (c := c) unasked idle).trans (wait_of_inbox alive inbox)
  cases heeds : w.demandsSample e with
  | true =>
    have waiting : (w.calm b).inbox = e :: (rest.filter w.demandsSample) := by
      simp [Session.only, inbox, heeded, heeds]
    obtain rfl := follows.eq_calm (.inr (.inr (.inr (by simp [waiting]))))
    refine .inr ⟨_, _, turned, ?_⟩
    rw [turn_of_idle ((calm_cancelled w b).trans unasked) idle, wait_of_inbox (s := w.calm b) alive waiting]
    simp [Session.only, Session.note, Event.told, heeded, heeds]
  | false =>
    have still : { l with samplePending := w.demandsSample e } = l := by rw [heeds, ← idle]
    rw [still] at turned
    have same : w.calm { b.note (.took e) with inbox := rest } = w.calm b := by
      simp [Session.only, Session.note, Event.told, heeded, heeds, inbox]
    refine .inl ⟨_, turned, ⟨by rw [same]; exact follows.same, ?_⟩, by simp [Session.pending, Session.note, inbox]⟩
    refine follows.waits.imp_right fun waits => ?_
    exact ⟨waits.earlier, waits.early, by rw [same]; exact waits.future, by rw [same]; exact waits.empty,
      waits.unasked, waits.idle, waits.alive⟩

include order

/-- Something that comes before the run would wake. -/
theorem turn_of_soon {p : Instant × Happening} {later : List (Instant × Happening)} (inbox : b.inbox = [])
    (agenda : b.agenda = p :: later) (soon : p.1 ≤ wakeTime c b l.nextWake) :
    (∃ b', w.turn c l b = (.ok (.inr l), b') ∧ Follows c w l a b' ∧ b'.pending < b.pending) ∨
      Together c w l a b := by
  have turned := (turn_of_idle (w := w) (c := c) unasked idle).trans (wait_of_soon alive inbox agenda soon)
  have due : p.1 ≤ (b.advanceTo p.1).now := Session.le_advanceTo b p.1
  have early : (b.advanceTo p.1).now ≤ wakeTime c b l.nextWake := by
    rw [Session.advanceTo_now]
    split
    · exact soon
    · exact now_le_wakeTime c b _
  have empty : (w.calm b).inbox = [] := by simp [Session.only, inbox]
  have found : p ∈ b.agenda := by simp [agenda]
  by_cases none : ∀ q ∈ (w.calm b).agenda, ¬ q.1 ≤ (b.advanceTo p.1).now
  · refine .inl ⟨_, turned, follows.goesOn idle unasked alive empty ?_ ?_ ?_ none, Session.advanceTo_pending found due⟩
    · exact (Session.only_advanceTo _ b _).trans (Session.advanceTo_of_none (s := w.calm b) none)
    · exact Session.now_le_advanceTo b p.1
    · rwa [← follows.wakeTime_eq]
  · -- the first thing to come that is heeded comes at that moment, and the other run has nothing else to wait for
    obtain ⟨q, heeded, reached⟩ : ∃ q ∈ (w.calm b).agenda, q.1 ≤ (b.advanceTo p.1).now := by simpa using none
    cases calmer : (w.calm b).agenda with
    | nil => simp [calmer] at heeded
    | cons q' later' =>
      have sorted : (q' :: later').Pairwise fun p q => p.1 ≤ q.1 := calmer ▸ order.filter _
      have first : q'.1 ≤ (b.advanceTo p.1).now := Nat.le_trans (Session.first_le sorted (calmer ▸ heeded)) reached
      have after : p.1 ≤ q'.1 := by
        have found : q' ∈ (w.calm b).agenda := calmer ▸ List.mem_cons_self
        exact Session.first_le (agenda ▸ order) (agenda ▸ (List.mem_filter.1 found).1)
      have level : a.now = b.now ∨ ¬ q'.1 ≤ b.now :=
        follows.waits.imp_right fun waits => waits.future q' (calmer ▸ List.mem_cons_self)
      have wakes : q'.1 ≤ wakeTime (c.only w.heeded) a l.nextWake := by
        change q'.1 ≤ wakeTime c a l.nextWake
        rw [← follows.wakeTime_eq]
        exact Nat.le_trans first early
      refine .inr ⟨_, _, turned, ?_⟩
      rw [turn_of_idle (follows.unasked_eq.trans unasked) idle, wait_of_soon (follows.alive_eq.trans alive)
        (follows.inbox_eq.trans empty) (follows.agenda_eq.trans calmer) wakes]
      rw [Session.advanceTo_now] at first
      rw [follows.advanceTo_eq (Instant.later_eq follows.earlier after first level)]

/-- Nothing comes before the run wakes. -/
theorem turn_of_late (inbox : b.inbox = []) (late : ∀ p ∈ b.agenda.head?, ¬ p.1 ≤ wakeTime c b l.nextWake) :
    Together c w l a b := by
  have wakes : wakeTime (c.only w.heeded) a l.nextWake = wakeTime c b l.nextWake := follows.wakeTime_eq.symm
  have reaches : (if a.now ≤ wakeTime c b l.nextWake then wakeTime c b l.nextWake else a.now) =
      if b.now ≤ wakeTime c b l.nextWake then wakeTime c b l.nextWake else b.now := by
    have after := now_le_wakeTime c b l.nextWake
    rw [if_pos after, if_pos (Instant.le_def.2 (Nat.le_trans follows.earlier after))]
  have late' : ∀ q ∈ a.agenda.head?, ¬ q.1 ≤ wakeTime (c.only w.heeded) a l.nextWake := by
    intro q first soon
    have known : q ∈ b.agenda := by
      have found := List.mem_of_mem_head? first
      rw [follows.agenda_eq] at found
      exact (List.mem_filter.1 found).1
    cases agenda : b.agenda with
    | nil => simp [agenda] at known
    | cons p later =>
      refine late p (by simp [agenda]) ?_
      rw [wakes] at soon
      exact Nat.le_trans (Session.first_le (agenda ▸ order) (agenda ▸ known)) soon
  refine .of_undisturbed (look_undisturbed w l) ((turn_of_idle unasked idle).trans (wait_of_late alive inbox late)) ?_
  rw [turn_of_idle (follows.unasked_eq.trans unasked) idle, wait_of_late (follows.alive_eq.trans alive)
    (follows.inbox_eq.trans (by simp [Session.only, inbox])) late', wakes, follows.advanceTo_eq reaches]

end Idle

/-- A turn takes up what is not heeded, after which there is less to take up, or is a turn of both runs. -/
theorem turn_follows (order : b.InOrder) (follows : Follows c w l a b) :
    (∃ b', w.turn c l b = (.ok (.inr l), b') ∧ Follows c w l a b' ∧ b'.pending < b.pending) ∨
      Together c w l a b := by
  by_cases active : b.cancelled = true ∨ l.samplePending = true ∨ b.alive = false
  · obtain rfl := follows.eq_calm (active.imp_right fun other => other.imp_right .inl)
    exact .inr (together_of_active active)
  obtain ⟨unasked, idle, alive⟩ : b.cancelled = false ∧ l.samplePending = false ∧ b.alive = true := by
    simpa using active
  obtain ⟨e, rest, inbox⟩ | ⟨inbox, ⟨p, later, agenda, soon⟩ | late⟩ := await_cases c b l.nextWake
  · exact turn_of_inbox follows unasked idle alive inbox
  · exact turn_of_soon order follows unasked idle alive inbox agenda soon
  · exact .inr (turn_of_late order follows unasked idle alive inbox late)

/-- A turn adds nothing to what is to come. -/
theorem turn_agenda {r : Except Stop (Outcome ⊕ LoopState)} (turned : w.turn c l s = (r, t)) :
    t.agenda.Sublist s.agenda := by
  have taken {q : Except Stop (Option Sample)} {u : Session σ} (taken : Snapshot.take c w.snapshots w.pid s = (q, u)) :
      u.agenda.Sublist s.agenda := by
    have less := Act.Along.take Session.agenda_lasts c.brings_any w.snapshots w.pid s
    rwa [taken] at less
  have settled {r : Except Stop LoopState} {u v : Session σ} (settles : Settles w u r v) : v.agenda = u.agenda := by
    cases settles <;> rfl
  cases turn_passes turned with
  | interrupted | takesUp => exact .refl _
  | failed unasked due alive sampled => exact taken sampled
  | sampled unasked due alive sampled settles => exact settled settles ▸ taken sampled
  | missed unasked due loses settles => exact settled settles ▸ loses.agenda ▸ .refl _
  | waits | overflows => exact Session.advanceTo_agenda s _
  | exits unasked idle waited loses =>
    rw [loses.agenda]
    rcases waited with rfl | ⟨-, -, m, rfl⟩
    · exact .refl _
    · exact Session.advanceTo_agenda s m

/-! ## Loops -/

/-- What two runs have come to: the same, and if they have ended, in the same session but for what is not
heeded. -/
structure Ends (w : Watch) (r : Except Stop (Option α)) (a b : Session σ) : Prop where
  same : a = { w.calm b with now := a.now }
  level : r.toOption ≠ some none → a = w.calm b

theorem Ends.of_eq (w : Watch) (r : Except Stop (Option α)) (b : Session σ) : Ends w r (w.calm b) b :=
  ⟨rfl, fun _ => rfl⟩

theorem Ends.unfinished (follows : Follows c w l a b) : Ends w (.ok none : Except Stop (Option α)) a b :=
  ⟨follows.same, fun ended => absurd rfl ended⟩

/-- What the run with all events does, the run with what is heeded does too. -/
theorem loop_calm (n : Nat) (order : b.InOrder) (follows : Follows c w l a b) : ∃ m, (loop (c.only w.heeded) w m l a).1 = (loop c w n l b).1 ∧
      Ends w (loop c w n l b).1 (loop (c.only w.heeded) w m l a).2 (loop c w n l b).2 := by
  induction n generalizing l a b with
  | zero => exact ⟨0, rfl, .unfinished follows⟩
  | succ n ih =>
    obtain ⟨b', turned, follows', -⟩ | ⟨r, b', turned, turned'⟩ := turn_follows order follows
    · rw [loop_of_turn turned]
      exact ih (order.sublist (turn_agenda turned)) follows'
    obtain ⟨q, ends⟩ | ⟨l', rfl⟩ := ending_cases r
    · refine ⟨1, ?_⟩
      rw [loop_of_ending turned ends, loop_of_ending turned' ends]
      exact ⟨rfl, .of_eq w q b'⟩
    · obtain ⟨m, same, ends⟩ := ih (order.sublist (turn_agenda turned)) (.level c w l' b')
      refine ⟨m + 1, ?_⟩
      rw [loop_of_turn turned, loop_of_turn turned']
      exact ⟨same, ends⟩

/-- The run with all events takes up what is not heeded, until the next turn of both. -/
theorem catchUp (order : b.InOrder) (follows : Follows c w l a b) :
    ∃ k b', Going c w k l b l b' ∧ b'.InOrder ∧ Together c w l a b' := by
  induction pending : b.pending using Nat.strongRecOn generalizing b with
  | ind _ ih =>
    obtain ⟨b', turned, follows', less⟩ | together := turn_follows order follows
    · obtain ⟨k, b'', going, order'', together⟩ :=
        ih _ (pending ▸ less) (order.sublist (turn_agenda turned)) follows' rfl
      exact ⟨k + 1, b'', .next turned going, order'', together⟩
    · exact ⟨0, b, .start l b, order, together⟩

/-- What the run with what is heeded does, the run with all events does too. -/
theorem loop_disturbed (n : Nat) (order : b.InOrder) (follows : Follows c w l a b) : ∃ m, (loop c w m l b).1 = (loop (c.only w.heeded) w n l a).1 ∧
      Ends w (loop c w m l b).1 (loop (c.only w.heeded) w n l a).2 (loop c w m l b).2 := by
  induction n generalizing l a b with
  | zero => exact ⟨0, rfl, .unfinished follows⟩
  | succ n ih =>
    obtain ⟨k, b₁, going, order₁, r, b₂, turned, turned'⟩ := catchUp order follows
    obtain ⟨q, ends⟩ | ⟨l', rfl⟩ := ending_cases r
    · refine ⟨k + 1, ?_⟩
      rw [going.loop_add 1, loop_of_ending turned ends, loop_of_ending turned' ends]
      exact ⟨rfl, .of_eq w q b₂⟩
    · obtain ⟨m, same, ends⟩ := ih (order₁.sublist (turn_agenda turned)) (.level c w l' b₂)
      refine ⟨k + (m + 1), ?_⟩
      rw [going.loop_add, loop_of_turn turned, loop_of_turn turned']
      exact ⟨same, ends⟩

/-! ## Runs -/

theorem monitor_calm (n : Nat) (order : s.InOrder) :
    ∃ m, (w.monitor (c.only w.heeded) m (w.calm s)).1 = (w.monitor c n s).1 ∧
      Ends w (w.monitor c n s).1 (w.monitor (c.only w.heeded) m (w.calm s)).2 (w.monitor c n s).2 := by
  have now : (w.calm s).now = s.now := rfl
  simp only [monitor_eq, now]
  by_cases fits : s.now.nanos + w.period.nanos < Instant.limit
  · simp only [if_pos fits]
    exact loop_calm n order (.level c w _ s)
  · simp only [if_neg fits]
    exact ⟨0, trivial, .of_eq w _ s⟩

theorem monitor_disturbed (n : Nat) (order : s.InOrder) :
    ∃ m, (w.monitor c m s).1 = (w.monitor (c.only w.heeded) n (w.calm s)).1 ∧
      Ends w (w.monitor c m s).1 (w.monitor (c.only w.heeded) n (w.calm s)).2 (w.monitor c m s).2 := by
  have now : (w.calm s).now = s.now := rfl
  simp only [monitor_eq, now]
  by_cases fits : s.now.nanos + w.period.nanos < Instant.limit
  · simp only [if_pos fits]
    exact loop_disturbed n order (.level c w _ s)
  · simp only [if_neg fits]
    exact ⟨0, trivial, .of_eq w _ s⟩

theorem finish_undisturbed (c : Collaborators σ) (w : Watch) (result : Except MonitorError Outcome) :
    Undisturbed w.heeded (w.finish c result) (w.finish (c.only w.heeded) result) := by
  have releases : Undisturbed w.heeded (release c) (release (c.only w.heeded)) :=
    ((Undisturbed.request c .thawed).bind fun _ => (Undisturbed.observe c).discard).attempt.discard
  have concludes : Undisturbed w.heeded (conclude w result : Act σ Report) (conclude w result) := by
    intro s
    rw [conclude_apply, conclude_apply]
    rfl
  rw [finish_eq, finish_eq]
  by_cases exited : result = .ok .subjectExited
  · subst exited
    exact (Undisturbed.pure ()).bind fun _ => concludes
  · rw [letGo_other exited, letGo_other exited]
    exact releases.bind fun _ => concludes

/-- Runs whose loops come to the same come to the same. -/
theorem run_ends {m n : Nat} (same : (w.monitor (c.only w.heeded) m (w.calm s)).1 = (w.monitor c n s).1)
    (ends : Ends w (w.monitor c n s).1 (w.monitor (c.only w.heeded) m (w.calm s)).2 (w.monitor c n s).2) :
    (w.run (c.only w.heeded) m (w.calm s)).1 = (w.run c n s).1 ∧
      Ends w (w.run c n s).1 (w.run (c.only w.heeded) m (w.calm s)).2 (w.run c n s).2 := by
  rcases first : w.monitor c n s with ⟨r, t⟩
  rcases second : w.monitor (c.only w.heeded) m (w.calm s) with ⟨r', t'⟩
  rw [first, second] at same ends
  obtain rfl : r' = r := same
  have winds (result : Except MonitorError Outcome) (stopped : r' = Snapshot.stopping (result.map some)) :
      w.run (c.only w.heeded) m (w.calm s) = ((w.run c n s).1, w.calm (w.run c n s).2) := by
    have ended : r'.toOption ≠ some none := by
      rw [stopped]
      intro unfinished
      cases result <;> cases unfinished
    obtain rfl : t' = w.calm t := ends.level ended
    rw [stopped] at first second
    rw [run_eq first, run_eq second, finish_undisturbed c w result t]
  rcases r' with (e | f) | _ | outcome
  · rw [winds (.error e) rfl]
    exact ⟨rfl, .of_eq w _ _⟩
  · rw [run_of_fault first, run_of_fault second]
    exact ⟨rfl, ends.same, fun other => ends.level (by simp [Except.toOption])⟩
  · rw [run_of_unfinished first, run_of_unfinished second]
    exact ⟨rfl, ends.same, fun other => absurd rfl other⟩
  · rw [winds (.ok outcome) rfl]
    exact ⟨rfl, .of_eq w _ _⟩

/-! ## Two runs that differ in what they do not heed -/

/-- Two runs see the same, at the same times, but for control events that are not heeded. -/
structure Twins (w : Watch) (c c' : Collaborators σ) (s s' : Session σ) : Prop where
  collaborators : c'.only w.heeded = c.only w.heeded
  sessions : w.calm s' = w.calm s
  order : s.InOrder
  order' : s'.InOrder

/-- Two sessions tell the same, but for control events that are not heeded. -/
structure Alike (w : Watch) (t t' : Session σ) : Prop where
  /-- The same happened at the same times: snapshots began and ended, the freezer was asked and looked at. -/
  timeline : t'.timeline.filter (fun p => p.2.told w.heeded) = t.timeline.filter fun p => p.2.told w.heeded
  history : t'.history = t.history
  /-- The summary and all other files are the same. -/
  files : t'.files = t.files
  state : t'.state = t.state

/-- Two sessions that have come to the same without what is not heeded. -/
theorem Alike.of_same {t t' u : Session σ} (same : u = { w.calm t with now := u.now })
    (same' : u = { w.calm t' with now := u.now }) : Alike w t t' := by
  have both : ({ w.calm t' with now := u.now } : Session σ) = { w.calm t with now := u.now } := same'.symm.trans same
  have trace := congrArg Session.trace both
  have history := congrArg Session.history both
  have files := congrArg Session.files both
  have state := congrArg Session.state both
  refine ⟨?_, history, files, state⟩
  rw [Session.timeline, Session.timeline, List.filter_reverse, List.filter_reverse]
  exact congrArg List.reverse trace

theorem Twins.run {c' : Collaborators σ} {s' : Session σ} (twins : Twins w c c' s s') (n : Nat) :
    ∃ m, (w.run c' m s').1 = (w.run c n s).1 ∧ Alike w (w.run c n s).2 (w.run c' m s').2 := by
  obtain ⟨k, same, ends⟩ := monitor_calm n twins.order
  obtain ⟨ran, ends⟩ := run_ends same ends
  obtain ⟨m, same', ends'⟩ := monitor_disturbed k twins.order'
  obtain ⟨ran', ends'⟩ := run_ends same'.symm ends'
  rw [twins.collaborators, twins.sessions] at ran' ends'
  exact ⟨m, ran'.symm.trans ran, .of_same ends.same ends'.same⟩

/-- **Status dumps disturb nothing, and only the pause makes snapshots due where there is one.** Whatever control
events come that are not heeded, for each run with some of them there is one with others that comes to the same.
And where a pause makes snapshots due, no snapshot begins earlier than a pause after the loop began, or than a
pause after an earlier one was completed. -/
theorem run_heeds (w : Watch) :
    (∀ (c c' : Collaborators σ) s s', Twins w c c' s s' → ∀ n, ∃ m,
      (w.run c' m s').1 = (w.run c n s).1 ∧ Alike w (w.run c n s).2 (w.run c' m s').2) ∧
    ∀ period, w.plan.mode = .interval period → ∀ (c : Collaborators σ) s n before began after,
      (w.monitor c n s).2.timeline = s.timeline ++ (before ++ (began, .snapshotBegan) :: after) →
      s.now.later period ≤ began ∧ ∀ t result, (t, .snapshotEnded result) ∈ before → t.later period ≤ began :=
  ⟨fun _ _ _ _ twins => twins.run, fun _ mode c s n _ _ _ => monitor_paced mode c s n⟩

namespace Small

/-- A machine on which every sleeper wakes a millisecond late. -/
def tardy : Collaborators (Nat × FreezeState) :=
  { machine with oversleep := fun _ _ => .ofMillis 1 }

/-- On that machine, samples are asked for while pages are counted. -/
def pestering : Collaborators (Nat × FreezeState) :=
  { tardy with
    classify := fun pid iteration artifact heap scene =>
      { tardy.classify pid iteration artifact heap scene with happenings := [.control .sampleNow] } }

/-- A status dump waits, and others come when a snapshot is due but the run still sleeps. -/
def pestered : Session (Nat × FreezeState) :=
  { after with
    inbox := [.dumpStatus]
    agenda :=
      (after.now.later ⟨5500000⟩, .control .dumpStatus) :: (after.now.later ⟨15500000⟩, .control .dumpStatus) ::
        after.agenda }

theorem pestered_twins : Twins watch tardy pestering after pestered where
  collaborators := rfl
  sessions := rfl
  order := by decide +kernel
  order' := by decide +kernel

theorem tardy_reports : (watch.run tardy 10 after).1 = .ok (some report) :=
  Act.ok_of_toOption (by decide +kernel)

end Small

/-- The small run comes to the same with all that, and no pause is cut short: not before its second snapshot, which is
due at 1015 milliseconds and begins at 1016. -/
theorem run_heeds_pestered :
    (∃ m, (Small.watch.run Small.pestering m Small.pestered).1 = .ok (some Small.report)) ∧
      (⟨1010000000⟩ : Instant).later (.ofMillis 5) ≤ ⟨1016000000⟩ := by
  obtain ⟨m, same, -⟩ := (run_heeds Small.watch).1 _ _ _ _ Small.pestered_twins 10
  let told := (Small.watch.monitor Small.pestering 20 Small.pestered).2.timeline
  have began : told = Small.pestered.timeline ++
      ((told.take 13).drop 1 ++ (⟨1016000000⟩, .snapshotBegan) :: told.drop 14) := by decide +kernel
  have ended : (⟨1010000000⟩, .snapshotEnded (some (some ⟨1, 3, "iteration0001"⟩))) ∈ (told.take 13).drop 1 := by
    decide +kernel
  exact ⟨⟨m, same.trans Small.tardy_reports⟩, ((run_heeds Small.watch).2 _ rfl _ _ _ _ _ _ began).2 _ _ ended⟩

end Watch

end HeapSampler

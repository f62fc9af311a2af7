import Mathlib.Algebra.Order.Floor.Div
import HeapSampler.Proofs.Transition.Attempt

/-!
# The schedule of a transition

On a clock that only pauses move, a transition keeps to a schedule: it looks at the freezer after
every pause and asks again whenever `looksPerRequest` looks were in vain. `afterLooks` is the session
after so many looks in vain, for any freezer, and with it the answers that the freezer gives in turn
are determined. `run_on_schedule` says how the transition ends for each sequence of answers.
-/

namespace HeapSampler

theorem Instant.mk_lt_mk {a b : Nat} : (⟨a⟩ : Instant) < ⟨b⟩ ↔ a < b := Iff.rfl

/-- Neither asking the freezer nor looking at it takes time, and a pause is as long as asked for. -/
structure Collaborators.OnlyPausesTakeTime {σ : Type} (c : Collaborators σ) : Prop where
  request : ∀ target scene, (c.request target scene).elapsed = .zero
  observe : ∀ scene, (c.observe scene).elapsed = .zero
  oversleep : ∀ state due, c.oversleep state due = .zero

namespace TransitionPolicy

variable {p : TransitionPolicy}

theorem looksPerRequest_pos (p : TransitionPolicy) : 0 < p.looksPerRequest :=
  Nat.lt_of_lt_of_le Nat.one_pos (Nat.le_max_left _ _)

theorem looksPerRequest_eq (pause : 0 < p.pause.nanos) :
    p.looksPerRequest = max 1 (p.timeout.nanos ⌈/⌉ p.pause.nanos) := by
  have same : max p.pause.nanos 1 = p.pause.nanos := Nat.max_eq_left pause
  rw [looksPerRequest, same, Nat.ceilDiv_eq_add_pred_div, Nat.add_sub_assoc pause]

/-- So many pauses last at least as long as the timeout, -/
theorem timeout_le (pause : 0 < p.pause.nanos) : p.timeout.nanos ≤ p.looksPerRequest * p.pause.nanos := by
  rw [looksPerRequest_eq pause, Nat.mul_comm, ← ceilDiv_le_iff_le_mul pause]
  exact Nat.le_max_right _ _

/-- and fewer, if there are any, end before it. -/
theorem lt_timeout {m : Nat} (pause : 0 < p.pause.nanos) (some : 0 < m) (fewer : m < p.looksPerRequest) :
    m * p.pause.nanos < p.timeout.nanos := by
  rw [looksPerRequest_eq pause] at fewer
  have below : m < p.timeout.nanos ⌈/⌉ p.pause.nanos := by omega
  rwa [← not_le, ceilDiv_le_iff_le_mul pause, not_le, Nat.mul_comm] at below

/-- The looks that follow a look go with the next request exactly if the deadline of the last one has
passed. -/
theorem before_deadline_iff (pause : 0 < p.pause.nanos) (k : Nat) :
    (k + 1) * p.pause.nanos < k / p.looksPerRequest * p.looksPerRequest * p.pause.nanos + p.timeout.nanos ↔
      ¬ p.looksPerRequest ∣ k + 1 := by
  have place := Nat.div_add_mod' k p.looksPerRequest
  have inside := Nat.mod_lt k (looksPerRequest_pos p)
  generalize k / p.looksPerRequest = q at *
  generalize k % p.looksPerRequest = m at *
  have split : (k + 1) * p.pause.nanos = q * p.looksPerRequest * p.pause.nanos + (m + 1) * p.pause.nanos := by
    rw [← place, Nat.add_assoc, Nat.add_mul]
  have divides : p.looksPerRequest ∣ k + 1 ↔ m + 1 = p.looksPerRequest := by
    rw [← place, Nat.add_assoc, Nat.dvd_add_right (Nat.dvd_mul_left _ _)]
    exact ⟨fun h => Nat.le_antisymm inside (Nat.le_of_dvd (Nat.succ_pos m) h), fun h => h ▸ dvd_rfl⟩
  rw [split, divides, Nat.add_lt_add_iff_left]
  constructor
  · rintro early last
    rw [last] at early
    exact absurd (timeout_le pause) (not_le.2 early)
  · intro early
    exact lt_timeout pause (Nat.succ_pos m) (by omega)

end TransitionPolicy

namespace Transition

section Course

variable {σ : Type} (c : Collaborators σ) (target : FreezeState) (p : TransitionPolicy) (s : Session σ)

/-- The request before a look, counted from zero, where the looks of the last request are used up. -/
def renew (k : Nat) (t : Session σ) : Except Stop Unit × Session σ :=
  if p.looksPerRequest ∣ k then Act.request c target t else (.ok (), t)

/-- The session after so many looks at the freezer, if none of them ends the transition. -/
def afterLooks : Nat → Session σ
  | 0 => s
  | k + 1 => (look c p (renew c target p k (afterLooks k)).2).2

/-- The session right before a pause and a look, the request that may be due having been made. -/
def renewed (k : Nat) : Session σ :=
  (renew c target p k (afterLooks c target p s k)).2

/-- What the freezer says to the request before a look, if one is due. -/
def granted (k : Nat) : Except Stop Unit :=
  (renew c target p k (afterLooks c target p s k)).1

/-- What a look at the freezer shows. -/
def answer (k : Nat) : Except Stop (Option FreezeState) :=
  (look c p (renewed c target p s k)).1

/-- The first `k` looks do not end the transition: the requests before them are granted, and the
looks show something, but not the target. -/
def Unsettled (k : Nat) : Prop :=
  ∀ i < k, granted c target p s i = .ok () ∧ ∃ a, answer c target p s i = .ok a ∧ a ≠ some target

/-- The clock can hold the deadlines of all requests before the first `k` looks. -/
def DeadlinesHeld (k : Nat) : Prop :=
  ∀ i < k, p.looksPerRequest ∣ i → s.now.nanos + i * p.pause.nanos + p.timeout.nanos < Instant.limit

end Course

/-- The requests on a timeline, with their moments. -/
def requestsOn (es : List (Instant × Event)) : List (Instant × FreezeState) :=
  es.filterMap fun e => e.2.request?.map fun target => (e.1, target)

/-- The moments of the looks on a timeline. -/
def looksOn (es : List (Instant × Event)) : List Instant :=
  es.filterMap fun e => e.2.look?.map fun _ => e.1

/-- From one session to another nothing was done but so many requests for the target and so many
looks at the freezer, a look after each pause and a request after each `looksPerRequest` looks. -/
structure OnSchedule {σ : Type} (target : FreezeState) (p : TransitionPolicy) (s t : Session σ)
    (requests looks : Nat) : Prop where
  now : t.now = ⟨s.now.nanos + looks * p.pause.nanos⟩
  timeline : ∃ es, t.timeline = s.timeline ++ es ∧ (∀ e ∈ es, Serves target e.2) ∧
    requestsOn es = (List.range requests).map (fun i =>
      (⟨s.now.nanos + i * (p.looksPerRequest * p.pause.nanos)⟩, target)) ∧
    looksOn es = (List.range looks).map fun i => ⟨s.now.nanos + (i + 1) * p.pause.nanos⟩

variable {σ : Type} {c : Collaborators σ} {target : FreezeState} {p : TransitionPolicy} {s t : Session σ}
  {requests looks k : Nat}

theorem OnSchedule.start : OnSchedule target p s s 0 0 :=
  ⟨by simp, [], by simp, by simp, rfl, rfl⟩

theorem OnSchedule.request (clock : c.OnlyPausesTakeTime) (so : OnSchedule target p s t requests looks)
    (due : looks = requests * p.looksPerRequest) :
    OnSchedule target p s (Act.request c target t).2 (requests + 1) looks where
  now := by
    rw [Act.request, Act.call_now, clock.request, so.now]
    rfl
  timeline := by
    obtain ⟨es, notes, serves, asked, looked⟩ := so.timeline
    refine ⟨es ++ [_], by rw [Act.request, Act.call_timeline, notes, List.append_assoc], ?_, ?_, ?_⟩
    · intro e found
      rcases List.mem_append.1 found with found | found
      · exact serves e found
      · rw [List.mem_singleton.1 found]
        exact .inl ⟨_, rfl⟩
    · rw [requestsOn, List.filterMap_append, ← requestsOn, asked, List.range_succ, List.map_append]
      simp [Event.request?, so.now, due, Nat.mul_assoc]
    · rw [looksOn, List.filterMap_append, ← looksOn, looked]
      simp [Event.look?]

theorem look_timeline (c : Collaborators σ) (p : TransitionPolicy) (t : Session σ) :
    (look c p t).2.timeline =
      t.timeline ++ [((Act.sleep c p.pause t).2.now, .observed (look c p t).1.toOption)] := by
  rw [← Session.timeline_congr (s := t) (Session.advanceTo_trace t _)]
  exact Act.call_timeline c.observe .observed _

/-- A pause and a look take as long as the pause. -/
theorem sleep_now (clock : c.OnlyPausesTakeTime) (t : Session σ) :
    (Act.sleep c p.pause t).2.now = ⟨t.now.nanos + p.pause.nanos⟩ := by
  change (t.advanceTo ((t.now.later p.pause).later (c.oversleep t.state (t.now.later p.pause)))).now = _
  rw [clock.oversleep]
  exact Session.advanceTo_later_now t p.pause

theorem OnSchedule.look (clock : c.OnlyPausesTakeTime) (so : OnSchedule target p s t requests looks) :
    OnSchedule target p s (look c p t).2 requests (looks + 1) where
  now := by
    rw [Transition.look, Act.observe, Act.call_now, clock.observe, sleep_now clock, so.now, Nat.succ_mul,
      ← Nat.add_assoc]
    rfl
  timeline := by
    obtain ⟨es, notes, serves, asked, looked⟩ := so.timeline
    refine ⟨es ++ [_], by rw [look_timeline, notes, List.append_assoc], ?_, ?_, ?_⟩
    · intro e found
      rcases List.mem_append.1 found with found | found
      · exact serves e found
      · rw [List.mem_singleton.1 found]
        exact .inr ⟨_, rfl⟩
    · rw [requestsOn, List.filterMap_append, ← requestsOn, asked]
      simp [Event.request?]
    · rw [looksOn, List.filterMap_append, ← looksOn, looked, List.range_succ, List.map_append]
      simp [Event.look?, sleep_now clock, so.now, Nat.succ_mul, Nat.add_assoc]

/-! ## The course of the looks -/

theorem renewed_of_dvd (due : p.looksPerRequest ∣ k) :
    renewed c target p s k = (Act.request c target (afterLooks c target p s k)).2 := by
  rw [renewed, renew, if_pos due]

theorem renewed_of_not_dvd (early : ¬ p.looksPerRequest ∣ k) :
    renewed c target p s k = afterLooks c target p s k := by
  rw [renewed, renew, if_neg early]

theorem granted_of_dvd (due : p.looksPerRequest ∣ k) :
    granted c target p s k = (Act.request c target (afterLooks c target p s k)).1 := by
  rw [granted, renew, if_pos due]

theorem look_renewed :
    look c p (renewed c target p s k) = (answer c target p s k, afterLooks c target p s (k + 1)) := rfl

/-- Before every look there were a request and so many more as requests have become due. -/
theorem renewed_onSchedule (clock : c.OnlyPausesTakeTime) (k : Nat) :
    OnSchedule target p s (renewed c target p s k) (k / p.looksPerRequest + 1) k := by
  have positive := p.looksPerRequest_pos
  induction k with
  | zero =>
    rw [renewed_of_dvd (Nat.dvd_zero _), Nat.zero_div]
    exact OnSchedule.start.request clock (by simp)
  | succ k ih =>
    have looked : OnSchedule target p s (afterLooks c target p s (k + 1)) _ _ := ih.look clock
    by_cases due : p.looksPerRequest ∣ k + 1
    · rw [renewed_of_dvd due, Nat.succ_div_of_dvd due]
      refine looked.request clock ?_
      rw [← Nat.succ_div_of_dvd due, Nat.div_mul_cancel due]
    · rw [renewed_of_not_dvd due, Nat.succ_div_of_not_dvd due]
      exact looked

theorem afterLooks_onSchedule (clock : c.OnlyPausesTakeTime) (k : Nat) :
    OnSchedule target p s (afterLooks c target p s (k + 1)) (k / p.looksPerRequest + 1) (k + 1) :=
  (renewed_onSchedule clock k).look clock

/-- Looks take time, requests do not. -/
theorem afterLooks_now (clock : c.OnlyPausesTakeTime) (k : Nat) :
    (afterLooks c target p s k).now = ⟨s.now.nanos + k * p.pause.nanos⟩ := by
  cases k with
  | zero => simp [afterLooks]
  | succ k => exact (afterLooks_onSchedule clock k).now

/-! ## The transition follows the course -/

/-- The deadline of the last request before a look. -/
def deadline (p : TransitionPolicy) (s : Session σ) (k : Nat) : Instant :=
  ⟨s.now.nanos + k / p.looksPerRequest * p.looksPerRequest * p.pause.nanos + p.timeout.nanos⟩

/-- What is left of a transition before a look, the request that may be due having been made. -/
def wait (c : Collaborators σ) (target : FreezeState) (p : TransitionPolicy) (s : Session σ) (k : Nat) :
    Act σ Unit :=
  await c target p (p.maxLooks - k) (p.retries.toNat - k / p.looksPerRequest) (deadline p s k)

/-- What is left of a transition before a look, or before the request that is due there. -/
def rest (c : Collaborators σ) (target : FreezeState) (p : TransitionPolicy) (s : Session σ) (k : Nat) :
    Act σ Unit :=
  if p.looksPerRequest ∣ k then ask c target p (p.maxLooks - k) (p.retries.toNat - k / p.looksPerRequest)
  else wait c target p s k

/-- A request that is refused is the end. -/
theorem rest_refused {stop : Stop} (refused : granted c target p s k = .error stop) :
    rest c target p s k (afterLooks c target p s k) = (.error stop, renewed c target p s k) := by
  by_cases due : p.looksPerRequest ∣ k
  · rw [rest, if_pos due, ask]
    refine Act.bind_error (Prod.ext ?_ ?_)
    · exact (granted_of_dvd due).symm.trans refused
    · exact (renewed_of_dvd due).symm
  · rw [granted, renew, if_neg due] at refused
    cases refused

/-- A request whose deadline the clock cannot hold is the end, too. -/
theorem rest_overflow (clock : c.OnlyPausesTakeTime) (due : p.looksPerRequest ∣ k)
    (asked : granted c target p s k = .ok ())
    (late : ¬ s.now.nanos + k * p.pause.nanos + p.timeout.nanos < Instant.limit) :
    rest c target p s k (afterLooks c target p s k) = (.error (.fault .instantOverflow), renewed c target p s k) := by
  have request : Act.request c target (afterLooks c target p s k) = (.ok (), renewed c target p s k) :=
    Prod.ext ((granted_of_dvd due).symm.trans asked) (renewed_of_dvd due).symm
  rw [rest, if_pos due, ask, Act.bind_ok request, Act.bind_error]
  rw [Act.deadlineIn_apply, (renewed_onSchedule clock k).now, if_neg late]

/-- A request that is granted, or none, leads to the next look. -/
theorem rest_granted (clock : c.OnlyPausesTakeTime) (asked : granted c target p s k = .ok ())
    (held : DeadlinesHeld p s (k + 1)) :
    rest c target p s k (afterLooks c target p s k) = wait c target p s k (renewed c target p s k) := by
  by_cases due : p.looksPerRequest ∣ k
  · have request : Act.request c target (afterLooks c target p s k) = (.ok (), renewed c target p s k) :=
      Prod.ext ((granted_of_dvd due).symm.trans asked) (renewed_of_dvd due).symm
    have soon : s.now.nanos + k * p.pause.nanos + p.timeout.nanos < Instant.limit := held k (Nat.lt_succ_self k) due
    have set : Act.deadlineIn p.timeout (renewed c target p s k) =
        (.ok ⟨s.now.nanos + k * p.pause.nanos + p.timeout.nanos⟩, renewed c target p s k) := by
      rw [Act.deadlineIn_apply, (renewed_onSchedule clock k).now, if_pos soon]
      rfl
    rw [rest, if_pos due, ask, Act.bind_ok request, Act.bind_ok set, wait, deadline, Nat.div_mul_cancel due]
  · rw [rest, if_neg due, renewed_of_not_dvd due]

/-- The deadline has passed after a look exactly if the next request is due. -/
theorem look_before_deadline (clock : c.OnlyPausesTakeTime) (pause : 0 < p.pause.nanos) :
    (afterLooks c target p s (k + 1)).now < deadline p s k ↔ ¬ p.looksPerRequest ∣ k + 1 := by
  rw [afterLooks_now clock, deadline, Instant.mk_lt_mk, Nat.add_assoc s.now.nanos, Nat.add_lt_add_iff_left,
    TransitionPolicy.before_deadline_iff pause]

/-- A look in vain leads to what is left before the next look, while looks are left. -/
theorem wait_unsettled (clock : c.OnlyPausesTakeTime) (pause : 0 < p.pause.nanos) {a : Option FreezeState}
    (seen : answer c target p s k = .ok a) (other : a ≠ some target) (more : k + 1 < p.maxLooks) :
    wait c target p s k (renewed c target p s k) = rest c target p s (k + 1) (afterLooks c target p s (k + 1)) := by
  have left : p.maxLooks - k = p.maxLooks - (k + 1) + 1 := by omega
  rw [wait, left, await_succ, look_renewed, seen]
  simp only
  rw [if_neg other, rest]
  by_cases due : p.looksPerRequest ∣ k + 1
  · have retries : p.retries.toNat - k / p.looksPerRequest =
        p.retries.toNat - (k + 1) / p.looksPerRequest + 1 := by
      have quotient := Nat.succ_div_of_dvd due
      have bound : (k + 1) / p.looksPerRequest < p.retries.toNat + 1 := Nat.div_lt_of_lt_mul (by
        rwa [Nat.mul_comm])
      omega
    rw [if_neg fun before => (look_before_deadline clock pause).1 before due, if_pos due, retries]
  · rw [if_pos ((look_before_deadline clock pause).2 due), if_neg due, wait, deadline, deadline,
      Nat.succ_div_of_not_dvd due]

/-- As long as no look ends it, a transition follows the course of its looks. -/
theorem run_eq_rest (clock : c.OnlyPausesTakeTime) (pause : 0 < p.pause.nanos) (left : k < p.maxLooks)
    (held : DeadlinesHeld p s k) (unsettled : Unsettled c target p s k) :
    run c target p s = rest c target p s k (afterLooks c target p s k) := by
  induction k with
  | zero =>
    rw [run_eq_ask, rest, if_pos (Nat.dvd_zero _), Nat.zero_div]
    rfl
  | succ k ih =>
    obtain ⟨asked, a, seen, other⟩ := unsettled k (Nat.lt_succ_self k)
    rw [ih (by omega) (fun i before => held i (by omega)) (fun i before => unsettled i (by omega)),
      rest_granted clock asked held, wait_unsettled clock pause seen other left]

/-- The transition comes to a result after so many requests and looks, all of them on schedule. -/
def Ends (c : Collaborators σ) (target : FreezeState) (p : TransitionPolicy) (s : Session σ) (r : Except Stop Unit)
    (requests looks : Nat) : Prop :=
  (run c target p s).1 = r ∧ OnSchedule target p s (run c target p s).2 requests looks

section Endings

variable (clock : c.OnlyPausesTakeTime) (pause : 0 < p.pause.nanos) (unsettled : Unsettled c target p s k)
include clock pause unsettled

theorem ends_refused {stop : Stop} (left : k < p.maxLooks) (held : DeadlinesHeld p s k)
    (refused : granted c target p s k = .error stop) :
    Ends c target p s (.error stop) (k / p.looksPerRequest + 1) k := by
  rw [Ends, run_eq_rest clock pause left held unsettled, rest_refused refused]
  exact ⟨rfl, renewed_onSchedule clock k⟩

/-- A request whose deadline the clock cannot hold ends the transition with a fault. -/
theorem ends_overflow (left : k < p.maxLooks) (held : DeadlinesHeld p s k) (late : ¬ DeadlinesHeld p s (k + 1))
    (asked : granted c target p s k = .ok ()) :
    Ends c target p s (.error (.fault .instantOverflow)) (k / p.looksPerRequest + 1) k := by
  -- of the deadlines up to this look only that of a request right before it can be missing
  simp only [DeadlinesHeld, not_forall] at late
  obtain ⟨i, before, due, late⟩ := late
  have last : i = k := by
    by_contra other
    exact late (held i (by omega) due)
  subst last
  rw [Ends, run_eq_rest clock pause left held unsettled, rest_overflow clock due asked late]
  exact ⟨rfl, renewed_onSchedule clock i⟩

theorem run_eq_wait (left : k < p.maxLooks) (held : DeadlinesHeld p s (k + 1))
    (asked : granted c target p s k = .ok ()) : run c target p s = wait c target p s k (renewed c target p s k) := by
  rw [run_eq_rest clock pause left (fun i before => held i (by omega)) unsettled, rest_granted clock asked held]

theorem ends_failed {stop : Stop} (left : k < p.maxLooks) (held : DeadlinesHeld p s (k + 1))
    (asked : granted c target p s k = .ok ()) (failed : answer c target p s k = .error stop) :
    Ends c target p s (.error stop) (k / p.looksPerRequest + 1) (k + 1) := by
  have more : p.maxLooks - k = p.maxLooks - (k + 1) + 1 := by omega
  rw [Ends, run_eq_wait clock pause unsettled left held asked, wait, more, await_succ, look_renewed, failed]
  exact ⟨rfl, afterLooks_onSchedule clock k⟩

theorem ends_settled (left : k < p.maxLooks) (held : DeadlinesHeld p s (k + 1))
    (asked : granted c target p s k = .ok ()) (seen : answer c target p s k = .ok (some target)) :
    Ends c target p s (.ok ()) (k / p.looksPerRequest + 1) (k + 1) := by
  have more : p.maxLooks - k = p.maxLooks - (k + 1) + 1 := by omega
  rw [Ends, run_eq_wait clock pause unsettled left held asked, wait, more, await_succ, look_renewed, seen]
  simp only
  rw [if_pos trivial]
  exact ⟨rfl, afterLooks_onSchedule clock k⟩

end Endings

/-- When all looks are used up without the target, so are the requests. -/
theorem ends_stuck (clock : c.OnlyPausesTakeTime) (pause : 0 < p.pause.nanos) (held : DeadlinesHeld p s p.maxLooks)
    (unsettled : Unsettled c target p s p.maxLooks) :
    Ends c target p s (.error (.error (.freezerStuck target))) (p.retries.toNat + 1) p.maxLooks := by
  have positive := p.looksPerRequest_pos
  obtain ⟨k, last⟩ : ∃ k, p.maxLooks = k + 1 :=
    Nat.exists_eq_succ_of_ne_zero (Nat.pos_iff_ne_zero.1 (Nat.mul_pos (Nat.succ_pos _) positive))
  have due : p.looksPerRequest ∣ k + 1 := last ▸ Nat.dvd_mul_left _ _
  have used : k / p.looksPerRequest = p.retries.toNat := by
    have quotient := Nat.succ_div_of_dvd due
    rw [← last, TransitionPolicy.maxLooks, Nat.mul_div_cancel _ positive] at quotient
    omega
  rw [last] at held unsettled
  obtain ⟨asked, a, seen, other⟩ := unsettled k (Nat.lt_succ_self k)
  have passed : ¬ (afterLooks c target p s (k + 1)).now < deadline p s k :=
    fun early => (look_before_deadline clock pause).1 early due
  have one : p.maxLooks - k = 0 + 1 := by omega
  have final : OnSchedule target p s (afterLooks c target p s (k + 1)) _ _ := afterLooks_onSchedule clock k
  rw [Ends, run_eq_wait clock pause (fun i before => unsettled i (by omega)) (by omega) held asked, wait, one,
    await_succ, look_renewed, seen]
  simp only
  rw [if_neg other, if_neg passed, used, Nat.sub_self, last]
  rw [used] at final
  exact ⟨rfl, final⟩

/-- **The schedule of a transition.** On a clock that only pauses move, for every policy with a pause
and every sequence of answers: the first look that shows the target ends the transition; if no look
does, it gives up after all looks and requests; and a request or look that fails ends it at once. So it
goes as long as the clock can hold the deadlines of the requests made so far: the first request whose
deadline it cannot hold ends the transition with a fault, and the looks after it are not reached. Looks
are counted from zero. -/
theorem run_on_schedule (c : Collaborators σ) (target : FreezeState) (p : TransitionPolicy) (s : Session σ)
    (clock : c.OnlyPausesTakeTime) (pause : 0 < p.pause.nanos) :
    let n := max 1 (p.timeout.nanos ⌈/⌉ p.pause.nanos)
    let looks := (p.retries.toNat + 1) * n
    p.looksPerRequest = n ∧
    (∀ k < looks, Unsettled c target p s k → granted c target p s k = .ok () →
      answer c target p s k = .ok (some target) → DeadlinesHeld p s (k + 1) →
      Ends c target p s (.ok ()) (1 + k / n) (k + 1)) ∧
    (Unsettled c target p s looks → DeadlinesHeld p s looks →
      Ends c target p s (.error (.error (.freezerStuck target))) (p.retries.toNat + 1) looks) ∧
    (∀ k < looks, ∀ stop, Unsettled c target p s k → granted c target p s k = .error stop →
      DeadlinesHeld p s k → Ends c target p s (.error stop) (1 + k / n) k) ∧
    (∀ k < looks, ∀ stop, Unsettled c target p s k → granted c target p s k = .ok () →
      answer c target p s k = .error stop → DeadlinesHeld p s (k + 1) →
      Ends c target p s (.error stop) (1 + k / n) (k + 1)) ∧
    (∀ k < looks, Unsettled c target p s k → granted c target p s k = .ok () →
      DeadlinesHeld p s k → ¬ DeadlinesHeld p s (k + 1) →
      Ends c target p s (.error (.fault .instantOverflow)) (1 + k / n) k) := by
  intro n looks
  have rounds : p.looksPerRequest = n := TransitionPolicy.looksPerRequest_eq pause
  have total : p.maxLooks = looks := by rw [TransitionPolicy.maxLooks, rounds]
  rw [← rounds, ← total]
  simp only [Nat.add_comm 1]
  refine ⟨trivial, ?_, ?_, ?_, ?_, ?_⟩
  · intro k left unsettled asked seen held
    exact ends_settled clock pause unsettled left held asked seen
  · intro unsettled held
    exact ends_stuck clock pause held unsettled
  · intro k left stop unsettled refused held
    exact ends_refused clock pause unsettled left held refused
  · intro k left stop unsettled asked failed held
    exact ends_failed clock pause unsettled left held asked failed
  · intro k left unsettled asked held late
    exact ends_overflow clock pause unsettled left held late asked

theorem obeyingFrom_clock (first : Nat) : (Collaborators.obeyingFrom first).OnlyPausesTakeTime :=
  ⟨fun _ _ => rfl, fun _ => rfl, fun _ _ => rfl⟩

/-- A pause of one millisecond, a timeout of two and one more request. -/
def brief : TransitionPolicy := ⟨.ofMillis 1, .ofMillis 2, 1⟩

/-- A machine that has run for a second and is thawed. -/
def thawedAt : Session (Nat × FreezeState) :=
  .start ⟨Duration.nanosPerSecond⟩ .empty (0, .thawed)

/-- A freezer that ignores the first request is frozen with the third look, the first after the
second request. -/
theorem run_on_schedule_ignored_once : Ends (.obeyingFrom 2) .frozen brief thawedAt (.ok ()) 2 3 := by
  obtain ⟨-, settles, -⟩ := run_on_schedule (.obeyingFrom 2) .frozen brief thawedAt (obeyingFrom_clock 2) (by decide)
  refine settles 2 (by decide) ?_ rfl rfl ?_
  · intro i before
    match i, before with
    | 0, _ | 1, _ => exact ⟨rfl, some .thawed, rfl, by decide⟩
  · intro i before _
    match i, before with
    | 0, _ | 1, _ | 2, _ => decide

/-- A timeout that settings can ask for and that ends beyond what the clock can hold. -/
def endless : TransitionPolicy := ⟨.ofMillis 10, .ofSeconds 0x7fffffffffffffff, 1⟩

/-- The schedule does not hold for deadlines beyond what the clock can hold: the first look could
show the target, but it is not reached. -/
theorem schedule_unmet_past_clock :
    ¬ ∀ (σ : Type) (c : Collaborators σ) (target : FreezeState) (p : TransitionPolicy) (s : Session σ),
      c.OnlyPausesTakeTime → 0 < p.pause.nanos →
        ∀ k < (p.retries.toNat + 1) * max 1 (p.timeout.nanos ⌈/⌉ p.pause.nanos),
          Unsettled c target p s k → granted c target p s k = .ok () → answer c target p s k = .ok (some target) →
            (run c target p s).1 = .ok () := by
  intro claim
  have looks : 0 < (endless.retries.toNat + 1) * max 1 (endless.timeout.nanos ⌈/⌉ endless.pause.nanos) :=
    Nat.mul_pos (Nat.succ_pos _) (Nat.lt_of_lt_of_le Nat.one_pos (Nat.le_max_left _ _))
  have settled := claim _ (.obeyingFrom 1) .frozen endless thawedAt (obeyingFrom_clock 1) (by decide) 0 looks
    (by simp [Unsettled]) rfl rfl
  have fault : (run (.obeyingFrom 1) .frozen endless thawedAt).1 = .error (.fault .instantOverflow) := rfl
  rw [fault] at settled
  cases settled

end Transition

end HeapSampler

import Mathlib.Data.List.Count
import HeapSampler.Proofs.Run.Going

/-!
# Requests for samples

In a run on request a request makes a snapshot due, and a snapshot that is due is taken in the next turn.
So the snapshots of a loop are covered by the requests that it took up (`loop_covered`), a request that was
taken up is met by the end of the next turn (`loop_meets`), and requests that were taken up together come to
one snapshot together (`loop_once`).
-/

namespace HeapSampler

namespace Event

/-- How many snapshots began. -/
def begun (es : List Event) : Nat :=
  es.count .snapshotBegan

/-- How many requests for samples were taken up. -/
def asked (es : List Event) : Nat :=
  es.count (.took .sampleNow)

/-- At every point there were at most as many snapshots as requests for samples, and so many more. -/
def Covered (more : Nat) (es : List Event) : Prop :=
  ∀ before, before <+: es → begun before ≤ asked before + more

variable {es fs rest : List Event} {m n : Nat}

@[simp] theorem begun_append : begun (es ++ fs) = begun es + begun fs :=
  List.count_append

@[simp] theorem asked_append : asked (es ++ fs) = asked es + asked fs :=
  List.count_append

@[simp] theorem begun_nil : begun [] = 0 := rfl

@[simp] theorem begun_cons_snapshot : begun (.snapshotBegan :: es) = begun es + 1 :=
  List.count_cons_self

@[simp] theorem asked_cons_snapshot : asked (.snapshotBegan :: es) = asked es :=
  List.count_cons_of_ne (by rintro ⟨⟩)

theorem begun_inner (inner : ∀ e ∈ rest, e.isInner) : begun rest = 0 :=
  List.count_eq_zero.2 (not_mem_inner inner rfl)

@[simp] theorem begun_took (events : List ControlEvent) : begun (events.map .took) = 0 := by
  refine List.count_eq_zero.2 fun found => ?_
  simp at found

theorem asked_inner (inner : ∀ e ∈ rest, e.isInner) : asked rest = 0 :=
  List.count_eq_zero.2 (not_mem_inner inner rfl)

theorem begun_notices (notices : Session.Notices rest) : begun rest = 0 :=
  List.count_eq_zero.2 (notices.not_mem (by simp))

theorem asked_notices (notices : Session.Notices rest) : asked rest = 0 :=
  List.count_eq_zero.2 (notices.not_mem (by simp))

@[simp] theorem asked_took (events : List ControlEvent) :
    asked (events.map .took) = events.count .sampleNow := by
  have injective : Function.Injective Event.took := by
    rintro a b ⟨⟩
    rfl
  exact List.count_map_of_injective events Event.took injective .sampleNow

theorem begun_took_one (e : ControlEvent) : begun [.took e] = 0 :=
  begun_took [e]

theorem asked_took_one (e : ControlEvent) : asked [.took e] = [e].count .sampleNow :=
  asked_took [e]

theorem Covered.of_few (few : begun es ≤ m) : Covered m es := by
  intro before first
  have fewer : begun before ≤ begun es := first.sublist.count_le _
  omega

/-- What comes later may use what was asked before. -/
theorem Covered.append (first : Covered m es) (left : begun es + n ≤ asked es + m) (second : Covered n fs) :
    Covered m (es ++ fs) := by
  rintro before ⟨after, split⟩
  obtain ⟨between, within, -⟩ | ⟨between, rfl, part⟩ := List.append_eq_append_iff.1 split
  · exact first before ⟨between, within.symm⟩
  · have more := second between ⟨after, part.symm⟩
    rw [begun_append, asked_append]
    omega

/-- A request that stands among control events taken up together is one of them, and what follows it are
others. -/
theorem took_split {events : List ControlEvent} {before after : List Event} {e : ControlEvent}
    (inner : ∀ e ∈ rest, e.isInner) (split : rest ++ events.map .took = before ++ .took e :: after) :
    e ∈ events ∧ ∀ f ∈ after, f.isTaking := by
  have last {before : List Event} (split : events.map .took = before ++ .took e :: after) :
      e ∈ events ∧ ∀ f ∈ after, f.isTaking := by
    constructor
    · have found : Event.took e ∈ events.map .took := by simp [split]
      simpa using found
    · intro f found
      have taken : f ∈ events.map .took := by simp [split, found]
      obtain ⟨d, -, rfl⟩ := List.mem_map.1 taken
      rfl
  obtain ⟨between, rfl, -⟩ | ⟨between, -, remaining⟩ := split_cases split
  · cases inner (.took e) (by simp)
  · exact last remaining

end Event

namespace Watch

open Event (begun asked Covered)

variable {σ : Type} {c : Collaborators σ} {w : Watch} {l l' : LoopState} {s s' t : Session σ}
  {es fs past : List Event} {k n : Nat}

/-- A run on request has a snapshot due exactly if it is asked for a sample. -/
theorem any_demandsSample (onRequest : w.plan.mode = .onRequest) (events : List ControlEvent) :
    events.any w.demandsSample = true ↔ .sampleNow ∈ events := by
  simp [demandsSample, onRequest]

/-- Time makes no snapshot due in a run on request. -/
theorem undue (onRequest : w.plan.mode = .onRequest) (due : l.samplePending = true → w.plan.mode ≠ .onRequest) :
    l.samplePending = false := by
  cases next : l.samplePending with
  | false => rfl
  | true => exact absurd onRequest (due next)

/-! ## Never more snapshots than requests -/

theorem Leads.covered (onRequest : w.plan.mode = .onRequest) (leads : Leads w l s l' s' es) :
    Covered l.samplePending.toNat es ∧ begun es + l'.samplePending.toNat ≤ asked es + l.samplePending.toNat := by
  have pending (events : List ControlEvent) (due : l'.samplePending = events.any w.demandsSample) :
      l'.samplePending.toNat ≤ events.count .sampleNow := by
    rw [due]
    cases demanded : events.any w.demandsSample with
    | false => exact Nat.zero_le _
    | true => exact List.count_pos_iff.2 ((any_demandsSample onRequest events).1 demanded)
  cases leads with
  | @sampled rest events unasked alive due inner next =>
    have left := pending events next
    have quiet := Event.begun_inner inner
    refine ⟨.of_few (by simp [due, quiet]), ?_⟩
    simp only [Event.begun_cons_snapshot, Event.begun_append, quiet, Event.begun_took, Event.asked_cons_snapshot,
      Event.asked_append, Event.asked_took, due, Bool.toNat_true]
    omega
  | @missed notice events due gone found notices next =>
    have left := pending events next
    have quiet := Event.begun_notices notices
    refine ⟨.of_few (by simp [quiet]), ?_⟩
    simp only [Event.begun_append, quiet, Event.begun_took, Event.asked_append, Event.asked_took]
    omega
  | @tookUp e idle waiting next =>
    refine ⟨.of_few (Nat.zero_le _), ?_⟩
    have left := pending [e] (by simp [next])
    rw [Event.begun_took_one, Event.asked_took_one]
    omega
  | waited idle empty due => exact ⟨.of_few (Nat.zero_le _), by simp [undue onRequest due]⟩

theorem Closes.covered {q : Except Stop (Option Outcome)} (closes : Closes w l s s' q es) :
    Covered l.samplePending.toNat es := by
  refine .of_few ?_
  cases closes with
  | interrupted | overflowed => exact Nat.zero_le _
  | failed unasked alive due inner => simp [due, Event.begun_inner inner]
  | missed due found notices | exited idle found notices => simp [Event.begun_notices notices]

/-- A loop covers its snapshots with the requests that it takes up, and one that was due before. -/
theorem loop_covered (onRequest : w.plan.mode = .onRequest) (c : Collaborators σ) (n : Nat) (l : LoopState)
    (s : Session σ) : ∃ es, (loop c w n l s).2.events = s.events ++ es ∧ Covered l.samplePending.toNat es := by
  induction n generalizing l s with
  | zero => exact ⟨[], (List.append_nil _).symm, .of_few (Nat.zero_le _)⟩
  | succ n ih =>
    obtain ⟨r, t, q, turned, ends⟩ | ⟨l', t, turned⟩ := turn_cases c w l s
    · obtain ⟨es, noted, closes⟩ := (turn_passes turned).closes ends
      rw [loop_of_ending turned ends]
      exact ⟨es, noted, closes.covered⟩
    · obtain ⟨es, noted, leads⟩ := (turn_passes turned).leads rfl
      obtain ⟨fs, followed, rest⟩ := ih l' t
      obtain ⟨here, left⟩ := leads.covered onRequest
      rw [loop_of_turn turned]
      exact ⟨es ++ fs, by rw [followed, noted, List.append_assoc], here.append left rest⟩

/-! ## No request without a snapshot -/

/-- Every request among the events so far was followed by a snapshot, unless one is due and nothing else
has been done since, or the subject was found dead. -/
def Waiting (l : LoopState) (t : Session σ) (es : List Event) : Prop :=
  ∀ before after, es = before ++ .took .sampleNow :: after →
    .snapshotBegan ∈ after ∨ t.foundDead = true ∨ l.samplePending = true ∧ ∀ e ∈ after, e.isTaking

theorem Waiting.leads (onRequest : w.plan.mode = .onRequest) (waiting : Waiting l s past) (keeps : s.Keeps s')
    (leads : Leads w l s l' s' es) : Waiting l' s' (past ++ es) := by
  intro before after split
  obtain ⟨earlier, rfl, rfl⟩ | ⟨earlier, -, rfl⟩ := Event.split_cases split
  · -- the request was taken up before this turn: it is met now, if not before
    obtain began | dead | ⟨due, taking⟩ := waiting before earlier rfl
    · exact .inl (List.mem_append_left _ began)
    · exact .inr (.inl (keeps.found dead))
    cases leads with
    | sampled => exact .inl (by simp)
    | missed due gone found => exact .inr (.inl found)
    | tookUp idle | waited idle => simp [idle] at due
  · -- the request was taken up in this turn: it makes a snapshot due
    have pending (events : List ControlEvent) (next : l'.samplePending = events.any w.demandsSample)
        (found : .sampleNow ∈ events) : l'.samplePending = true :=
      next.trans ((any_demandsSample onRequest events).2 found)
    generalize same : earlier ++ .took .sampleNow :: after = es at leads
    cases leads with
    | sampled unasked alive due inner next =>
      cases earlier with
      | nil => cases same
      | cons e earlier =>
        obtain ⟨found, taking⟩ := Event.took_split inner (List.cons.inj same).2.symm
        exact .inr (.inr ⟨pending _ next found, taking⟩)
    | missed due gone found => exact .inr (.inl found)
    | @tookUp e idle waiting next =>
      have alone : [] ++ [e].map .took = earlier ++ .took .sampleNow :: after := same.symm
      obtain ⟨found, taking⟩ := Event.took_split (by simp) alone
      exact .inr (.inr ⟨pending [e] (by simp [next]) found, taking⟩)
    | waited => simp at same

theorem Going.waiting (onRequest : w.plan.mode = .onRequest) (going : Going c w k l s l' t)
    (waiting : Waiting l s past) : ∃ es, t.events = s.events ++ es ∧ Waiting l' t (past ++ es) := by
  induction going generalizing past with
  | start =>
    rw [← List.append_nil past] at waiting
    exact ⟨[], (List.append_nil _).symm, waiting⟩
  | next turned going ih =>
    have pass := turn_passes turned
    obtain ⟨es, noted, leads⟩ := pass.leads rfl
    obtain ⟨fs, followed, rest⟩ := ih (waiting.leads onRequest pass.keeps leads)
    refine ⟨es ++ fs, by rw [followed, noted, List.append_assoc], ?_⟩
    rwa [← List.append_assoc]

/-- What has become of a request by the end of a turn: a snapshot, unless the subject was found dead or
the run was stopped before anything else was done. -/
def Met (q : Except Stop (Option Outcome)) (t : Session σ) (after : List Event) : Prop :=
  .snapshotBegan ∈ after ∨ t.foundDead = true ∨ q = .ok (some .interrupted) ∧ ∀ e ∈ after, e.isTaking

theorem Waiting.met_of_leads {before after : List Event} {q : Except Stop (Option Outcome)}
    (waiting : Waiting l s (before ++ .took .sampleNow :: after)) (keeps : s.Keeps s')
    (leads : Leads w l s l' s' es) : Met q s' (after ++ es) := by
  obtain began | dead | ⟨due, taking⟩ := waiting before after rfl
  · exact .inl (List.mem_append_left _ began)
  · exact .inr (.inl (keeps.found dead))
  cases leads with
  | sampled => exact .inl (by simp)
  | missed due gone found => exact .inr (.inl found)
  | tookUp idle | waited idle => simp [idle] at due

theorem Waiting.met_of_closes {before after : List Event} {q : Except Stop (Option Outcome)}
    (waiting : Waiting l s past) (keeps : s.Keeps s') (closes : Closes w l s s' q es)
    (split : past ++ es = before ++ .took .sampleNow :: after) : Met q s' after := by
  obtain ⟨earlier, rfl, rfl⟩ | ⟨earlier, -, rfl⟩ := Event.split_cases split
  · obtain began | dead | ⟨due, taking⟩ := waiting before earlier rfl
    · exact .inl (List.mem_append_left _ began)
    · exact .inr (.inl (keeps.found dead))
    cases closes with
    | interrupted =>
      rw [List.append_nil]
      exact .inr (.inr ⟨rfl, taking⟩)
    | failed => exact .inl (by simp)
    | missed due found => exact .inr (.inl found)
    | exited idle | overflowed idle => simp [idle] at due
  · -- a turn that ends the run takes up no request
    generalize same : earlier ++ .took .sampleNow :: after = es at closes
    have asked : .took .sampleNow ∈ es := by simp [← same]
    cases closes with
    | interrupted | overflowed => cases asked
    | failed unasked alive due inner =>
      rcases List.mem_cons.1 asked with asked | asked
      · cases asked
      · exact absurd asked (Event.not_mem_inner inner rfl)
    | missed due found notices | exited idle found notices => exact absurd asked (notices.not_mem (by simp))

/-- A request that is taken up is met by the end of the next turn. -/
theorem loop_meets (onRequest : w.plan.mode = .onRequest) (c : Collaborators σ) (n : Nat)
    {before after : List Event}
    (took : (loop c w n l s).2.events = s.events ++ (before ++ .took .sampleNow :: after)) :
    ∃ more, (loop c w (n + 1) l s).2.events = s.events ++ (before ++ .took .sampleNow :: (after ++ more)) ∧
      Met (loop c w (n + 1) l s).1 (loop c w (n + 1) l s).2 (after ++ more) := by
  have start : Waiting l s [] := by
    intro before after split
    simp at split
  rcases ran : loop c w n l s with ⟨q, u⟩
  rw [ran] at took
  by_cases going : q = .ok none
  · -- the loop goes on, and what is still due comes in the next turn
    subst going
    obtain ⟨l', going⟩ := Going.of_loop ran
    obtain ⟨es, noted, waiting⟩ := going.waiting onRequest start
    obtain rfl : es = before ++ .took .sampleNow :: after := List.append_cancel_left (noted.symm.trans took)
    rw [going.loop_add 1]
    rcases turned : w.turn c l' u with ⟨r, v⟩
    have pass := turn_passes turned
    rw [loop_one turned]
    obtain ⟨q, ends⟩ | ⟨l'', rfl⟩ := ending_cases r
    · obtain ⟨more, noted', closes⟩ := pass.closes ends
      rw [ends]
      refine ⟨more, by simp [noted', noted], ?_⟩
      exact waiting.met_of_closes pass.keeps closes (List.append_assoc before _ more)
    · obtain ⟨more, noted', leads⟩ := pass.leads rfl
      exact ⟨more, by simp [noted', noted], waiting.met_of_leads pass.keeps leads⟩
  · -- the loop has ended in some turn, and all turns after it make no difference
    obtain ⟨k, l', t, r, early, reached, turned, ends⟩ := Going.of_ended ran going
    obtain ⟨m, rfl⟩ := Nat.exists_eq_add_of_lt early
    obtain ⟨es, noted, waiting⟩ := reached.waiting onRequest start
    have pass := turn_passes turned
    obtain ⟨last, noted', closes⟩ := pass.closes ends
    have split : es ++ last = before ++ .took .sampleNow :: after := by
      rw [noted', noted, List.append_assoc] at took
      exact List.append_cancel_left took
    rw [loop_stays ran going]
    refine ⟨[], by rw [took, List.append_nil], ?_⟩
    rw [List.append_nil]
    exact waiting.met_of_closes pass.keeps closes split

/-! ## Several requests at once -/

/-- What a snapshot that is due comes to: it begins, and every later one goes back to a later request,
unless the subject is found dead or the run was stopped before. -/
def Once (q : Except Stop (Option Outcome)) (t : Session σ) (es : List Event) : Prop :=
  (∃ later, es = .snapshotBegan :: later ∧ Covered 0 later) ∨ begun es = 0 ∧ t.foundDead = true ∨
    es = [] ∧ q = .ok (some .interrupted)

theorem loop_once (onRequest : w.plan.mode = .onRequest) (c : Collaborators σ) (n : Nat) (s : Session σ)
    (due : l.samplePending = true) : ∃ es, (loop c w (n + 1) l s).2.events = s.events ++ es ∧
      Once (loop c w (n + 1) l s).1 (loop c w (n + 1) l s).2 es := by
  obtain ⟨r, t, q, turned, ends⟩ | ⟨l', t, turned⟩ := turn_cases c w l s
  · obtain ⟨es, noted, closes⟩ := (turn_passes turned).closes ends
    rw [loop_of_ending turned ends]
    refine ⟨es, noted, ?_⟩
    cases closes with
    | interrupted => exact .inr (.inr ⟨rfl, rfl⟩)
    | failed unasked alive due inner => exact .inl ⟨_, rfl, .of_few (Nat.le_of_eq (Event.begun_inner inner))⟩
    | missed due found notices => exact .inr (.inl ⟨Event.begun_notices notices, found⟩)
    | exited idle | overflowed idle => simp [due] at idle
  · have pass := turn_passes turned
    obtain ⟨es, noted, leads⟩ := pass.leads rfl
    rw [loop_of_turn turned]
    have left := (leads.covered onRequest).2
    cases leads with
    | @sampled rest events unasked alive _ inner pending =>
      obtain ⟨fs, followed, covered⟩ := loop_covered onRequest c n l' t
      have none : begun (rest ++ events.map .took) = 0 := by
        rw [Event.begun_append, Event.begun_inner inner, Event.begun_took]
      have asks : begun (rest ++ events.map .took) + l'.samplePending.toNat ≤ asked (rest ++ events.map .took) + 0 := by
        rw [due, Event.begun_cons_snapshot, Event.asked_cons_snapshot, none] at left
        simp only [Bool.toNat_true] at left
        omega
      refine ⟨_, by rw [followed, noted, List.append_assoc, List.cons_append], .inl ⟨_, rfl, ?_⟩⟩
      exact (Covered.of_few (Nat.le_of_eq none)).append asks covered
    | @missed notice events _ gone found notices =>
      obtain ⟨fs, followed, none⟩ := loop_begins_none c w n l' (pass.keeps.ended gone)
      refine ⟨notice ++ events.map .took ++ fs, by rw [followed, noted, List.append_assoc], .inr (.inl ⟨?_, ?_⟩)⟩
      · have none' : begun fs = 0 := List.count_eq_zero.2 none
        simp [Event.begun_notices notices, none']
      · exact (loop_keeps c w n l' t).found found
    | tookUp idle | waited idle => simp [due] at idle

end Watch

end HeapSampler

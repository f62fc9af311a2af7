import HeapSampler.Proofs.Run.Requests
import HeapSampler.Proofs.Run.Start

/-!
# Runs on request

In a run on request every snapshot goes back to a request that was taken up, and every request that is
taken up leads to a snapshot. While no more requests come, the number of snapshots that are outstanding is
known from those that wait, and every turn brings it closer to none. `monitor_answers` puts this together
for every run on request, whatever comes in which order.
-/

namespace HeapSampler

namespace Watch

open Event (begun asked Covered)

variable {σ : Type} {c : Collaborators σ} {w : Watch} {l l' : LoopState} {s s' t : Session σ}
  {es : List Event} {k : Nat}

/-! ## Requests that wait before the run -/

/-- How many snapshots there will be if no more requests come. -/
def outstanding (l : LoopState) (s : Session σ) : Nat :=
  if l.samplePending then 1 + min s.requested 1 else min s.requested 2

/-- How many turns it takes at most until no snapshot is outstanding. -/
def patience (l : LoopState) (s : Session σ) : Nat :=
  if l.samplePending then outstanding l s else s.inbox.length + 2

/-- While no more requests come, each is taken up or still waiting. -/
theorem Pass.conserves {r : Except Stop (Outcome ⊕ LoopState)} (quiet : c.Bring Happening.isQuiet)
    (expects : s.Expects Happening.isQuiet) (pass : Pass c w l s r s') :
    s'.Expects Happening.isQuiet ∧ asked s'.events + s'.requested = asked s.events + s.requested := by
  have advanced (m : Instant) : (s.advanceTo m).Expects Happening.isQuiet ∧
      asked (s.advanceTo m).events + (s.advanceTo m).requested = asked s.events + s.requested := by
    have kept := Session.quiet_lasts.advanceTo s m expects
    rw [kept.2, Session.events_congr (Session.advanceTo_trace s m)]
    exact ⟨kept.1, rfl⟩
  have taken {q : Except Stop (Option Sample)} {u : Session σ}
      (took : Snapshot.take c w.snapshots w.pid s = (q, u)) :
      u.Expects Happening.isQuiet ∧ asked u.events + u.requested = asked s.events + s.requested := by
    have kept := Snapshot.take_quiet quiet w.snapshots w.pid expects
    obtain ⟨rest, noted, inner⟩ := take_notes took
    rw [took] at kept
    refine ⟨kept.1, ?_⟩
    rw [kept.2, noted, Event.asked_append, Event.asked_cons_snapshot, Event.asked_inner inner]
    rfl
  have lost {t u : Session σ} (loses : t.Loses u) (expects : t.Expects Happening.isQuiet) :
      u.Expects Happening.isQuiet ∧ asked u.events + u.requested = asked t.events + t.requested := by
    obtain ⟨notice, noted, notices⟩ := loses.notes
    refine ⟨fun p found => expects p (loses.agenda ▸ found), ?_⟩
    rw [noted, Event.asked_append, Event.asked_notices notices, Session.requested, loses.inbox]
    rfl
  have settled {q : Except Stop LoopState} {u v : Session σ} (settles : Settles w u q v)
      (before : u.Expects Happening.isQuiet ∧ asked u.events + u.requested = asked s.events + s.requested) :
      v.Expects Happening.isQuiet ∧ asked v.events + v.requested = asked s.events + s.requested := by
    cases settles with
    | overflow => exact before
    | on =>
      refine ⟨before.1, ?_⟩
      rw [Session.emptied_events, Event.asked_append, Event.asked_took]
      exact before.2
  cases pass with
  | interrupted => exact ⟨expects, rfl⟩
  | failed unasked due alive took => exact taken took
  | sampled unasked due alive took settles => exact settled settles (taken took)
  | missed unasked due loses settles => exact settled settles (lost loses expects)
  | @takesUp e rest unasked idle alive waiting =>
    refine ⟨expects, ?_⟩
    have all : s.requested = [e].count .sampleNow + rest.count .sampleNow := by
      rw [Session.requested, waiting, ← List.singleton_append, List.count_append]
    have noted := Session.events_note s (.took e)
    rw [all, ← Nat.add_assoc, ← Event.asked_took_one, ← Event.asked_append, ← noted]
    rfl
  | waits | overflows => exact advanced _
  | exits unasked idle waited loses =>
    rcases waited with rfl | ⟨-, -, m, rfl⟩
    · exact lost loses expects
    · have kept := lost loses (advanced m).1
      exact ⟨kept.1, kept.2.trans (advanced m).2⟩

/-- A turn that leads on begins the snapshots that are no longer outstanding after it, and brings the end
of the others closer. -/
theorem Leads.outstanding_eq (onRequest : w.plan.mode = .onRequest) (leads : Leads w l s l' s' es)
    (conserved : asked es + s'.requested = s.requested) :
    l.samplePending = true ∧ s'.foundDead = true ∨
      begun es + outstanding l' s' = outstanding l s ∧ (outstanding l' s' = 0 ∨ 1 + patience l' s' ≤ patience l s) := by
  cases leads with
  | @sampled rest events unasked alive due inner pending empty =>
    apply Or.inr
    have none : s'.requested = 0 := by rw [Session.requested, empty]; rfl
    have quiet : asked rest = 0 := Event.asked_inner inner
    rw [Event.asked_cons_snapshot, Event.asked_append, Event.asked_took, quiet, none] at conserved
    rw [Event.begun_cons_snapshot, Event.begun_append, Event.begun_inner inner, Event.begun_took]
    -- all that waited was taken up with the snapshot: one more is due exactly if a request was among it
    have wanted := any_demandsSample onRequest events
    rw [← pending, ← List.count_pos_iff] at wanted
    cases next : l'.samplePending with
    | true =>
      have some := wanted.1 next
      simp [outstanding, patience, due, next, none]
      omega
    | false =>
      have no : ¬ 0 < events.count .sampleNow := fun some => by simp [wanted.2 some] at next
      simp [outstanding, patience, due, next, none]
      omega
  | missed due gone found => exact .inl ⟨due, found⟩
  | @tookUp e idle waiting pending =>
    apply Or.inr
    have longer : s.inbox.length = s'.inbox.length + 1 := by rw [waiting, List.length_cons]
    rw [Event.asked_took_one] at conserved
    rw [Event.begun_took_one]
    cases e with
    | sampleNow =>
      have next : l'.samplePending = true := by simp [pending, demandsSample, onRequest]
      simp at conserved
      simp [outstanding, patience, idle, next]
      omega
    | dumpStatus =>
      have next : l'.samplePending = false := by simp [pending, demandsSample]
      simp at conserved
      simp [outstanding, patience, idle, next]
      omega
  | waited idle empty due =>
    have calm : l'.samplePending = false := undue onRequest due
    have none : s.requested = 0 := by rw [Session.requested, empty]; rfl
    have none' : s'.requested = 0 := by omega
    exact .inr (by simp [outstanding, idle, calm, none, none'])

theorem Going.outstanding_eq (onRequest : w.plan.mode = .onRequest) (quiet : c.Bring Happening.isQuiet)
    (going : Going c w k l s l' t) (expects : s.Expects Happening.isQuiet) (notFound : t.foundDead = false) :
    t.Expects Happening.isQuiet ∧ ∃ es, t.events = s.events ++ es ∧ begun es + outstanding l' t = outstanding l s ∧
      (outstanding l' t = 0 ∨ k + patience l' t ≤ patience l s) := by
  induction going with
  | start => exact ⟨expects, [], (List.append_nil _).symm, Nat.zero_add _, .inr (Nat.le_of_eq (Nat.zero_add _))⟩
  | @next n l l' l'' s s' s'' turned going ih =>
    have pass := turn_passes turned
    obtain ⟨es, noted, leads⟩ := pass.leads rfl
    obtain ⟨expects', conserved⟩ := pass.conserves quiet expects
    obtain ⟨expects'', fs, followed, begins, closer⟩ := ih expects' notFound
    have counted : asked es + s'.requested = s.requested := by
      rw [noted, Event.asked_append] at conserved
      omega
    obtain ⟨due, found⟩ | ⟨begins', closer'⟩ := leads.outstanding_eq onRequest counted
    · simp [going.keeps.found found] at notFound
    · refine ⟨expects'', es ++ fs, by rw [followed, noted, List.append_assoc], ?_, ?_⟩
      · rw [Event.begun_append]
        omega
      · omega

/-- While no snapshot is outstanding, none begins. -/
theorem loop_idle (onRequest : w.plan.mode = .onRequest) (quiet : c.Bring Happening.isQuiet) (n : Nat)
    (expects : s.Expects Happening.isQuiet) (none : outstanding l s = 0) :
    ∃ es, (loop c w n l s).2.events = s.events ++ es ∧ begun es = 0 := by
  have idle {l : LoopState} {s : Session σ} (none : outstanding l s = 0) : l.samplePending = false := by
    cases due : l.samplePending with
    | false => rfl
    | true => simp [outstanding, due] at none
  induction n generalizing l s with
  | zero => exact ⟨[], (List.append_nil _).symm, rfl⟩
  | succ n ih =>
    obtain ⟨r, t, q, turned, ends⟩ | ⟨l', t, turned⟩ := turn_cases c w l s
    · obtain ⟨es, noted, closes⟩ := (turn_passes turned).closes ends
      rw [loop_of_ending turned ends]
      refine ⟨es, noted, ?_⟩
      cases closes with
      | interrupted | overflowed => rfl
      | failed unasked alive due | missed due => simp [idle none] at due
      | exited idle found notices => exact Event.begun_notices notices
    · have pass := turn_passes turned
      obtain ⟨es, noted, leads⟩ := pass.leads rfl
      obtain ⟨expects', conserved⟩ := pass.conserves quiet expects
      have counted : asked es + t.requested = s.requested := by
        rw [noted, Event.asked_append] at conserved
        omega
      obtain ⟨due, -⟩ | ⟨begins, -⟩ := leads.outstanding_eq onRequest counted
      · simp [idle none] at due
      · obtain ⟨fs, followed, none'⟩ := ih (l := l') expects' (by omega)
        rw [loop_of_turn turned]
        refine ⟨es ++ fs, by rw [followed, noted, List.append_assoc], ?_⟩
        rw [Event.begun_append]
        omega

/-! ## Runs on request -/

/-- How a run on request, begun in a session, deals with the requests for samples. -/
structure Answers (c : Collaborators σ) (w : Watch) (s : Session σ) : Prop where
  /-- At every point there were at most as many snapshots as requests taken up. -/
  neverMore : ∀ n, ∃ es, (w.monitor c n s).2.events = s.events ++ es ∧ Covered 0 es
  /-- A request that is taken up is met by the end of the next turn. -/
  followed : ∀ n before after, (w.monitor c n s).2.events = s.events ++ (before ++ .took .sampleNow :: after) →
    ∃ more, (w.monitor c (n + 1) s).2.events = s.events ++ (before ++ .took .sampleNow :: (after ++ more)) ∧
      Met (w.monitor c (n + 1) s).1 (w.monitor c (n + 1) s).2 (after ++ more)
  /-- All requests that wait when a snapshot is completed are taken up together, and together they make
  one more snapshot due. -/
  coalesced : ∀ k t rest sample u, w.monitor c k s = (.ok none, t) →
    (w.monitor c (k + 1) s).2.events = t.events ++ .snapshotBegan :: rest →
    Snapshot.take c w.snapshots w.pid t = (.ok sample, u) → .sampleNow ∈ u.inbox →
    ∀ n, ∃ more, (w.monitor c (k + 1 + (n + 1)) s).2.events = u.events ++ u.inbox.map .took ++ more ∧
      Once (w.monitor c (k + 1 + (n + 1)) s).1 (w.monitor c (k + 1 + (n + 1)) s).2 more
  /-- The requests that wait before the run, if no more come, make at most two snapshots due, and just as
  many are taken if the run goes on long enough with the subject not found dead. -/
  queued : c.Bring Happening.isQuiet → s.Expects Happening.isQuiet →
    (w.monitor c (s.inbox.length + 2) s).1 = .ok none →
    (w.monitor c (s.inbox.length + 2) s).2.foundDead = false →
    ∀ n, ∃ es, (w.monitor c (s.inbox.length + 2 + n) s).2.events = s.events ++ es ∧
      begun es = min (s.inbox.count .sampleNow) 2

/-- Where the clock cannot hold the time of the first look, nothing is done. -/
theorem Answers.of_fault (faulty : ∀ n, w.monitor c n s = (.error (.fault .instantOverflow), s)) :
    Answers c w s where
  neverMore n := ⟨[], by rw [faulty, List.append_nil], .of_few (Nat.zero_le _)⟩
  followed n before after took := by simp [faulty] at took
  coalesced k t rest sample u going := by
    rw [faulty] at going
    cases going
  queued quiet expects going := by simp [faulty] at going

/-- A turn whose snapshot succeeds ends with all waiting control events taken up. -/
theorem turn_of_began {rest : List Event} {sample : Option Sample} {r : Except Stop (Outcome ⊕ LoopState)}
    {u v : Session σ} (onRequest : w.plan.mode = .onRequest) (turned : w.turn c l s = (r, v))
    (noted : v.events = s.events ++ .snapshotBegan :: rest)
    (taken : Snapshot.take c w.snapshots w.pid s = (.ok sample, u)) :
    ∃ l', r = .ok (.inr l') ∧ l'.samplePending = u.inbox.any w.demandsSample ∧ v = u.emptied := by
  have pass := turn_passes turned
  have begins := pass.begins noted List.mem_cons_self
  obtain ⟨stop, failed, -⟩ | ⟨sample, next, -, rfl, settles⟩ := pass.of_begins begins taken
  · cases failed
  cases settles with
  | on pending => exact ⟨_, rfl, pending, rfl⟩
  | overflow mode => simp [onRequest] at mode

/-- **Requests for samples are neither lost nor multiplied.** -/
theorem monitor_answers (c : Collaborators σ) (w : Watch) (s : Session σ) (onRequest : w.plan.mode = .onRequest) :
    Answers c w s := by
  obtain faulty | ⟨wake, looping⟩ := monitor_cases c w s
  · exact .of_fault faulty
  constructor
  · intro n
    rw [looping]
    exact loop_covered onRequest c n ⟨wake, false⟩ s
  · intro n before after took
    rw [looping] at took
    rw [looping]
    exact loop_meets onRequest c n took
  · intro k t rest sample u going began taken some n
    rw [looping] at going began
    rw [looping]
    obtain ⟨l, reached⟩ := Going.of_loop going
    rcases turned : w.turn c l t with ⟨r, v⟩
    rw [reached.loop_add 1, loop_one turned] at began
    obtain ⟨l', rfl, due, rfl⟩ := turn_of_began onRequest turned began taken
    rw [(reached.snoc turned).loop_add, ← Session.emptied_events]
    exact loop_once onRequest c n u.emptied (due.trans ((any_demandsSample onRequest _).2 some))
  · intro quiet expects going notFound n
    rcases reached : w.monitor c (s.inbox.length + 2) s with ⟨q, t⟩
    rw [reached] at going notFound
    obtain rfl : q = .ok none := going
    rw [looping] at reached
    obtain ⟨l, reached⟩ := Going.of_loop reached
    obtain ⟨expects', es, noted, begins, closer⟩ := reached.outstanding_eq onRequest quiet expects notFound
    have first : outstanding ⟨wake, false⟩ s = min (s.inbox.count .sampleNow) 2 := rfl
    have start : patience ⟨wake, false⟩ s = s.inbox.length + 2 := rfl
    -- after that many turns no patience is left
    have none : outstanding l t = 0 := by
      cases due : l.samplePending with
      | true =>
        have same : patience l t = outstanding l t := by rw [patience, if_pos due]
        omega
      | false =>
        have same : patience l t = t.inbox.length + 2 := by rw [patience, due]; rfl
        omega
    obtain ⟨fs, followed, none'⟩ := loop_idle onRequest quiet n expects' none
    rw [looping, reached.loop_add]
    refine ⟨es ++ fs, by rw [followed, noted, List.append_assoc], ?_⟩
    rw [Event.begun_append]
    omega

namespace Small

/-- The small run with snapshots on request. -/
def requestWatch : Watch :=
  { watch with plan := { plan with interval := none } }

/-- Three requests and a question wait before the run. -/
def beset : Session (Nat × FreezeState) :=
  { after with agenda := [], inbox := [.sampleNow, .dumpStatus, .sampleNow, .sampleNow] }

theorem obeying_quiet (first : Nat) : (Collaborators.obeyingFrom first).Bring Happening.isQuiet := by
  constructor <;> simp [Collaborators.obeyingFrom, Scene.answer]

end Small

/-- Two snapshots are all that comes of the three requests. -/
theorem monitor_answers_beset : ∃ es,
    (Small.requestWatch.monitor (.obeyingFrom 1) 20 Small.beset).2.events = Small.beset.events ++ es ∧
      begun es = 2 := by
  have goes : (Small.requestWatch.monitor (.obeyingFrom 1) 6 Small.beset).1 = .ok none :=
    Act.ok_of_toOption (by decide +kernel)
  have notFound : (Small.requestWatch.monitor (.obeyingFrom 1) 6 Small.beset).2.foundDead = false := by decide +kernel
  have expects : Small.beset.Expects Happening.isQuiet := fun _ none => absurd none List.not_mem_nil
  have answers := monitor_answers (.obeyingFrom 1) Small.requestWatch Small.beset rfl
  exact answers.queued (Small.obeying_quiet 1) expects goes notFound 14

end Watch

end HeapSampler

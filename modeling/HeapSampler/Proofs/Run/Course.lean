import HeapSampler.Monitor.Run
import HeapSampler.Proofs.Run.Aside
import HeapSampler.Proofs.Snapshot.Course

/-!
# What a run does

A turn of the sampling loop takes at most one snapshot, and what else it does is done aside. `Turn`
lists the ways in which a turn can go, `Loop` puts turns one after another, and `Finish` tells how a
run is wound up. There is no other way, so that a fact about whole runs is an induction over `Loop`.
-/

namespace HeapSampler.Watch

open Act (NoError)
open Snapshot (Take stopping)

variable {σ : Type} {c : Collaborators σ} {w : Watch} {l : LoopState} {s s' : Session σ}

/-! ## Turns -/

/-- How a turn can go that begins with a history: its result, its events and the history after it. -/
inductive Turn (w : Watch) (h : History) : Except Stop (Outcome ⊕ LoopState) → List Event → History → Prop where
  /-- No snapshot was taken. -/
  | aside {r : Except Stop (Outcome ⊕ LoopState)} {es : List Event} (goes : NoError r)
      (aside : ∀ e ∈ es, e.isAside) : Turn w h r es h
  /-- A snapshot was taken, and the run goes on. -/
  | sampled {r : Except Stop (Outcome ⊕ LoopState)} {sample : Option Sample} {before taking after : List Event}
      {h' : History} (goes : NoError r) (more : ∀ outcome, r ≠ .ok (.inl outcome))
      (aside : ∀ e ∈ before, e.isAside) (take : Take w.snapshots h (.ok sample) taking h')
      (aside' : ∀ e ∈ after, e.isAside) : Turn w h r (before ++ taking ++ after) h'
  /-- The snapshot ended the run. -/
  | stopped {stop : Stop} {before taking : List Event} {h' : History}
      (aside : ∀ e ∈ before, e.isAside) (take : Take w.snapshots h (.error stop) taking h') :
      Turn w h (.error stop) (before ++ taking) h'

/-- What follows the snapshot in a turn. -/
def settle (w : Watch) (l : LoopState) : Act σ LoopState := do
  let nextWake ← match w.plan.mode with
    | .interval period => Act.deadlineIn period
    | .onRequest => pure l.nextWake
  let samplePending ← w.drain
  return { nextWake, samplePending }

theorem settle_aside (w : Watch) (l : LoopState) : Aside (settle w l : Act σ LoopState) := by
  unfold settle
  cases w.plan.mode with
  | interval period =>
    exact (deadlineIn_aside period).bind fun _ => (drain_aside w).bind fun _ => .pure _
  | onRequest =>
    exact (Aside.pure l.nextWake).bind fun _ => (drain_aside w).bind fun _ => .pure _

theorem Aside.turn {act : Act σ (Outcome ⊕ LoopState)} {r : Except Stop (Outcome ⊕ LoopState)} (aside : Aside act)
    (ran : act s = (r, s')) : ∃ es, s'.events = s.events ++ es ∧ Turn w s.history r es s'.history := by
  obtain ⟨⟨es, added, quiet⟩, goes⟩ := aside ran
  rw [added.history]
  exact ⟨es, added.events, .aside goes quiet⟩

/-- A turn with a snapshot due takes it, unless the subject is found to have ended. -/
theorem sample_turns {r : Except Stop LoopState} (ran : w.sample c l s = (r, s')) :
    ∃ es, s'.events = s.events ++ es ∧ Turn w s.history (r.map .inr) es s'.history := by
  unfold sample at ran
  obtain ⟨stop, stopped, rfl⟩ | ⟨alive, t, looked, ran⟩ := Act.bind_cases ran
  · obtain ⟨⟨es, added, aside⟩, goes⟩ := subjectAlive_aside stopped
    rw [added.history]
    exact ⟨es, added.events, .aside goes.of_stop aside⟩
  have found := subjectAlive_aside looked
  cases alive with
  | false =>
    simp only [Bool.false_eq_true, if_false] at ran
    have settled : settle w l t = (r, s') := ran
    obtain ⟨passes, goes⟩ := settle_aside w l settled
    obtain ⟨es, added, aside⟩ := found.1.trans passes
    rw [added.history]
    exact ⟨es, added.events, .aside (goes.map _) aside⟩
  | true =>
    obtain ⟨⟨before, added, aside⟩, -⟩ := found
    simp only [if_true] at ran
    obtain ⟨stop, stopped, rfl⟩ | ⟨sample, u, taken, ran⟩ := Act.discard_bind_cases ran
    · obtain ⟨taking, noted, takes⟩ := Snapshot.take_takes stopped
      rw [added.history] at takes
      exact ⟨before ++ taking, by rw [noted, added.events, List.append_assoc], .stopped aside takes⟩
    · have settled : settle w l u = (r, s') := ran
      obtain ⟨⟨after, followed, aside'⟩, goes⟩ := settle_aside w l settled
      obtain ⟨taking, noted, takes⟩ := Snapshot.take_takes taken
      rw [added.history] at takes
      refine ⟨before ++ taking ++ after, ?_, ?_⟩
      · simp only [followed.events, noted, added.events, List.append_assoc]
      · rw [followed.history]
        refine .sampled (goes.map _) ?_ aside takes aside'
        cases r <;> simp [Except.map]

theorem turn_turns {r : Except Stop (Outcome ⊕ LoopState)} (ran : w.turn c l s = (r, s')) :
    ∃ es, s'.events = s.events ++ es ∧ Turn w s.history r es s'.history := by
  rw [turn, Act.bind_ok Act.get_apply] at ran
  by_cases cancelled : s.cancelled = true
  · rw [if_pos cancelled] at ran
    exact (Aside.pure _).turn ran
  rw [if_neg cancelled] at ran
  by_cases pending : l.samplePending = true
  · rw [if_pos pending] at ran
    obtain ⟨stop, stopped, rfl⟩ | ⟨next, t, sampled, ran⟩ := Act.bind_cases ran
    · exact sample_turns stopped
    · cases ran
      exact sample_turns sampled
  · rw [if_neg pending] at ran
    exact (wait_aside c w l).turn ran

/-! ## The loop -/

/-- How a loop can go that begins with a history: turn after turn, until one ends the run or no more
turns are left. -/
inductive Loop (w : Watch) : History → Except Stop (Option Outcome) → List Event → History → Prop where
  | unfinished (h : History) : Loop w h (.ok none) [] h
  | ended {h h' : History} {outcome : Outcome} {es : List Event} (turn : Turn w h (.ok (.inl outcome)) es h') :
      Loop w h (.ok (some outcome)) es h'
  | stopped {h h' : History} {stop : Stop} {es : List Event} (turn : Turn w h (.error stop) es h') :
      Loop w h (.error stop) es h'
  | next {h h' h'' : History} {l : LoopState} {r : Except Stop (Option Outcome)} {es fs : List Event}
      (turn : Turn w h (.ok (.inr l)) es h') (rest : Loop w h' r fs h'') : Loop w h r (es ++ fs) h''

theorem loop_loops {turns : Nat} {r : Except Stop (Option Outcome)} (ran : loop c w turns l s = (r, s')) :
    ∃ es, s'.events = s.events ++ es ∧ Loop w s.history r es s'.history := by
  induction turns generalizing l s with
  | zero =>
    cases ran
    exact ⟨[], (List.append_nil _).symm, .unfinished _⟩
  | succ turns ih =>
    rw [loop] at ran
    obtain ⟨stop, stopped, rfl⟩ | ⟨outcome | l, t, turned, ran⟩ := Act.bind_cases ran
    · obtain ⟨es, added, turn⟩ := turn_turns stopped
      exact ⟨es, added, .stopped turn⟩
    · cases ran
      obtain ⟨es, added, turn⟩ := turn_turns turned
      exact ⟨es, added, .ended turn⟩
    · obtain ⟨es, added, turn⟩ := turn_turns turned
      obtain ⟨fs, followed, rest⟩ := ih ran
      exact ⟨es ++ fs, by rw [followed, added, List.append_assoc], .next turn rest⟩

theorem monitor_loops {turns : Nat} {r : Except Stop (Option Outcome)} (ran : w.monitor c turns s = (r, s')) :
    ∃ es, s'.events = s.events ++ es ∧ Loop w s.history r es s'.history := by
  rw [monitor] at ran
  obtain ⟨stop, stopped, rfl⟩ | ⟨wake, t, set, ran⟩ := Act.bind_cases ran
  · obtain ⟨⟨es, added, aside⟩, goes⟩ := deadlineIn_aside _ stopped
    rw [added.history]
    exact ⟨es, added.events, .stopped (.aside goes.of_stop aside)⟩
  · rw [Act.deadlineIn_apply] at set
    cases congrArg Prod.snd set
    exact loop_loops ran

/-! ## Winding up -/

/-- The events of a release: a thaw is requested, and the freezer is looked at if it agreed. -/
inductive Releases : List Event → Prop where
  | refused : Releases [.requested .thawed false]
  | granted (answer : Option (Option FreezeState)) : Releases [.requested .thawed true, .observed answer]

theorem release_releases {r : Except Stop Unit} (ran : release c s = (r, s')) :
    ∃ es, s.Adds es s' ∧ Releases es ∧ NoError r := by
  rw [release, Act.discard_apply] at ran
  rcases attempted : Snapshot.attempt (Act.request c .thawed >>= fun _ => discard (Act.observe c)) s with ⟨a, t⟩
  rw [attempted] at ran
  cases ran
  obtain ⟨⟨b, asked⟩, goes⟩ := Act.attempt_runs attempted
  have quiet := goes.map fun _ => ()
  obtain ⟨stop, refused, rfl⟩ | ⟨⟨⟩, u, granted, ran⟩ := Act.bind_cases asked
  · exact ⟨_, Act.call_adds refused, .refused, quiet⟩
  · rw [Act.discard_apply] at ran
    rcases looked : Act.observe c u with ⟨answer, v⟩
    rw [looked] at ran
    cases ran
    exact ⟨_, (Act.call_adds granted).trans (Act.call_adds looked), .granted _, quiet⟩

/-- What a run is told to come to: the outcome of the loop and the summary of the history, if that
could be written. An error of the loop comes first. -/
def report (w : Watch) (h : History) (result : Except MonitorError Outcome)
    (written : Except MonitorError FileTree) : Except MonitorError Report := do
  let outcome ← result
  let _ ← written
  return ⟨outcome, w.summary h, w.summaryPath⟩

theorem report_summary {h : History} {result : Except MonitorError Outcome} {written : Except MonitorError FileTree}
    {report : Report} (told : w.report h result written = .ok report) : report.summary = w.summary h := by
  cases result with
  | error e => cases told
  | ok outcome =>
    cases written <;> cases told
    rfl

/-- The events of winding up a run before its groups are removed. -/
def Unhands (result : Except MonitorError Outcome) (es : List Event) : Prop :=
  (result = .ok .subjectExited → es = []) ∧ (result ≠ .ok .subjectExited → Releases es)

/-- How a run is wound up, from one session to another, and what it comes to. -/
inductive Finish (w : Watch) (result : Except MonitorError Outcome) (s s' : Session σ) :
    Except Stop Report → Prop where
  /-- A fault of the freezer stopped it. -/
  | fault {f : Fault} {es : List Event} (added : s.Adds es s') (released : Unhands result es) :
      Finish w result s s' (.error (.fault f))
  /-- The groups were removed, and the summary was written to the files that were left, if possible. -/
  | done {files : FileTree} {written : Except MonitorError FileTree} {es : List Event}
      (released : Unhands result es) (wrote : (w.summary s.history).write files w.summaryPath = written)
      (added : s.Adds (es ++ [.groupsRemoved, .summaryWritten written.toOption.isSome]) s')
      (left : s'.files = written.toOption.getD files) :
      Finish w result s s' (stopping (w.report s.history result written))

/-- Winding up a run that returns goes all the way. -/
theorem Finish.winds {result : Except MonitorError Outcome} {r : Except MonitorError Report}
    (finish : Finish w result s s' (stopping r)) :
    ∃ es files, Unhands result es ∧
      r = w.report s.history result ((w.summary s.history).write files w.summaryPath) ∧
      s.Adds (es ++ [.groupsRemoved,
        .summaryWritten ((w.summary s.history).write files w.summaryPath).toOption.isSome]) s' ∧
      s'.files = ((w.summary s.history).write files w.summaryPath).toOption.getD files := by
  generalize ended : stopping r = q at finish
  cases finish with
  | fault => cases r <;> cases ended
  | @done files written es released wrote added left =>
    subst wrote
    refine ⟨es, files, released, ?_, added, left⟩
    generalize w.report s.history result _ = told at ended
    cases r <;> cases told <;> cases ended <;> rfl

/-- The change that writing a summary makes to the files. -/
def writing (summary : Summary) (p : Path) (t : FileTree) : Except MonitorError Unit × FileTree :=
  match summary.write t p with
  | .ok t => (.ok (), t)
  | .error e => (.error e, t)

/-- What the writing of a summary comes to, and where it leads. -/
theorem writeSummary_apply {written : Except MonitorError FileTree}
    (wrote : (w.summary s.history).write s.files w.summaryPath = written) :
    w.writeSummary s = (stopping (written.map fun _ => w.summary s.history),
      ({ s with files := written.toOption.getD s.files } : Session σ).note
        (.summaryWritten written.toOption.isSome)) := by
  unfold writeSummary
  rw [Act.bind_ok Act.get_apply]
  cases written with
  | error e =>
    have tried : Snapshot.attempt (Act.onFiles (writing (w.summary s.history) w.summaryPath)) s =
        (.ok (.error e), s) := by
      simp only [Snapshot.attempt, Act.onFiles, writing, wrote]
      rfl
    exact Act.bind_ok tried
  | ok files =>
    have tried : Snapshot.attempt (Act.onFiles (writing (w.summary s.history) w.summaryPath)) s =
        (.ok (.ok ()), { s with files }) := by
      simp only [Snapshot.attempt, Act.onFiles, writing, wrote]
      rfl
    exact Act.bind_ok tried

/-- What is left of winding up a run once the subject is released. -/
def conclude (w : Watch) (result : Except MonitorError Outcome) : Act σ Report := do
  modify fun s => { s with files := w.groups.destroy s.files }
  Act.note .groupsRemoved
  let written ← Snapshot.attempt w.writeSummary
  match result with
  | .error e => Act.fail e
  | .ok outcome =>
    match written with
    | .ok summary => return { outcome, summary, summaryPath := w.summaryPath }
    | .error e => Act.fail e

/-- What is done about the subject before that: it is released, unless it is known to have ended. -/
def letGo (c : Collaborators σ) : Except MonitorError Outcome → Act σ Unit
  | .ok .subjectExited => pure ()
  | _ => release c

theorem letGo_other {result : Except MonitorError Outcome} (other : result ≠ .ok .subjectExited) :
    letGo c result = release c := by
  rcases result with e | _ | _
  · rfl
  · exact absurd rfl other
  · rfl

theorem letGo_unhands {result : Except MonitorError Outcome} {r : Except Stop Unit}
    (ran : letGo c result s = (r, s')) : ∃ es, s.Adds es s' ∧ Unhands result es ∧ NoError r := by
  by_cases exited : result = .ok .subjectExited
  · subst exited
    cases ran
    exact ⟨[], .refl s, ⟨fun _ => rfl, fun other => absurd rfl other⟩, .ok ()⟩
  · rw [letGo_other exited] at ran
    obtain ⟨es, added, releases, goes⟩ := release_releases ran
    exact ⟨es, added, ⟨fun same => absurd same exited, fun _ => releases⟩, goes⟩

theorem finish_eq (c : Collaborators σ) (w : Watch) (result : Except MonitorError Outcome) :
    w.finish c result = letGo c result >>= fun _ => conclude w result := by
  rcases result with e | _ | _ <;> rfl

/-- The session after the groups were removed, as far as possible, and the summary was written, if possible. -/
def concluded (w : Watch) (t : Session σ) : Session σ :=
  let files := w.groups.destroy t.files
  let written := (w.summary t.history).write files w.summaryPath
  let removed : Session σ := ({ t with files } : Session σ).note .groupsRemoved
  ({ removed with files := written.toOption.getD files } : Session σ).note
    (.summaryWritten written.toOption.isSome)

theorem conclude_apply (w : Watch) (result : Except MonitorError Outcome) (t : Session σ) :
    conclude w result t = (stopping (w.report t.history result
      ((w.summary t.history).write (w.groups.destroy t.files) w.summaryPath)), w.concluded t) := by
  obtain ⟨written, wrote⟩ :
    ∃ written, (w.summary t.history).write (w.groups.destroy t.files) w.summaryPath = written := ⟨_, rfl⟩
  let gone : Session σ := { t with files := w.groups.destroy t.files }
  have removing : (modify fun s => { s with files := w.groups.destroy s.files } : Act σ Unit) t = (.ok (), gone) := rfl
  have noting : (Act.note .groupsRemoved : Act σ Unit) gone = (.ok (), gone.note .groupsRemoved) := rfl
  have writing : Snapshot.attempt w.writeSummary (gone.note .groupsRemoved) =
      (.ok (written.map fun _ => w.summary t.history), w.concluded t) := by
    rw [Snapshot.attempt_apply (writeSummary_apply (s := gone.note .groupsRemoved) wrote), concluded, wrote]
    rfl
  rw [conclude, Act.bind_ok removing, Act.bind_ok noting, Act.bind_ok writing, wrote]
  cases result with
  | error e => rfl
  | ok outcome => cases written <;> rfl

theorem concluded_adds (w : Watch) (t : Session σ) : t.Adds [.groupsRemoved, .summaryWritten
    ((w.summary t.history).write (w.groups.destroy t.files) w.summaryPath).toOption.isSome] (w.concluded t) := by
  refine ⟨?_, rfl⟩
  have removed : (({ t with files := w.groups.destroy t.files } : Session σ).note .groupsRemoved).events =
      t.events ++ [.groupsRemoved] := Session.events_note _ _
  rw [concluded, Session.events_note, Session.events_congr, removed]
  · simp
  · rfl

theorem conclude_finishes {result : Except MonitorError Outcome} {es : List Event} {t : Session σ}
    {r : Except Stop Report} (released : Unhands result es) (added : s.Adds es t) (ran : conclude w result t = (r, s')) :
    Finish w result s s' r := by
  rw [conclude_apply] at ran
  cases ran
  have all := added.trans (concluded_adds w t)
  rw [added.history] at all ⊢
  refine .done released rfl all ?_
  rw [concluded, added.history]
  rfl

theorem finish_finishes {result : Except MonitorError Outcome} {r : Except Stop Report}
    (ran : w.finish c result s = (r, s')) : Finish w result s s' r := by
  rw [finish_eq] at ran
  obtain ⟨stop, stopped, rfl⟩ | ⟨⟨⟩, t, gone, ran⟩ := Act.bind_cases ran
  · obtain ⟨es, added, unhands, goes⟩ := letGo_unhands stopped
    cases stop with
    | error e => exact absurd rfl (goes e)
    | fault f => exact .fault added unhands
  · obtain ⟨es, added, unhands, -⟩ := letGo_unhands gone
    exact conclude_finishes unhands added ran

/-- A run that returns has come to the end of its loop and was wound up. -/
theorem run_finishes {turns : Nat} {r : Except MonitorError Report}
    (ran : w.run c turns s = (stopping (r.map some), s')) :
    ∃ result m, w.monitor c turns s = (stopping (result.map some), m) ∧ Finish w result m s' (stopping r) := by
  have finished {result : Except MonitorError Outcome} {m : Session σ}
      (ran : (w.finish c result >>= fun report => pure (some report)) m = (stopping (r.map some), s')) :
      Finish w result m s' (stopping r) := by
    obtain ⟨stop, stopped, same⟩ | ⟨report, t, gone, ran⟩ := Act.bind_cases ran
    · cases r <;> cases same
      exact finish_finishes stopped
    · cases r <;> cases ran
      exact finish_finishes gone
  unfold run at ran
  obtain ⟨stop, stopped, same⟩ | ⟨result, m, monitored, ran⟩ := Act.bind_cases ran
  · obtain ⟨f, rfl, -⟩ := Snapshot.attempt_error stopped
    cases r <;> cases same
  have monitored := Snapshot.attempt_ok monitored
  match result with
  | .ok none => cases r <;> cases ran
  | .ok (some outcome) => exact ⟨.ok outcome, m, monitored, finished ran⟩
  | .error e => exact ⟨.error e, m, monitored, finished ran⟩

/-- The course of a run that returns: what its loop came to and what was done in it, then what was
done to release the subject, and the files that the summary was written to. -/
structure Course (c : Collaborators σ) (w : Watch) (turns : Nat) (s : Session σ) (r : Except MonitorError Report)
    (result : Except MonitorError Outcome) (looping released : List Event) (files : FileTree)
    (written : Except MonitorError FileTree) : Prop where
  monitored : (w.monitor c turns s).1 = stopping (result.map some)
  looped : (w.monitor c turns s).2.events = s.events ++ looping
  loop : Loop w s.history (stopping (result.map some)) looping (w.monitor c turns s).2.history
  unhands : Unhands result released
  wrote : (w.summary (w.monitor c turns s).2.history).write files w.summaryPath = written
  reported : r = w.report (w.monitor c turns s).2.history result written
  events : (w.run c turns s).2.events =
    s.events ++ looping ++ (released ++ [.groupsRemoved, .summaryWritten written.toOption.isSome])
  left : (w.run c turns s).2.files = written.toOption.getD files

theorem run_course {turns : Nat} {r : Except MonitorError Report}
    (returned : (w.run c turns s).1 = stopping (r.map some)) :
    ∃ result looping released files written, Course c w turns s r result looping released files written := by
  obtain ⟨result, m, monitored, finish⟩ := run_finishes (Prod.ext returned rfl)
  obtain ⟨looping, looped, loop⟩ := monitor_loops monitored
  obtain ⟨released, files, unhands, reported, added, left⟩ := finish.winds
  exact ⟨result, looping, released, files, (w.summary m.history).write files w.summaryPath, {
    monitored := by rw [monitored]
    looped := by rw [monitored]; exact looped
    loop := by rw [monitored]; exact loop
    unhands
    wrote := by rw [monitored]
    reported := by rw [monitored]; exact reported
    events := by rw [added.events, looped]
    left }⟩

end HeapSampler.Watch

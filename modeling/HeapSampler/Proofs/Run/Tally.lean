import HeapSampler.Proofs.Run.Course
import HeapSampler.Proofs.Run.Start

/-!
# What a summary tells

A snapshot counts if its freeze, its measurement and its thaw succeeded, and whether they did can be
seen from the dealings with the freezer and the classifier alone. `Tally` reads the page counts of all
such snapshots off the events of a run. The history is determined by these counts at every turn
(`Loop.recorded`), so the summary of a run tells exactly them (`run_tells_counts`).
-/

namespace HeapSampler

open Snapshot (Measures Cycle Take stopping verdict)
open Transition (Attempt Serves)

/-! ## The tally -/

/-- How far a snapshot has got. -/
inductive Stage where
  | idle
  | freezing
  | frozen
  | measured (pages : UInt64)
  | thawing (pages : UInt64)
  deriving DecidableEq, Repr

/-- The stage of the present snapshot, and the page counts of the snapshots that were completed. -/
structure Tally where
  stage : Stage
  counts : List UInt64
  deriving DecidableEq, Repr

namespace Tally

/-- The tally after one more event. A count is entered when the subject is seen thawed again, unless
the snapshot has been given up before. -/
def enter (t : Tally) (e : Event) : Tally :=
  match t.stage, e with
  | _, .snapshotBegan => { t with stage := .idle }
  | _, .snapshotEnded _ => { t with stage := .idle }
  | .idle, .requested .frozen _ => { t with stage := .freezing }
  | .freezing, .observed (some (some .frozen)) => { t with stage := .frozen }
  | .frozen, .classified _ _ (some pages) => { t with stage := .measured pages }
  | .measured pages, .requested .thawed _ => { t with stage := .thawing pages }
  | .thawing pages, .observed (some (some .thawed)) => ⟨.idle, t.counts ++ [pages]⟩
  | _, _ => t

/-- The tally after some more events. -/
def read (t : Tally) (es : List Event) : Tally :=
  es.foldl enter t

theorem read_cons (t : Tally) (e : Event) (es : List Event) : t.read (e :: es) = (t.enter e).read es := rfl

theorem read_append (t : Tally) (es fs : List Event) : t.read (es ++ fs) = (t.read es).read fs :=
  List.foldl_append

/-- Events of which none changes the tally leave it as it is. -/
theorem read_eq_self {t : Tally} {es : List Event} (still : ∀ e ∈ es, t.enter e = t) : t.read es = t := by
  induction es with
  | nil => rfl
  | cons e es ih =>
    rw [read_cons, still e List.mem_cons_self]
    exact ih fun f found => still f (List.mem_cons_of_mem e found)

end Tally

/-- The page counts of the completed snapshots among some events. -/
def completedCounts (es : List Event) : List UInt64 :=
  ((Tally.mk .idle []).read es).counts

/-! ## The stages of a snapshot -/

section Stages

variable {p : SnapshotPlan} {iteration : UInt32} {counts : List UInt64} {pages : UInt64} {es : List Event}

/-- The stage that a measurement leads to. -/
def Stage.after : Except Stop (Option Sample) → Stage
  | .ok (some sample) => .measured sample.pages
  | _ => .frozen

namespace Tally

theorem enter_freezing {e : Event} (serves : Serves .frozen e) (other : e ≠ .observed (some (some .frozen))) :
    Tally.enter ⟨.freezing, counts⟩ e = ⟨.freezing, counts⟩ := by
  obtain ⟨accepted, rfl⟩ | ⟨_ | _ | _ | _, rfl⟩ := serves
  · rfl
  · rfl
  · rfl
  · rfl
  · exact absurd rfl other

theorem enter_thawing {e : Event} (serves : Serves .thawed e) (other : e ≠ .observed (some (some .thawed))) :
    Tally.enter ⟨.thawing pages, counts⟩ e = ⟨.thawing pages, counts⟩ := by
  obtain ⟨accepted, rfl⟩ | ⟨_ | _ | _ | _, rfl⟩ := serves
  · rfl
  · rfl
  · rfl
  · exact absurd rfl other
  · rfl

section Attempts

variable {target : FreezeState} {t u v : Tally} (asked : ∀ accepted, t.enter (.requested target accepted) = u)
  (still : ∀ {e}, Serves target e → e ≠ .observed (some (some target)) → u.enter e = u)
include asked still

/-- A transition that succeeds moves the tally when it asks and when it sees its target. -/
theorem read_settled (attempt : Attempt target (.ok ()) es) (seen : u.enter (.observed (some (some target))) = v) :
    t.read es = v := by
  have serves := attempt.serves
  obtain ⟨accepted, between, rfl, fresh⟩ := attempt.settled
  have waiting : u.read between = u := by
    refine read_eq_self fun e found => still (serves e (by simp [found])) ?_
    rintro rfl
    exact fresh found
  rw [read_cons, asked, read_append, waiting]
  exact seen

/-- A transition that stops moves it only when it asks. -/
theorem read_unsettled {stop : Stop} (attempt : Attempt target (.error stop) es) : t.read es = u := by
  have serves := attempt.serves
  have unseen := attempt.unsettled
  obtain ⟨accepted, rest, rfl, -⟩ := attempt
  rw [read_cons, asked]
  refine read_eq_self fun e found => still (serves e (by simp [found])) ?_
  rintro rfl
  exact unseen (List.mem_cons_of_mem _ found)

end Attempts

theorem read_frozen (frozen : Attempt .frozen (.ok ()) es) : Tally.read ⟨.idle, counts⟩ es = ⟨.frozen, counts⟩ :=
  read_settled (fun _ => rfl) enter_freezing frozen rfl

theorem read_unfrozen {stop : Stop} (unfrozen : Attempt .frozen (.error stop) es) :
    Tally.read ⟨.idle, counts⟩ es = ⟨.freezing, counts⟩ :=
  read_unsettled (fun _ => rfl) enter_freezing unfrozen

theorem read_measured {r : Except Stop (Option Sample)} (measures : Measures p iteration r es) :
    Tally.read ⟨.frozen, counts⟩ es = ⟨.after r, counts⟩ := by
  cases measures <;> rfl

/-- Without a count a thaw changes nothing. -/
theorem read_uncounted {r : Except Stop Unit} (thaws : Attempt .thawed r es) :
    Tally.read ⟨.frozen, counts⟩ es = ⟨.frozen, counts⟩ := by
  apply read_eq_self
  intro e found
  obtain ⟨accepted, rfl⟩ | ⟨_ | _ | _ | _, rfl⟩ := thaws.serves e found <;> rfl

theorem read_thawed (thaws : Attempt .thawed (.ok ()) es) :
    Tally.read ⟨.measured pages, counts⟩ es = ⟨.idle, counts ++ [pages]⟩ :=
  read_settled (fun _ => rfl) enter_thawing thaws rfl

theorem read_unthawed {stop : Stop} (unthawed : Attempt .thawed (.error stop) es) :
    Tally.read ⟨.measured pages, counts⟩ es = ⟨.thawing pages, counts⟩ :=
  read_unsettled (fun _ => rfl) enter_thawing unthawed

end Tally

/-- The counts that a snapshot adds. -/
def gained : Option Sample → List UInt64
  | some sample => [sample.pages]
  | none => []

/-- A cycle that succeeds adds the count of its sample, if there is one. -/
theorem Snapshot.Cycle.read_ok {sample : Option Sample} (cycle : Cycle p iteration (.ok (.ok sample)) es)
    (counts : List UInt64) :
    ∃ stage, Tally.read ⟨.idle, counts⟩ es = ⟨stage, counts ++ gained sample⟩ := by
  obtain ⟨freeze, measuring, thaw, rfl, frozen, measures, thaws⟩ := cycle.stages rfl
  rw [Tally.read_append, Tally.read_append, Tally.read_frozen frozen, Tally.read_measured measures]
  cases sample with
  | none => exact ⟨.frozen, by rw [gained, List.append_nil]; exact Tally.read_uncounted thaws⟩
  | some sample => exact ⟨.idle, Tally.read_thawed thaws⟩

/-- A cycle that fails adds nothing. -/
theorem Snapshot.Cycle.read_error {e : MonitorError} (cycle : Cycle p iteration (.ok (.error e)) es)
    (counts : List UInt64) :
    ∃ stage, Tally.read ⟨.idle, counts⟩ es = ⟨stage, counts⟩ := by
  generalize failed : (Except.ok (.error e) : Except Stop (Except MonitorError (Option Sample))) = r at cycle
  cases cycle with
  | unfrozen frozen => exact ⟨_, Tally.read_unfrozen frozen⟩
  | freezeFault | measureFault | thawFault => cases failed
  | @complete measured thawed freeze measuring thaw frozen measures thaws =>
    rw [Tally.read_append, Tally.read_append, Tally.read_frozen frozen, Tally.read_measured measures]
    match measured, thawed with
    | .error _, _ | .ok none, _ => exact ⟨_, Tally.read_uncounted thaws⟩
    | .ok (some sample), .error _ => exact ⟨_, Tally.read_unthawed thaws⟩
    | .ok (some sample), .ok () => cases failed

end Stages

/-! ## The history that counts determine -/

/-- The history of a run that has recorded some page counts. -/
def History.ofCounts (o : OutputSettings) (counts : List UInt64) : History where
  iteration := .ofNat counts.length
  peak := counts.foldl max 0
  sizes := counts
  artifacts := (List.range counts.length).map fun i => o.artifactName (.ofNat (i + 1))

namespace History

variable {o : OutputSettings} {counts : List UInt64}

theorem ofCounts_iteration : (ofCounts o counts).iteration + 1 = .ofNat (counts.length + 1) :=
  (UInt32.ofNat_add ..).symm

/-- Recording the next sample is having recorded one more count. -/
theorem ofCounts_record {sample : Sample}
    (artifact : sample.artifact = o.artifactName ((ofCounts o counts).iteration + 1)) :
    (ofCounts o counts).begin.2.record sample = ofCounts o (counts ++ [sample.pages]) := by
  rw [ofCounts_iteration] at artifact
  simp only [begin, record, ofCounts_iteration, artifact]
  simp [ofCounts, List.range_succ]

end History

/-- The history has recorded the counts of the snapshots that the events complete, and no snapshot
is under way. -/
def Recorded (o : OutputSettings) (es : List Event) (h : History) : Prop :=
  ∃ counts, Tally.read ⟨.idle, []⟩ es = ⟨.idle, counts⟩ ∧ h = .ofCounts o counts

section Recorded

variable {o : OutputSettings} {past es : List Event} {h h' : History}

theorem Recorded.completed (recorded : Recorded o es h) : h = .ofCounts o (completedCounts es) := by
  obtain ⟨counts, told, rfl⟩ := recorded
  rw [completedCounts, told]

/-- What does not touch a tally without a snapshot does not touch the record. -/
theorem Recorded.append_still (recorded : Recorded o past h)
    (still : ∀ e ∈ es, ∀ counts, Tally.enter ⟨.idle, counts⟩ e = ⟨.idle, counts⟩) : Recorded o (past ++ es) h := by
  obtain ⟨counts, told, rfl⟩ := recorded
  refine ⟨counts, ?_, rfl⟩
  rw [Tally.read_append, told]
  exact Tally.read_eq_self fun e found => still e found counts

theorem Recorded.append_aside (recorded : Recorded o past h) (aside : ∀ e ∈ es, e.isAside) :
    Recorded o (past ++ es) h := by
  apply recorded.append_still
  intro e found counts
  have := aside e found
  cases e <;> simp_all [Event.isAside, Tally.enter]

/-- A snapshot that no fault stops is recorded if and only if it was completed. -/
theorem Recorded.append_take {p : SnapshotPlan} {r : Except Stop (Option Sample)}
    (recorded : Recorded p.output past h) (take : Take p h r es h') (whole : ∀ f, r ≠ .error (.fault f)) :
    Recorded p.output (past ++ es) h' := by
  obtain ⟨counts, told, rfl⟩ := recorded
  have begun (es : List Event) (result : Option (Option Sample)) :
      Tally.read ⟨.idle, []⟩ (past ++ .snapshotBegan :: (es ++ [.snapshotEnded result])) =
        ⟨.idle, (Tally.read ⟨.idle, counts⟩ es).counts⟩ := by
    rw [Tally.read_append, told, Tally.read_cons, Tally.read_append]
    rfl
  cases take with
  | fault => exact absurd rfl (whole _)
  | failed cycle =>
    obtain ⟨stage, read⟩ := cycle.read_error counts
    exact ⟨counts, by rw [begun, read], rfl⟩
  | noHeap cycle =>
    obtain ⟨stage, read⟩ := cycle.read_ok counts
    exact ⟨counts, by rw [begun, read, gained, List.append_nil], rfl⟩
  | @taken sample es cycle =>
    obtain ⟨stage, read⟩ := cycle.read_ok counts
    refine ⟨counts ++ [sample.pages], by rw [begun, read, gained], ?_⟩
    obtain ⟨freeze, measuring, thaw, -, -, measures, -⟩ := cycle.stages rfl
    cases measures
    exact History.ofCounts_record rfl

end Recorded

/-! ## Turns, loops and runs -/

namespace Watch

variable {σ : Type} {w : Watch} {past es : List Event} {h h' : History}

theorem Turn.recorded {r : Except Stop (Outcome ⊕ LoopState)} (turn : Turn w h r es h')
    (whole : ∀ f, r ≠ .error (.fault f)) (recorded : Recorded w.snapshots.output past h) :
    Recorded w.snapshots.output (past ++ es) h' := by
  cases turn with
  | aside goes aside => exact recorded.append_aside aside
  | @sampled _ sample before taking after _ goes more aside take aside' =>
    rw [← List.append_assoc, ← List.append_assoc]
    exact ((recorded.append_aside aside).append_take take (by simp)).append_aside aside'
  | @stopped stop before taking _ aside take =>
    rw [← List.append_assoc]
    refine (recorded.append_aside aside).append_take take ?_
    rintro f ⟨⟩
    exact whole f rfl

/-- Every turn of a loop keeps the record, so the whole loop does. -/
theorem Loop.recorded {r : Except Stop (Option Outcome)} (loop : Loop w h r es h')
    (whole : ∀ f, r ≠ .error (.fault f)) (recorded : Recorded w.snapshots.output past h) :
    Recorded w.snapshots.output (past ++ es) h' := by
  induction loop generalizing past with
  | unfinished h =>
    rw [List.append_nil]
    exact recorded
  | ended turn => exact turn.recorded (by simp) recorded
  | stopped turn =>
    refine turn.recorded ?_ recorded
    rintro f ⟨⟩
    exact whole f rfl
  | next turn rest ih =>
    rw [← List.append_assoc]
    exact ih whole (turn.recorded (by simp) recorded)

/-- Without a snapshot a release changes nothing. -/
theorem Releases.still (releases : Releases es) :
    ∀ e ∈ es, ∀ counts, Tally.enter ⟨.idle, counts⟩ e = ⟨.idle, counts⟩ := by
  intro e found counts
  cases releases with
  | refused =>
    rw [List.mem_singleton.1 found]
    rfl
  | granted answer =>
    rcases List.mem_cons.1 found with rfl | found
    · rfl
    · rw [List.mem_singleton.1 found]
      rcases answer with _ | _ | _ | _ <;> rfl

/-- Winding up a run completes no snapshot. -/
theorem Unhands.still {result : Except MonitorError Outcome} (unhands : Unhands result es) (written : Bool) :
    ∀ e ∈ es ++ [.groupsRemoved, .summaryWritten written], ∀ counts,
      Tally.enter ⟨.idle, counts⟩ e = ⟨.idle, counts⟩ := by
  intro e found counts
  rcases List.mem_append.1 found with found | found
  · by_cases exited : result = .ok .subjectExited
    · rw [unhands.1 exited] at found
      cases found
    · exact (unhands.2 exited).still e found counts
  · rcases List.mem_cons.1 found with rfl | found
    · rfl
    · rw [List.mem_singleton.1 found]
      rfl

/-- The summary tells of exactly these page counts, in this order. -/
structure Tells (w : Watch) (counts : List UInt64) (summary : Summary) : Prop where
  sizes : summary.sizes = counts
  artifacts : summary.artifacts =
    (List.range counts.length).map fun i => w.snapshots.output.artifactName (.ofNat (i + 1))
  iterations : summary.iterations.toNat = counts.length
  peak : summary.peak = counts.max?.getD 0

theorem foldl_max_zero (counts : List UInt64) : counts.foldl max 0 = counts.max?.getD 0 := by
  cases counts with
  | nil => rfl
  | cons n counts =>
    have zero : max 0 n = n := if_pos UInt64.zero_le
    rw [List.foldl_cons, zero, List.max?_cons', Option.getD_some]

/-- The summary of a history that counts determine tells of these counts. -/
theorem tells_ofCounts (w : Watch) {counts : List UInt64} (few : counts.length < UInt32.size - 1) :
    w.Tells counts (w.summary (.ofCounts w.snapshots.output counts)) where
  sizes := rfl
  artifacts := rfl
  iterations := UInt32.toNat_ofNat_of_lt (Nat.lt_trans few (by decide))
  peak := foldl_max_zero counts

theorem tells_of_recorded (recorded : Recorded w.snapshots.output es h)
    (few : (completedCounts es).length < UInt32.size - 1) : w.Tells (completedCounts es) (w.summary h) := by
  rw [recorded.completed]
  exact tells_ofCounts w few

/-- **A summary is the list of the completed snapshots.** For every started run that returns, by the
end of the subject, an interrupt or an error, there is one summary, which tells exactly the page counts
of the snapshots that were completed in the run: it is what the run reports, if it reports, and what is
written to the files that are left, if the last event says so. -/
theorem run_tells_counts (c : Collaborators σ) (w : Watch) (turns : Nat) (s : Session σ)
    (r : Except MonitorError Report) (started : w.Started s)
    (returned : (w.run c turns s).1 = stopping (r.map some)) :
    ∃ es, (w.run c turns s).2.events = s.events ++ es ∧
      ((completedCounts es).length < UInt32.size - 1 → ∃ summary, w.Tells (completedCounts es) summary ∧
        (∀ report, r = .ok report → report.summary = summary) ∧
        ∃ files written, summary.write files w.summaryPath = written ∧
          es.getLast? = some (.summaryWritten written.toOption.isSome) ∧
          (w.run c turns s).2.files = written.toOption.getD files) := by
  obtain ⟨result, looping, released, files, written, course⟩ := run_course returned
  have fresh : Recorded w.snapshots.output [] s.history := ⟨[], rfl, started.history⟩
  have looped := course.loop.recorded (Snapshot.stopping_ne_fault _) fresh
  rw [List.nil_append] at looped
  have recorded := looped.append_still (course.unhands.still written.toOption.isSome)
  have events := course.events
  rw [List.append_assoc] at events
  refine ⟨_, events, fun few => ?_⟩
  refine ⟨_, tells_of_recorded recorded few, ?_, files, written, course.wrote, ?_, course.left⟩
  · intro report told
    rw [course.reported] at told
    exact report_summary told
  · simp

/-- The small run completes a snapshot of three pages and one of two, and its summary tells so. -/
theorem run_tells_counts_small :
    ∃ es summary, (Small.watch.run Small.machine 10 Small.after).2.events = Small.after.events ++ es ∧
      completedCounts es = [3, 2] ∧ Small.watch.Tells [3, 2] summary ∧ Small.report.summary = summary := by
  obtain ⟨es, noted, tells⟩ :=
    run_tells_counts Small.machine Small.watch 10 Small.after (.ok Small.report) Small.started Small.reports
  have counted : completedCounts ((Small.watch.run Small.machine 10 Small.after).2.events.drop
      Small.after.events.length) = [3, 2] := by
    decide +kernel
  rw [noted, List.drop_left] at counted
  rw [counted] at tells
  obtain ⟨summary, told, reported, -⟩ := tells (by decide)
  exact ⟨es, summary, noted, counted, told, reported Small.report rfl⟩

end Watch

end HeapSampler

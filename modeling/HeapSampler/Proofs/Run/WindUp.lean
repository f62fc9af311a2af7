import HeapSampler.Proofs.Files
import HeapSampler.Proofs.Run.Course
import HeapSampler.Proofs.Run.Start
import HeapSampler.Proofs.Snapshot.Order

/-!
# How a run is wound up

Whatever the loop of a run came to, the same follows: the subject is let go, the groups are removed as far
as possible, and one summary is written, of all that was recorded. None of this changes what the run comes
to but the writing, and that only if the loop has succeeded.
-/

namespace HeapSampler

/-- The event belongs to the winding up of a run. -/
def Event.windsUp : Event → Bool
  | .groupsRemoved | .summaryWritten _ => true
  | _ => false

/-- A fault of the freezer itself, when it is asked for the thaw or looked at. -/
def Collaborators.Breaks {σ : Type} (c : Collaborators σ) (f : Fault) : Prop :=
  ∃ scene, (c.request .thawed scene).result = .error (.fault f) ∨ (c.observe scene).result = .error (.fault f)

namespace Watch

open Snapshot (Take stopping)

variable {σ : Type} {c : Collaborators σ} {w : Watch} {s t m : Session σ} {result : Except MonitorError Outcome}
  {es : List Event} {h h' : History}

/-! ## Before the winding up -/

theorem windsUp_of_aside (aside : ∀ e ∈ es, e.isAside) : ∀ e ∈ es, e.windsUp = false := by
  intro e found
  have := aside e found
  cases e <;> simp_all [Event.windsUp, Event.isAside]

theorem windsUp_of_take {p : SnapshotPlan} {r : Except Stop (Option Sample)} (take : Take p h r es h') :
    ∀ e ∈ es, e.windsUp = false := by
  obtain ⟨rest, rfl, inner⟩ := take.inner
  intro e found
  rcases List.mem_cons.1 found with rfl | found
  · rfl
  · have := inner e found
    cases e <;> simp_all [Event.windsUp, Event.isInner]

theorem windsUp_append {fs : List Event} (first : ∀ e ∈ es, e.windsUp = false) (second : ∀ e ∈ fs, e.windsUp = false) :
    ∀ e ∈ es ++ fs, e.windsUp = false :=
  fun e found => (List.mem_append.1 found).elim (first e) (second e)

theorem Turn.windsUp {r : Except Stop (Outcome ⊕ LoopState)} (turn : Turn w h r es h') :
    ∀ e ∈ es, e.windsUp = false := by
  cases turn with
  | aside goes aside => exact windsUp_of_aside aside
  | sampled goes more aside take aside' =>
    exact windsUp_append (windsUp_append (windsUp_of_aside aside) (windsUp_of_take take)) (windsUp_of_aside aside')
  | stopped aside take => exact windsUp_append (windsUp_of_aside aside) (windsUp_of_take take)

theorem Loop.windsUp {r : Except Stop (Option Outcome)} (loop : Loop w h r es h') : ∀ e ∈ es, e.windsUp = false := by
  induction loop with
  | unfinished => simp
  | ended turn | stopped turn => exact turn.windsUp
  | next turn rest ih => exact windsUp_append turn.windsUp ih

/-- Nothing but a fault of the freezer itself stops a release. -/
theorem letGo_breaks {f : Fault} (broke : letGo c result s = (.error (.fault f), t)) : c.Breaks f := by
  have released (broke : release c s = (.error (.fault f), t)) : c.Breaks f := by
    rw [release, Act.discard_apply] at broke
    rcases attempted : Snapshot.attempt (Act.request c .thawed >>= fun _ => discard (Act.observe c)) s with ⟨a, u⟩
    rw [attempted] at broke
    cases a with
    | ok => cases broke
    | error stop =>
      cases broke
      obtain ⟨f', same, failed⟩ := Snapshot.attempt_error attempted
      cases same
      obtain ⟨stop, refused, same⟩ | ⟨⟨⟩, v, -, looked⟩ := Act.bind_cases failed
      · cases same
        exact ⟨_, .inl (congrArg Prod.fst refused)⟩
      · rw [Act.discard_apply] at looked
        rcases seen : Act.observe c v with ⟨stop | answer, x⟩ <;> rw [seen] at looked <;> cases looked
        exact ⟨_, .inr (congrArg Prod.fst seen)⟩
  by_cases exited : result = .ok .subjectExited
  · subst exited
    cases broke
  · rw [letGo_other exited] at broke
    exact released broke

/-! ## Winding up -/

/-- How a run, begun in session `s`, is wound up whose loop came to a result in session `m`: what it comes
to, and in which session, if `left` are the files when the groups are to be removed. -/
structure WoundUp (w : Watch) (s m : Session σ) (result : Except MonitorError Outcome) (left : FileTree)
    (r : Except Stop (Option Report)) (v : Session σ) : Prop where
  /-- Nothing of it happens in the loop. -/
  loop : ∃ looping, m.events = s.events ++ looping ∧ ∀ e ∈ looping, e.windsUp = false
  /-- After the thaw, if that is due, the groups are removed, and then the summary is written, once. -/
  order : ∃ released, Unhands result released ∧ v.events = m.events ++ (released ++ [.groupsRemoved,
    .summaryWritten ((w.summary m.history).write (w.groups.destroy left) w.summaryPath).toOption.isSome])
  /-- What is written is the summary of the final history, to the files without the groups. -/
  files : v.files =
    ((w.summary m.history).write (w.groups.destroy left) w.summaryPath).toOption.getD (w.groups.destroy left)
  history : v.history = m.history
  /-- An error of the loop is what the run comes to. -/
  loopError : ∀ e, result = .error e → r = .error (.error e)
  /-- An error of the writing is what the run comes to if the loop succeeded. -/
  writeError : ∀ outcome e, result = .ok outcome →
    (w.summary m.history).write (w.groups.destroy left) w.summaryPath = .error e → r = .error (.error e)
  /-- There is a report if and only if both succeeded. -/
  reports : ∀ report, r = .ok (some report) ↔ ∃ outcome files, result = .ok outcome ∧
    (w.summary m.history).write (w.groups.destroy left) w.summaryPath = .ok files ∧
    report = ⟨outcome, w.summary m.history, w.summaryPath⟩
  /-- The summary of the report is what its file contains. -/
  stored : ∀ report, r = .ok (some report) →
    v.files.read report.summaryPath = .ok (Bytes.ofString report.summary.text)

/-- There is a report exactly if the loop and the writing succeeded. -/
theorem report_eq_ok {written : Except MonitorError FileTree} {told : Report} :
    w.report h result written = .ok told ↔
      ∃ outcome files, result = .ok outcome ∧ written = .ok files ∧ told = ⟨outcome, w.summary h, w.summaryPath⟩ := by
  constructor
  · intro ok
    cases result with
    | error e => cases ok
    | ok outcome =>
      cases written <;> cases ok
      exact ⟨outcome, _, rfl, rfl, rfl⟩
  · rintro ⟨outcome, files, rfl, rfl, rfl⟩
    rfl

theorem stopping_map_eq_ok {r : Except MonitorError Report} {told : Report} :
    (stopping r).map some = .ok (some told) ↔ r = .ok told := by
  constructor
  · intro ok
    cases r <;> cases ok
    rfl
  · rintro rfl
    rfl

/-- The file of a summary contains its text. -/
theorem write_read {summary : Summary} {files files' : FileTree} {p : Path} (wrote : summary.write files p = .ok files') :
    files'.read p = .ok (Bytes.ofString summary.text) := by
  unfold Summary.write at wrote
  cases written : files.write p (Bytes.ofString summary.text) with
  | error e =>
    rw [written] at wrote
    cases wrote
  | ok files'' =>
    rw [written] at wrote
    cases wrote
    exact FileTree.read_write written

theorem run_eq {turns : Nat} (ended : w.monitor c turns s = (stopping (result.map some), m)) :
    w.run c turns s = ((w.finish c result m).1.map some, (w.finish c result m).2) := by
  rw [run, Act.bind_ok (Snapshot.attempt_apply ended)]
  have wrapped (act : Act σ Report) : (do return some (← act) : Act σ (Option Report)) m =
      ((act m).1.map some, (act m).2) := by
    rcases ran : act m with ⟨stop | report, v⟩
    · exact Act.bind_error ran
    · exact Act.bind_ok ran
  cases result with
  | error e => exact wrapped _
  | ok outcome => exact wrapped _

theorem run_of_fault {turns : Nat} {f : Fault} (stopped : w.monitor c turns s = (.error (.fault f), m)) :
    w.run c turns s = (.error (.fault f), m) :=
  Act.bind_error (Snapshot.attempt_fault stopped)

theorem run_of_unfinished {turns : Nat} (unfinished : w.monitor c turns s = (.ok none, m)) :
    w.run c turns s = (.ok none, m) := by
  have result : w.monitor c turns s = (stopping (.ok none), m) := unfinished
  rw [run, Act.bind_ok (Snapshot.attempt_apply result)]
  rfl

/-- A fault of the winding up is one of the freezer. -/
theorem finish_breaks {f : Fault} (broke : w.finish c result m = (.error (.fault f), t)) : c.Breaks f := by
  rw [finish_eq] at broke
  obtain ⟨stop, stopped, same⟩ | ⟨⟨⟩, u, -, concluded⟩ := Act.bind_cases broke
  · cases same
    exact letGo_breaks stopped
  · rw [conclude_apply] at concluded
    exact absurd (congrArg Prod.fst concluded) (Snapshot.stopping_ne_fault _ f)

/-- How a run concludes whose loop came to `q` in session `m`: what it comes to, in which session, and what is noted
after the loop. -/
inductive Concludes (c : Collaborators σ) (w : Watch) : Except Stop (Option Outcome) → Session σ →
    Except Stop (Option Report) → Session σ → List Event → Prop where
  /-- A fault stopped the loop. -/
  | stopped (f : Fault) (m : Session σ) : Concludes c w (.error (.fault f)) m (.error (.fault f)) m []
  /-- The turns of the loop were not enough. -/
  | unfinished (m : Session σ) : Concludes c w (.ok none) m (.ok none) m []
  /-- A fault of the freezer stopped the release. -/
  | broken {result : Except MonitorError Outcome} {f : Fault} {m v : Session σ} {es : List Event} (breaks : c.Breaks f)
      (released : Unhands result es) (added : m.Adds es v) :
      Concludes c w (stopping (result.map some)) m (.error (.fault f)) v es
  /-- The run was wound up, and at last the summary was written, if possible. -/
  | wound {result : Except MonitorError Outcome} {files : FileTree} {written : Except MonitorError FileTree}
      {m v : Session σ} {es : List Event} (released : Unhands result es)
      (wrote : (w.summary m.history).write files w.summaryPath = written)
      (added : m.Adds (es ++ [.groupsRemoved, .summaryWritten written.toOption.isSome]) v)
      (left : v.files = written.toOption.getD files) :
      Concludes c w (stopping (result.map some)) m ((stopping (w.report m.history result written)).map some) v
        (es ++ [.groupsRemoved, .summaryWritten written.toOption.isSome])

section Concludes

variable {q : Except Stop (Option Outcome)} {r : Except Stop (Option Report)} {v : Session σ}

theorem Concludes.adds (ends : Concludes c w q m r v es) : m.Adds es v := by
  cases ends with
  | stopped | unfinished => exact .refl m
  | broken breaks released added => exact added
  | wound released wrote added left => exact added

/-- A report is of the outcome that the loop came to and of all that was recorded, and it was written. -/
theorem Concludes.report (ends : Concludes c w q m r v es) {report : Report} (told : r = .ok (some report)) :
    q = .ok (some report.outcome) ∧ report.summary = w.summary m.history ∧ .summaryWritten true ∈ es := by
  cases ends with
  | stopped | unfinished | broken => cases told
  | wound released wrote added left =>
    obtain ⟨outcome, files, rfl, rfl, rfl⟩ := report_eq_ok.1 (stopping_map_eq_ok.1 told)
    exact ⟨rfl, rfl, by simp [Except.toOption]⟩

/-- A run that ends with an error has been wound up, too. -/
theorem Concludes.writes (ends : Concludes c w q m r v es) {e : MonitorError} (failed : r = .error (.error e)) :
    (∀ f, q ≠ .error (.fault f)) ∧
      ∃ files written, (w.summary m.history).write files w.summaryPath = written ∧
        es.getLast? = some (.summaryWritten written.toOption.isSome) ∧ v.files = written.toOption.getD files := by
  cases ends with
  | stopped | unfinished | broken => cases failed
  | wound released wrote added left =>
    exact ⟨Snapshot.stopping_ne_fault _, _, _, wrote, by simp, left⟩

end Concludes

/-- Every run concludes in one of these ways. -/
theorem run_concludes {turns : Nat} {q : Except Stop (Option Outcome)} (ran : w.monitor c turns s = (q, m)) :
    ∃ es, Concludes c w q m (w.run c turns s).1 (w.run c turns s).2 es := by
  have finished (result : Except MonitorError Outcome) (ended : w.monitor c turns s = (stopping (result.map some), m)) :
      ∃ es, Concludes c w (stopping (result.map some)) m (w.run c turns s).1 (w.run c turns s).2 es := by
    rw [run_eq ended]
    rcases finished : w.finish c result m with ⟨r, v⟩
    cases finish_finishes finished with
    | fault added released => exact ⟨_, .broken (finish_breaks finished) released added⟩
    | done released wrote added left => exact ⟨_, .wound released wrote added left⟩
  rcases q with (e | f) | _ | outcome
  · exact finished (.error e) ran
  · rw [run_of_fault ran]
    exact ⟨[], .stopped f m⟩
  · rw [run_of_unfinished ran]
    exact ⟨[], .unfinished m⟩
  · exact finished (.ok outcome) ran

/-- **Every run is wound up the same way**, unless the freezer itself breaks down. -/
theorem run_winds_up (c : Collaborators σ) (w : Watch) (turns : Nat) (s m : Session σ)
    (result : Except MonitorError Outcome) (ended : w.monitor c turns s = (stopping (result.map some), m)) :
    (∃ f, c.Breaks f ∧ (w.run c turns s).1 = .error (.fault f)) ∨
      ∃ u, letGo c result m = (.ok (), u) ∧
        WoundUp w s m result u.files (w.run c turns s).1 (w.run c turns s).2 := by
  obtain ⟨looping, looped, loop⟩ := monitor_loops ended
  rw [run_eq ended, finish_eq]
  rcases gone : letGo c result m with ⟨stop | ⟨⟩, u⟩
  · -- a release ends early with a fault only: its errors are dropped
    obtain ⟨es, -, -, goes⟩ := letGo_unhands gone
    cases stop with
    | error e => exact absurd rfl (goes e)
    | fault f =>
      rw [Act.bind_error gone]
      exact .inl ⟨f, letGo_breaks gone, rfl⟩
  · obtain ⟨released, added, unhands, -⟩ := letGo_unhands gone
    have winding := concluded_adds w u
    have files : (w.concluded u).files =
      ((w.summary u.history).write (w.groups.destroy u.files) w.summaryPath).toOption.getD (w.groups.destroy u.files) := rfl
    rw [added.history] at winding files
    rw [Act.bind_ok gone, conclude_apply, added.history]
    have reports (report : Report) : (stopping (w.report m.history result
        ((w.summary m.history).write (w.groups.destroy u.files) w.summaryPath))).map some = .ok (some report) ↔
        ∃ outcome files, result = .ok outcome ∧
          (w.summary m.history).write (w.groups.destroy u.files) w.summaryPath = .ok files ∧
          report = ⟨outcome, w.summary m.history, w.summaryPath⟩ := by
      rw [stopping_map_eq_ok, report_eq_ok]
    refine .inr ⟨u, rfl, {
      loop := ⟨looping, looped, loop.windsUp⟩
      order := ⟨released, unhands, by rw [winding.events, added.events, List.append_assoc]⟩
      files := files
      history := winding.history.trans added.history
      loopError := ?loopError
      writeError := ?writeError
      reports := reports
      stored := ?stored }⟩
    case loopError =>
      rintro e rfl
      rfl
    case writeError =>
      rintro outcome e rfl failed
      rw [failed]
      rfl
    case stored =>
      intro report told
      obtain ⟨outcome, written, -, wrote, rfl⟩ := (reports report).1 told
      rw [files, wrote]
      exact write_read wrote

/-- The small run is wound up with its report written. -/
theorem run_winds_up_small : ∃ u,
    letGo Small.machine (.ok .interrupted) (Small.watch.monitor Small.machine 10 Small.after).2 = (.ok (), u) ∧
      WoundUp Small.watch Small.after (Small.watch.monitor Small.machine 10 Small.after).2 (.ok .interrupted) u.files
        (Small.watch.run Small.machine 10 Small.after).1 (Small.watch.run Small.machine 10 Small.after).2 := by
  have interrupted : (Small.watch.monitor Small.machine 10 Small.after).1 = .ok (some .interrupted) :=
    Act.ok_of_toOption (by decide +kernel)
  obtain ⟨f, -, broke⟩ | wound := run_winds_up Small.machine Small.watch 10 Small.after
    (Small.watch.monitor Small.machine 10 Small.after).2 (.ok .interrupted) (Prod.ext interrupted rfl)
  · rw [Small.reports] at broke
    cases broke
  · exact wound

end Watch

end HeapSampler

import HeapSampler.Program
import HeapSampler.Proofs.Run.FailedStart
import HeapSampler.Proofs.Run.Going
import HeapSampler.Proofs.Run.WindUp

/-!
# What the exit status tells

The program reads its arguments, its log filter and its settings, starts a run and watches it, and any of these may be
the last thing it does. `Goes` lists the ways in which that can go, each with what is noted of it, and the exit status
is told by the way that was gone (`run_tells_truth`).
-/

namespace HeapSampler

open Snapshot (stopping)

/-! ## Runs with and without a summary -/

/-- No summary was written, and none was tried to be written. -/
def NoSummary (es : List Event) : Prop :=
  ∀ written, .summaryWritten written ∉ es

theorem NoSummary.of_windsUp {es : List Event} (quiet : ∀ e ∈ es, e.windsUp = false) : NoSummary es := by
  intro written found
  cases quiet _ found

/-- Only what comes after it tells whether a summary was written. -/
theorem NoSummary.mem_append_iff {es fs : List Event} (quiet : NoSummary es) {written : Bool} :
    .summaryWritten written ∈ es ++ fs ↔ .summaryWritten written ∈ fs := by
  have earlier : ¬ .summaryWritten written ∈ es := quiet written
  rw [List.mem_append, or_iff_right earlier]

namespace Watch

variable {σ : Type} {c : Collaborators σ} {w : Watch} {turns : Nat} {s t u m : Session σ} {es : List Event}

theorem Unhands.noSummary {result : Except MonitorError Outcome} (unhands : Unhands result es) : NoSummary es := by
  intro written found
  by_cases exited : result = .ok .subjectExited
  · rw [unhands.1 exited] at found
    cases found
  · cases unhands.2 exited <;> simp at found

/-- The last that is noted of a winding up tells whether the summary was written. -/
theorem Unhands.wrote_iff {result : Except MonitorError Outcome} {b written : Bool} (unhands : Unhands result es) :
    .summaryWritten written ∈ es ++ [.groupsRemoved, .summaryWritten b] ↔ b = written := by
  rw [unhands.noSummary.mem_append_iff]
  simp [eq_comm]

section Start

variable {launcher : Launcher} {plan : RunPlan} {settings : Settings} {env : Environment}

/-- A start notes the launch of its subject and nothing else, and stops with errors only. -/
theorem start_notes {r : Except Stop Watch} (ran : start launcher plan settings env s = (r, t)) :
    (∃ w, r = .ok w ∧ t.events = s.events ++ [.launched w.pid]) ∨
      ∃ e es, r = .error (.error e) ∧ t.events = s.events ++ es ∧ NoSummary es := by
  cases start_starts ran with
  | @unready e => exact .inr ⟨e, [], rfl, by simp, by simp [NoSummary]⟩
  | @unlaunched site e files found late spares =>
    exact .inr ⟨e, [], rfl, by simp [Session.events, Session.timeline], by simp [NoSummary]⟩
  | @unattached site e files pid _ found late prepared spares gone events =>
    exact .inr ⟨e, _, rfl, events, by simp [NoSummary]⟩
  | started prepared events => exact .inl ⟨_, rfl, events⟩

/-- Between two sessions the file for the summary is neither made nor changed, unless it is one that a start writes
to. -/
def KeepsSummary (plan : RunPlan) (settings : Settings) (env : Environment) (s t : Session σ) : Prop :=
  t.files = s.files ∨ ∃ site, survey plan settings env s.files = .ok site ∧
    (s.files.place (site.summary settings) ∉ site.written plan settings s.files → ∀ content,
      t.files.node? (s.files.place (site.summary settings)) = some (.file content) ↔
        s.files.node? (s.files.place (site.summary settings)) = some (.file content))

theorem start_keeps_summary {stop : Stop} (failed : start launcher plan settings env s = (.error stop, t)) :
    KeepsSummary plan settings env s t := by
  cases start_starts failed with
  | unready => exact .inl rfl
  | @unlaunched site _ _ found late spares => exact .inr ⟨site, found, fun apart => spares.same _ apart⟩
  | @unattached site _ _ _ _ found late prepared spares => exact .inr ⟨site, found, fun apart => spares.same _ apart⟩

end Start

/-- A monitor that has been asked to stop before it begins comes to nothing but that. -/
theorem monitor_asked (c : Collaborators σ) (w : Watch) (turns : Nat) (asked : t.cancelled = true)
    {result : Except MonitorError Outcome} (came : (w.monitor c turns t).1 = stopping (result.map some)) :
    (w.monitor c turns t).1 = .ok (some .interrupted) := by
  obtain faulty | ⟨wake, looping⟩ := monitor_cases c w t
  · rw [faulty] at came
    cases result <;> cases came
  · rw [looping] at came ⊢
    cases turns with
    | zero => cases result <;> cases came
    | succ turns => rw [loop_of_ending (turn_of_asked c w _ asked) rfl]

section Concludes

variable {q : Except Stop (Option Outcome)} {r : Except Stop (Option Report)} {v : Session σ}

/-- There is a report of an outcome if and only if the loop came to it and the summary was written. -/
theorem Concludes.reports_iff (ends : Concludes c w q m r v es) (outcome : Outcome) :
    (∃ report, r = .ok (some report) ∧ report.outcome = outcome) ↔
      q = .ok (some outcome) ∧ .summaryWritten true ∈ es := by
  constructor
  · rintro ⟨report, told, rfl⟩
    obtain ⟨came, -, wrote⟩ := ends.report told
    exact ⟨came, wrote⟩
  · rintro ⟨came, wrote⟩
    cases ends with
    | stopped | unfinished => cases came
    | broken breaks released added => exact absurd wrote (released.noSummary true)
    | @wound result files written m v es released wrote' added left =>
      cases result <;> cases came
      have done := released.wrote_iff.1 wrote
      cases written <;> cases done
      exact ⟨_, rfl, rfl⟩

/-- An error of the loop is what the run comes to, unless the freezer itself breaks down. -/
theorem Concludes.sampling (ends : Concludes c w q m r v es) {e : MonitorError} (failed : q = .error (.error e)) :
    r = .error (.error e) ∨ ∃ f, r = .error (.fault f) ∧ c.Breaks f := by
  cases ends with
  | stopped | unfinished => cases failed
  | broken breaks released added => exact .inr ⟨_, rfl, breaks⟩
  | @wound result files written m v es released wrote added left =>
    cases result <;> cases failed
    exact .inl rfl

/-- A run whose summary could not be written comes to an error. -/
theorem Concludes.writing (ends : Concludes c w q m r v es) (unwritten : .summaryWritten false ∈ es) :
    ∃ e, r = .error (.error e) := by
  cases ends with
  | stopped | unfinished => cases unwritten
  | broken breaks released added => exact absurd unwritten (released.noSummary false)
  | @wound result files written m v es released wrote added left =>
    have failed := released.wrote_iff.1 unwritten
    match result, written with
    | .error e, _ => exact ⟨e, rfl⟩
    | .ok outcome, .error e => exact ⟨e, rfl⟩
    | .ok outcome, .ok files => cases failed

/-- A run was wound up if its summary was written. -/
theorem Concludes.came (ends : Concludes c w q m r v es) (wrote : .summaryWritten true ∈ es) :
    ∃ result : Except MonitorError Outcome, q = stopping (result.map some) := by
  cases ends with
  | stopped | unfinished => cases wrote
  | broken | wound => exact ⟨_, rfl⟩

end Concludes

end Watch

/-! ## The ways of the program -/

namespace Program

open Watch (Concludes)

section General

variable {σ : Type} {launcher : Launcher} {c : Groups → Collaborators σ} {turns : Nat} {arguments : List String}
  {env : Environment} {s t v : Session σ}

/-- What the program has read when it starts a run. -/
structure Reads (arguments : List String) (env : Environment) (s : Session σ) (asked : CommandLine.Arguments)
    (tuned : Settings) : Prop where
  parsed : CommandLine.parse s.files arguments = .ok asked
  filtered : LogFilter.checkIn env = .ok ()
  loaded : settings s.files asked.config = .ok tuned

/-- The run that the program has started, and the session in which it begins to watch it. -/
def Began (launcher : Launcher) (arguments : List String) (env : Environment) (s : Session σ) (w : Watch)
    (t : Session σ) : Prop :=
  ∃ asked tuned, Reads arguments env s asked tuned ∧ Watch.start launcher asked.plan tuned env s = (.ok w, t)

/-- What the program comes to by a run, if the run has ended. -/
def ended : Except Stop (Option Report) → Option (Except ProgramError Report)
  | .ok none => none
  | .ok (some report) => some (.ok report)
  | .error (.error e) => some (.error (.run e))
  | .error (.fault f) => some (.error (.fault f))

section Stages

variable {asked : CommandLine.Arguments} {tuned : Settings}

theorem run_of_misused {e : CommandLine.UsageError} (wrong : CommandLine.parse s.files arguments = .error e) :
    run launcher c turns arguments env s = (some (.error (.usage e)), s) := by
  simp only [run, wrong]

theorem run_of_misfiltered {f : LogFilter.Flaw} (parsed : CommandLine.parse s.files arguments = .ok asked)
    (wrong : LogFilter.checkIn env = .error f) :
    run launcher c turns arguments env s = (some (.error (.logFilter f)), s) := by
  simp only [run, parsed, wrong]

theorem run_of_misconfigured {e : SettingsError} (parsed : CommandLine.parse s.files arguments = .ok asked)
    (filtered : LogFilter.checkIn env = .ok ()) (wrong : settings s.files asked.config = .error e) :
    run launcher c turns arguments env s = (some (.error (.settings e)), s) := by
  simp only [run, parsed, filtered, wrong]

theorem run_of_reads (reads : Reads arguments env s asked tuned) :
    run launcher c turns arguments env s =
      (ended (runPlan launcher c turns asked.plan tuned env s).1, (runPlan launcher c turns asked.plan tuned env s).2) := by
  simp only [run, reads.parsed, reads.filtered, reads.loaded]
  rcases runPlan launcher c turns asked.plan tuned env s with ⟨(e | f) | _ | report, t⟩ <;> rfl

theorem run_of_unstarted {e : MonitorError} (reads : Reads arguments env s asked tuned)
    (failed : Watch.start launcher asked.plan tuned env s = (.error (.error e), t)) :
    run launcher c turns arguments env s = (some (.error (.run e)), t) := by
  rw [run_of_reads reads, runPlan, Act.bind_error failed]
  rfl

theorem run_of_started {w : Watch} (reads : Reads arguments env s asked tuned)
    (started : Watch.start launcher asked.plan tuned env s = (.ok w, t)) :
    run launcher c turns arguments env s =
      (ended (w.run (c w.groups) turns t).1, (w.run (c w.groups) turns t).2) := by
  rw [run_of_reads reads, runPlan, Act.bind_ok started]

end Stages

/-- A run that was begun in session `t` comes to `q`: what was noted until its loop ended, and what after that. -/
structure Watched (c : Collaborators σ) (w : Watch) (turns : Nat) (t : Session σ) (q : Except Stop (Option Report))
    (v : Session σ) (before winding : List Event) : Prop where
  launched : .launched w.pid ∈ before
  quiet : NoSummary before
  concludes : Concludes c w (w.monitor c turns t).1 (w.monitor c turns t).2 q v winding

/-- How the program can go: what it comes to, and what is noted of it. -/
inductive Goes (launcher : Launcher) (c : Groups → Collaborators σ) (turns : Nat) (arguments : List String)
    (env : Environment) (s : Session σ) : Except ProgramError Report → List Event → Prop where
  /-- The arguments were wrong, or asked for no run. -/
  | misused {e : CommandLine.UsageError} (parsed : CommandLine.parse s.files arguments = .error e) :
      Goes launcher c turns arguments env s (.error (.usage e)) []
  /-- The log filter was wrong. -/
  | misfiltered (f : LogFilter.Flaw) : Goes launcher c turns arguments env s (.error (.logFilter f)) []
  /-- There were no settings to be had. -/
  | misconfigured (e : SettingsError) : Goes launcher c turns arguments env s (.error (.settings e)) []
  /-- The start failed. -/
  | unstarted {e : MonitorError} {es : List Event} (quiet : NoSummary es) :
      Goes launcher c turns arguments env s (.error (.run e)) es
  /-- A run was started and watched to its end. -/
  | watched {w : Watch} {t v : Session σ} {q : Except Stop (Option Report)} {r : Except ProgramError Report}
      {before winding : List Event} (began : Began launcher arguments env s w t)
      (ran : Watched (c w.groups) w turns t q v before winding) (came : ended q = some r) :
      Goes launcher c turns arguments env s r (before ++ winding)

section Goes

variable {r : Except ProgramError Report} {es : List Event} {w : Watch}

/-- A program that has started a run comes to what the run comes to. -/
theorem run_of_began (told : run launcher c turns arguments env s = (some r, v))
    (began : Began launcher arguments env s w t) : ∃ q before winding, ended q = some r ∧
      v.events = s.events ++ (before ++ winding) ∧ Watched (c w.groups) w turns t q v before winding := by
  obtain ⟨asked, tuned, reads, started⟩ := began
  obtain ⟨_, ⟨⟩, launched⟩ | ⟨e, es, ⟨⟩, -⟩ := Watch.start_notes started
  rcases monitored : w.monitor (c w.groups) turns t with ⟨q, m⟩
  obtain ⟨looping, looped, loop⟩ := Watch.monitor_loops monitored
  obtain ⟨winding, ends⟩ := Watch.run_concludes monitored
  rw [run_of_started reads started] at told
  obtain ⟨came, rfl⟩ := Prod.mk.inj told
  have quiet : NoSummary (.launched w.pid :: looping) := by
    apply NoSummary.of_windsUp
    rintro e (_ | ⟨_, found⟩)
    · rfl
    · exact loop.windsUp e found
  refine ⟨_, .launched w.pid :: looping, winding, came, ?_, List.mem_cons_self, quiet, ?_⟩
  · rw [ends.adds.events, looped, launched]
    simp
  · rw [monitored]
    exact ends

/-- A program that ends has gone one of these ways. -/
theorem run_goes (told : run launcher c turns arguments env s = (some r, v)) :
    ∃ es, v.events = s.events ++ es ∧ Goes launcher c turns arguments env s r es := by
  have nothing : s.events = s.events ++ [] := (List.append_nil _).symm
  cases parsed : CommandLine.parse s.files arguments with
  | error e =>
    rw [run_of_misused parsed] at told
    cases told
    exact ⟨[], nothing, .misused parsed⟩
  | ok asked =>
    cases filtered : LogFilter.checkIn env with
    | error f =>
      rw [run_of_misfiltered parsed filtered] at told
      cases told
      exact ⟨[], nothing, .misfiltered f⟩
    | ok =>
      cases loaded : settings s.files asked.config with
      | error e =>
        rw [run_of_misconfigured parsed filtered loaded] at told
        cases told
        exact ⟨[], nothing, .misconfigured e⟩
      | ok tuned =>
        have reads : Reads arguments env s asked tuned := ⟨parsed, filtered, loaded⟩
        rcases started : Watch.start launcher asked.plan tuned env s with ⟨q, t⟩
        obtain ⟨w, rfl, -⟩ | ⟨e, es, rfl, noted, quiet⟩ := Watch.start_notes started
        · have began : Began launcher arguments env s w t := ⟨asked, tuned, reads, started⟩
          obtain ⟨q, before, winding, came, noted, ran⟩ := run_of_began told began
          exact ⟨_, noted, .watched began ran came⟩
        · rw [run_of_unstarted reads started] at told
          cases told
          exact ⟨es, noted, .unstarted quiet⟩

/-- Only the arguments make the program come to a usage error. -/
theorem usage_iff (told : run launcher c turns arguments env s = (some r, v)) {e : CommandLine.UsageError} :
    r = .error (.usage e) ↔ CommandLine.parse s.files arguments = .error e := by
  constructor
  · rintro rfl
    obtain ⟨es, -, goes⟩ := run_goes told
    cases goes with
    | misused parsed => exact parsed
    | @watched w t v q _ before winding began ran came => rcases q with (e | f) | _ | report <;> cases came
  · intro wrong
    rw [run_of_misused wrong] at told
    cases told
    rfl

/-- A run was started, its loop came to this outcome, and its summary was written. -/
def Completed (launcher : Launcher) (c : Groups → Collaborators σ) (turns : Nat) (arguments : List String)
    (env : Environment) (s : Session σ) (es : List Event) (outcome : Outcome) : Prop :=
  ∃ w t, Began launcher arguments env s w t ∧ .launched w.pid ∈ es ∧
    (w.monitor (c w.groups) turns t).1 = .ok (some outcome) ∧ .summaryWritten true ∈ es

/-- The program reports an outcome if and only if a run was completed with it. -/
theorem reports_iff (told : run launcher c turns arguments env s = (some r, v)) (events : v.events = s.events ++ es)
    (outcome : Outcome) :
    (∃ report, r = .ok report ∧ report.outcome = outcome) ↔ Completed launcher c turns arguments env s es outcome := by
  constructor
  · rintro ⟨report, rfl, rfl⟩
    obtain ⟨es', noted, goes⟩ := run_goes told
    obtain rfl : es = es' := List.append_cancel_left (events.symm.trans noted)
    cases goes with
    | @watched w t v q _ before winding began ran came =>
      rcases q with (e | f) | _ | report' <;> cases came
      obtain ⟨came, wrote⟩ := (ran.concludes.reports_iff _).1 ⟨report, rfl, rfl⟩
      exact ⟨w, t, began, List.mem_append_left _ ran.launched, came, ran.quiet.mem_append_iff.2 wrote⟩
  · rintro ⟨w, t, began, -, ended, wrote⟩
    obtain ⟨q, before, winding, came, noted, ran⟩ := run_of_began told began
    obtain rfl := List.append_cancel_left (events.symm.trans noted)
    obtain ⟨report, rfl, same⟩ := (ran.concludes.reports_iff outcome).2 ⟨ended, ran.quiet.mem_append_iff.1 wrote⟩
    cases came
    exact ⟨report, rfl, same⟩

end Goes

/-! ## The exit status -/

theorem exitStatus_eq_interrupted {r : Except ProgramError Report} :
    exitStatus r = interruptedStatus ↔ ∃ report, r = .ok report ∧ report.outcome = .interrupted := by
  rcases r with (e | f | e | e | f) | ⟨outcome, summary, path⟩
  · cases e <;> simp [exitStatus, interruptedStatus, CommandLine.UsageError.exitStatus]
  · simp [exitStatus, interruptedStatus]
  · simp [exitStatus, interruptedStatus]
  · simp [exitStatus, interruptedStatus]
  · simp [exitStatus, interruptedStatus, faultStatus]
  · cases outcome <;> simp [exitStatus, interruptedStatus]

theorem exitStatus_eq_zero {r : Except ProgramError Report} :
    exitStatus r = 0 ↔ (r = .error (.usage .displayHelp) ∨ r = .error (.usage .displayVersion)) ∨
      ∃ report, r = .ok report ∧ report.outcome = .subjectExited := by
  rcases r with (e | f | e | e | f) | ⟨outcome, summary, path⟩
  · cases e <;> simp [exitStatus, CommandLine.UsageError.exitStatus]
  · simp [exitStatus]
  · simp [exitStatus]
  · simp [exitStatus]
  · simp [exitStatus, faultStatus]
  · cases outcome <;> simp [exitStatus, interruptedStatus]

/-- What the exit status tells of a program that came to `r` in session `v`, where `es` was noted of it. -/
structure TellsTruth (launcher : Launcher) (c : Groups → Collaborators σ) (turns : Nat) (arguments : List String)
    (env : Environment) (s v : Session σ) (r : Except ProgramError Report) (es : List Event) : Prop where
  events : v.events = s.events ++ es
  /-- With wrong arguments nothing is done. -/
  usage : ∀ e, CommandLine.parse s.files arguments = .error e → e ≠ .displayHelp → e ≠ .displayVersion →
    exitStatus r = 2 ∧ v = s
  /-- Zero says that the loop of a started run found the subject ended and that the summary was written, unless help or
  the version was asked for. -/
  exited : exitStatus r = 0 ↔
    (CommandLine.parse s.files arguments = .error .displayHelp ∨
      CommandLine.parse s.files arguments = .error .displayVersion) ∨
    Completed launcher c turns arguments env s es .subjectExited
  /-- 130 says that the loop of a started run was interrupted and that the summary was written. -/
  interrupted : exitStatus r = 130 ↔ Completed launcher c turns arguments env s es .interrupted
  /-- A request to stop that has come before the end of the start interrupts the run. -/
  asked : ∀ w t, Began launcher arguments env s w t → t.cancelled = s.cancelled ∧
    (t.cancelled = true → .summaryWritten true ∈ es → exitStatus r = 130)
  /-- Without a log filter that can be read, or without settings, nothing is done. -/
  misconfigured : ∀ asked, CommandLine.parse s.files arguments = .ok asked →
    ((∃ f, LogFilter.checkIn env = .error f) ∨ ∃ e, settings s.files asked.config = .error e) →
    exitStatus r = 1 ∧ v = s ∧ NoSummary es
  /-- A start that fails writes no summary, and leaves the file for it alone. -/
  unstarted : ∀ asked tuned e t, Reads arguments env s asked tuned →
    Watch.start launcher asked.plan tuned env s = (.error (.error e), t) →
    exitStatus r = 1 ∧ v = t ∧ NoSummary es ∧ Watch.KeepsSummary asked.plan tuned env s v
  /-- An error of the loop is told, unless the freezer itself breaks down. -/
  sampling : ∀ w t e, Began launcher arguments env s w t →
    (w.monitor (c w.groups) turns t).1 = .error (.error e) →
    exitStatus r = 1 ∨ ∃ f, r = .error (.fault f) ∧ (c w.groups).Breaks f
  /-- A summary that could not be written is told. -/
  unwritten : .summaryWritten false ∈ es → exitStatus r = 1

/-- **The exit status tells the truth about the run.** -/
theorem run_tells_truth (launcher : Launcher) (c : Groups → Collaborators σ) (turns : Nat) (arguments : List String)
    (env : Environment) (s v : Session σ) (r : Except ProgramError Report)
    (told : run launcher c turns arguments env s = (some r, v)) :
    ∃ es, TellsTruth launcher c turns arguments env s v r es := by
  obtain ⟨es, events, goes⟩ := run_goes told
  have interrupted : exitStatus r = 130 ↔ Completed launcher c turns arguments env s es .interrupted :=
    exitStatus_eq_interrupted.trans (reports_iff told events .interrupted)
  refine ⟨es, ?_⟩
  constructor
  case events => exact events
  case usage =>
    intro e wrong noHelp noVersion
    rw [run_of_misused wrong] at told
    cases told
    refine ⟨?_, rfl⟩
    cases e <;> simp_all [exitStatus, CommandLine.UsageError.exitStatus]
  case exited => rw [exitStatus_eq_zero, usage_iff told, usage_iff told, reports_iff told events]
  case interrupted => exact interrupted
  case asked =>
    intro w t began
    obtain ⟨q, before, winding, -, noted, ran⟩ := run_of_began told began
    obtain rfl := List.append_cancel_left (events.symm.trans noted)
    constructor
    · obtain ⟨asked, tuned, -, started⟩ := began
      have kept := Watch.start_leaves Session.cancelled_aloof launcher asked.plan tuned env s
      rwa [started] at kept
    · intro cancelled wrote
      obtain ⟨result, came⟩ := ran.concludes.came (ran.quiet.mem_append_iff.1 wrote)
      have stopped := Watch.monitor_asked (c w.groups) w turns cancelled came
      exact interrupted.2 ⟨w, t, began, List.mem_append_left _ ran.launched, stopped, wrote⟩
  case misconfigured =>
    intro asked parsed wrong
    have stays : exitStatus r = 1 ∧ v = s := by
      cases filtered : LogFilter.checkIn env with
      | error f =>
        rw [run_of_misfiltered parsed filtered] at told
        cases told
        exact ⟨rfl, rfl⟩
      | ok =>
        obtain ⟨f, flawed⟩ | ⟨e, unloaded⟩ := wrong
        · rw [filtered] at flawed
          cases flawed
        · rw [run_of_misconfigured parsed filtered unloaded] at told
          cases told
          exact ⟨rfl, rfl⟩
    obtain ⟨status, rfl⟩ := stays
    obtain rfl : es = [] := by simpa using events
    exact ⟨status, rfl, by simp [NoSummary]⟩
  case unstarted =>
    intro asked tuned e t reads failed
    rw [run_of_unstarted reads failed] at told
    cases told
    obtain ⟨_, ⟨⟩, -⟩ | ⟨_, es', -, noted, quiet⟩ := Watch.start_notes failed
    obtain rfl := List.append_cancel_left (events.symm.trans noted)
    exact ⟨rfl, rfl, quiet, Watch.start_keeps_summary failed⟩
  case sampling =>
    intro w t e began failed
    obtain ⟨q, before, winding, came, -, ran⟩ := run_of_began told began
    obtain rfl | ⟨f, rfl, breaks⟩ := ran.concludes.sampling failed
    · cases came
      exact .inl rfl
    · cases came
      exact .inr ⟨f, rfl, breaks⟩
  case unwritten =>
    intro failed
    cases goes with
    | misused | misfiltered | misconfigured => cases failed
    | unstarted quiet => exact absurd failed (quiet false)
    | watched began ran came =>
      obtain ⟨e, rfl⟩ := ran.concludes.writing (ran.quiet.mem_append_iff.1 failed)
      cases came
      rfl

end General

namespace Plain

/-- A machine without settings of its own, with an interposer and with the groups that the run's groups are made in. -/
def files : FileTree :=
  let t : FileTree := .empty
  let dirs := ["sys/fs/cgroup/memory/g", "sys/fs/cgroup/freezer/g"]
  let t := dirs.foldl (fun t p => t.ensureDirs [] (Path.ofString p).names) t
  match t.write (Path.ofString "/libMallocHook.so") [] with
  | .ok t => t
  | .error _ => t

def environment : Environment :=
  .ofList [(Bytes.ofString "LD_LIBRARY_PATH", Bytes.ofString "/")]

/-- The subject ends by itself after eight milliseconds. -/
def launcher : Launcher :=
  fun _ _ _ => .ok ⟨7, [], [(.ofMillis 8, .subjectEnds (.code 0))]⟩

def before : Session (Nat × FreezeState) :=
  .start ⟨Duration.nanosPerSecond⟩ files (0, .thawed)

/-- What the program does there. -/
def ran : Option (Except ProgramError Report) × Session (Nat × FreezeState) :=
  run launcher (fun _ => .obeyingFrom 1) 5 ["-c", "g", "-l", "4096", "sleep"] environment before

theorem ran_status : ran.1.map exitStatus = some 0 := by
  decide +kernel

end Plain

/-- The program that watches that subject to its end exits with zero. -/
theorem run_tells_truth_plain : ∃ r es, Plain.ran.1 = some r ∧ exitStatus r = 0 ∧
    TellsTruth Plain.launcher (fun _ => .obeyingFrom 1) 5 ["-c", "g", "-l", "4096", "sleep"] Plain.environment
      Plain.before Plain.ran.2 r es := by
  obtain ⟨r, came, status⟩ := Option.map_eq_some_iff.1 Plain.ran_status
  obtain ⟨es, truth⟩ := run_tells_truth Plain.launcher (fun _ => .obeyingFrom 1) 5 ["-c", "g", "-l", "4096", "sleep"]
    Plain.environment Plain.before Plain.ran.2 r (Prod.ext came rfl)
  exact ⟨r, es, came, status, truth⟩

end Program

end HeapSampler

import HeapSampler.Proofs.ExitStatus
import HeapSampler.Proofs.Run.FailedStart
import HeapSampler.Proofs.Run.WindUp
import HeapSampler.Proofs.Settings.Durations
import HeapSampler.Proofs.Settings.SingleFile
import HeapSampler.Proofs.Transition.Rounds

/-!
# Deadlines that the clock cannot hold

A run adds two durations to the time: the pause between two looks and the timeout of a freezer request. The clock
holds so many seconds and no more, and a sum that lies beyond them is a fault, which no part of a run takes up. So an
act is judged here by its faults (`Act.FaultsFor`): each of them is at a moment from which one of the durations does
not fit (`Overdue`), provided that nobody whom the run deals with faults by itself. Nothing keeps the durations that
are accepted from being as long as that, and then a run breaks off where it has a subject to look after
(`run_breaks_off`).
-/

namespace HeapSampler

open Toml (Entries)

variable {σ α β : Type}

/-- A fault at a moment from which the clock cannot hold one of the durations. -/
structure Overdue (ds : List Duration) (f : Fault) (now : Instant) : Prop where
  overflow : f = .instantOverflow
  late : ∃ d ∈ ds, Instant.limit ≤ now.nanos + d.nanos

/-- Whoever the run deals with answers or fails, but does not fault. -/
structure Collaborators.Sound (c : Collaborators σ) : Prop where
  request : ∀ target scene f, (c.request target scene).result ≠ .error (.fault f)
  observe : ∀ scene f, (c.observe scene).result ≠ .error (.fault f)
  heapRange : ∀ pid scene f, (c.heapRange pid scene).result ≠ .error (.fault f)
  classify : ∀ pid iteration artifact heap scene f,
    (c.classify pid iteration artifact heap scene).result ≠ .error (.fault f)

theorem Collaborators.Sound.not_breaks {c : Collaborators σ} (sound : c.Sound) (f : Fault) : ¬ c.Breaks f := by
  rintro ⟨scene, asked | looked⟩
  · exact sound.request _ _ _ asked
  · exact sound.observe _ _ looked

/-! ## Acts by their faults -/

namespace Act

/-- Every fault of the act is of this kind, with the moment at which it stops the act. -/
def FaultsFor (cause : Fault → Instant → Prop) (act : Act σ α) : Prop :=
  ∀ s f t, act s = (.error (.fault f), t) → cause f t.now

namespace FaultsFor

variable {cause : Fault → Instant → Prop} {ds : List Duration}

theorem mono {cause' : Fault → Instant → Prop} {act : Act σ α} (faults : FaultsFor cause act)
    (weaker : ∀ f now, cause f now → cause' f now) : FaultsFor cause' act :=
  fun s f t faulted => weaker f t.now (faults s f t faulted)

theorem pure (a : α) : FaultsFor cause (pure a : Act σ α) := by
  rintro s f t ⟨⟩

theorem fail (e : MonitorError) : FaultsFor cause (Act.fail e : Act σ α) := by
  rintro s f t ⟨⟩

theorem get : FaultsFor cause (get : Act σ (Session σ)) := by
  rintro s f t ⟨⟩

theorem now : FaultsFor cause (Act.now : Act σ Instant) := by
  rintro s f t ⟨⟩

theorem modify (change : Session σ → Session σ) : FaultsFor cause (modify change : Act σ Unit) := by
  rintro s f t ⟨⟩

/-- A sequence faults in its first act, or in the second from wherever the first has led. -/
theorem bind {x : Act σ α} {f : α → Act σ β} (first : FaultsFor cause x) (second : ∀ a, FaultsFor cause (f a)) :
    FaultsFor cause (x >>= f) := by
  intro s fault u faulted
  obtain ⟨stop, stopped, same⟩ | ⟨a, t, -, went⟩ := Act.bind_cases faulted
  · cases same
    exact first s fault u stopped
  · exact second a t fault u went

theorem attempt {act : Act σ α} (faults : FaultsFor cause act) : FaultsFor cause (Snapshot.attempt act) := by
  intro s f t faulted
  obtain ⟨a, -, ⟨⟩⟩ | ⟨e, -, ⟨⟩⟩ | ⟨f', acted, same⟩ := Act.attempt_cases faulted
  cases same
  exact faults s f t acted

theorem discard {act : Act σ α} (faults : FaultsFor cause act) : FaultsFor cause (discard act) := by
  intro s f t faulted
  rw [Act.discard_apply] at faulted
  rcases acted : act s with ⟨stop | a, u⟩ <;> rw [acted] at faulted <;> cases faulted
  exact faults s f u acted

theorem call {door : Door σ α} {event : Option α → Event}
    (sound : ∀ scene f, (door scene).result ≠ .error (.fault f)) : FaultsFor cause (Act.call door event) := by
  intro s f t faulted
  exact absurd (congrArg Prod.fst faulted) (sound s.scene f)

theorem deadlineIn {d : Duration} (listed : d ∈ ds) : FaultsFor (Overdue ds) (Act.deadlineIn d : Act σ Instant) := by
  intro s f t faulted
  rw [Act.deadlineIn_apply] at faulted
  split at faulted
  · cases faulted
  next late =>
    cases faulted
    exact ⟨rfl, d, listed, Nat.le_of_not_lt late⟩

theorem subjectAlive : FaultsFor cause (Act.subjectAlive : Act σ Bool) := by
  unfold Act.subjectAlive
  refine get.bind fun s => ?_
  rcases s.subject with _ | ⟨pid, _ | status, noticed⟩
  · exact pure _
  · exact pure _
  cases noticed with
  | true => exact pure _
  | false => exact (modify _).bind fun _ => (modify _).bind fun _ => pure _

/-! ### Snapshots -/

variable {c : Collaborators σ} (sound : c.Sound)
include sound

/-- A wait faults when a request is repeated for which there is no deadline, or when it has no looks left. -/
theorem await {p : TransitionPolicy} (listed : p.timeout ∈ ds) (target : FreezeState) (looks retries : Nat)
    (deadline : Instant) :
    FaultsFor (fun f now => f = .stalledClock ∨ Overdue ds f now)
      (Transition.await c target p looks retries deadline) := by
  induction looks generalizing retries deadline with
  | zero =>
    rintro s f t ⟨⟩
    exact .inl rfl
  | succ looks ih =>
    rw [Transition.await.eq_def]
    refine (modify _).bind fun _ => (call sound.observe).bind fun answer => ?_
    by_cases settled : answer = some target
    · rw [if_pos settled]
      exact pure _
    rw [if_neg settled]
    refine now.bind fun t => ?_
    by_cases early : t < deadline
    · rw [if_pos early]
      exact ih _ _
    rw [if_neg early]
    cases retries with
    | zero => exact fail _
    | succ retries =>
      refine (call (sound.request target)).bind fun _ => bind ?_ fun deadline => ih _ _
      exact (deadlineIn listed).mono fun _ _ => .inr

/-- A transition never runs out of looks, so that only its deadlines are left to fault. -/
theorem transition {p : TransitionPolicy} (listed : p.timeout ∈ ds) (pause : 0 < p.pause.nanos)
    (target : FreezeState) : FaultsFor (Overdue ds) (Transition.run c target p) := by
  intro s f t faulted
  have waits : FaultsFor (fun f now => f = .stalledClock ∨ Overdue ds f now) (Transition.run c target p) := by
    unfold Transition.run
    refine (call (sound.request target)).bind fun _ => bind ?_ fun deadline => await sound listed _ _ _ _
    exact (deadlineIn listed).mono fun _ _ => .inr
  obtain rfl | overdue := waits s f t faulted
  · obtain ⟨rounds, goes⟩ := Transition.run_in_rounds c target p s pause
    have outcome := goes.orderly.outcome
    rw [faulted] at outcome
    cases outcome with
    | failed last stop ends broken said =>
      obtain ⟨scene, asked⟩ | ⟨scene, looked⟩ := said
      · exact absurd asked (sound.request _ _ _)
      · exact absurd looked (sound.observe _ _)
  · exact overdue

theorem measure (p : SnapshotPlan) (pid iteration : UInt32) : FaultsFor cause (Snapshot.measure c p pid iteration) := by
  unfold Snapshot.measure
  refine (call (sound.heapRange pid)).bind fun found => ?_
  cases found with
  | none => exact pure _
  | some heap => exact (call (sound.classify pid iteration _ heap)).bind fun _ => pure _

variable {p : SnapshotPlan} (listed : p.policy.timeout ∈ ds) (pause : 0 < p.policy.pause.nanos)
include listed pause

theorem cycle (pid iteration : UInt32) : FaultsFor (Overdue ds) (Snapshot.cycle c p pid iteration) := by
  unfold Snapshot.cycle
  refine (transition sound listed pause _).attempt.bind fun frozen => ?_
  cases frozen with
  | error e => exact pure _
  | ok =>
    refine (measure sound p pid iteration).attempt.bind fun _ => ?_
    exact (transition sound listed pause _).attempt.bind fun _ => pure _

theorem take (pid : UInt32) : FaultsFor (Overdue ds) (Snapshot.take c p pid) := by
  unfold Snapshot.take
  refine (modify _).bind fun _ => bind ?_ fun iteration => (cycle sound listed pause pid iteration).bind fun result => ?_
  · exact get.bind fun s => (modify _).bind fun _ => pure _
  rcases result with e | _ | sample
  · exact (modify _).bind fun _ => (modify _).bind fun _ => fail e
  · exact (modify _).bind fun _ => (modify _).bind fun _ => pure _
  · exact (modify _).bind fun _ => (modify _).bind fun _ => pure _

end FaultsFor

end Act

namespace Watch

open Act (FaultsFor)

variable {c : Collaborators σ} {w : Watch} {l : LoopState}

/-! ## Runs by their faults -/

/-- The durations that a run adds to the time. -/
def durations (w : Watch) : List Duration :=
  [w.period, w.snapshots.policy.timeout]

theorem mem_durations_interval {period : Duration} (mode : w.plan.mode = .interval period) : period ∈ w.durations := by
  have same : w.period = period := by rw [Watch.period, mode]
  exact same ▸ List.mem_cons_self

theorem drain_faults {cause : Fault → Instant → Prop} : FaultsFor cause (w.drain : Act σ Bool) := by
  unfold drain
  exact FaultsFor.get.bind fun _ => (FaultsFor.modify _).bind fun _ => .pure _

theorem settle_faults : FaultsFor (Overdue w.durations) (settle w l : Act σ LoopState) := by
  unfold settle
  cases mode : w.plan.mode with
  | interval period =>
    exact (FaultsFor.deadlineIn (mem_durations_interval mode)).bind fun _ => drain_faults.bind fun _ => .pure _
  | onRequest => exact (FaultsFor.pure l.nextWake).bind fun _ => drain_faults.bind fun _ => .pure _

theorem look_faults : FaultsFor (Overdue w.durations) (w.look l : Act σ (Outcome ⊕ LoopState)) := by
  unfold look
  cases w.plan.mode with
  | interval => exact .pure _
  | onRequest =>
    refine FaultsFor.subjectAlive.bind fun alive => ?_
    cases alive with
    | true => exact (FaultsFor.deadlineIn List.mem_cons_self).bind fun _ => .pure _
    | false => exact .pure _

theorem wait_faults : FaultsFor (Overdue w.durations) (w.wait c l) := by
  unfold wait
  refine FaultsFor.subjectAlive.bind fun alive => ?_
  cases alive with
  | false => exact .pure _
  | true =>
    refine FaultsFor.get.bind fun s => ?_
    cases s.inbox with
    | cons e rest => exact (FaultsFor.modify _).bind fun _ => .pure _
    | nil =>
      rcases s.agenda with _ | ⟨p, later⟩
      · exact (FaultsFor.modify _).bind fun _ => look_faults
      by_cases soon : p.1 ≤ wakeTime c s l.nextWake
      · simp only [if_pos soon]
        exact (FaultsFor.modify _).bind fun _ => .pure _
      · simp only [if_neg soon]
        exact (FaultsFor.modify _).bind fun _ => look_faults

section Sound

variable (sound : c.Sound) (pause : 0 < w.snapshots.policy.pause.nanos)
include sound pause

theorem sample_faults : FaultsFor (Overdue w.durations) (w.sample c l) := by
  have listed : w.snapshots.policy.timeout ∈ w.durations := List.mem_cons_of_mem _ List.mem_cons_self
  unfold sample
  refine FaultsFor.subjectAlive.bind fun alive => ?_
  cases alive with
  | false => exact settle_faults
  | true => exact (FaultsFor.take sound listed pause w.pid).discard.bind fun _ => settle_faults

theorem turn_faults : FaultsFor (Overdue w.durations) (w.turn c l) := by
  unfold turn
  refine FaultsFor.get.bind fun s => ?_
  cases s.cancelled with
  | true => exact .pure _
  | false =>
    cases l.samplePending with
    | true => exact (sample_faults sound pause).bind fun _ => .pure _
    | false => exact wait_faults

theorem loop_faults (turns : Nat) (l : LoopState) : FaultsFor (Overdue w.durations) (loop c w turns l) := by
  induction turns generalizing l with
  | zero => exact .pure _
  | succ turns ih =>
    rw [loop]
    refine (turn_faults sound pause).bind fun went => ?_
    cases went with
    | inl outcome => exact .pure _
    | inr l' => exact ih l'

theorem monitor_faults (turns : Nat) : FaultsFor (Overdue w.durations) (w.monitor c turns) := by
  unfold monitor
  exact (FaultsFor.deadlineIn List.mem_cons_self).bind fun _ => loop_faults sound pause turns _

omit pause in
/-- Winding up a run adds nothing to the time. -/
theorem finish_faults {cause : Fault → Instant → Prop} (result : Except MonitorError Outcome) :
    FaultsFor cause (w.finish c result) :=
  fun _ f _ faulted => absurd (finish_breaks faulted) (sound.not_breaks f)

theorem run_faults (turns : Nat) : FaultsFor (Overdue w.durations) (w.run c turns) := by
  unfold run
  refine (monitor_faults sound pause turns).attempt.bind fun result => ?_
  rcases result with e | _ | outcome
  · exact (finish_faults sound _).bind fun _ => .pure _
  · exact .pure _
  · exact (finish_faults sound _).bind fun _ => .pure _

end Sound

/-! ## Runs that break off -/

section Started

variable {launcher : Launcher} {plan : RunPlan} {settings : Settings} {env : Environment} {before s : Session σ}

/-- The pause between two looks of a run: the interval, or that of the settings if there is none. -/
def pauseOf (plan : RunPlan) (settings : Settings) : Duration :=
  plan.interval.getD settings.subject.livenessPoll

/-- When a run that was started breaks off, and how. -/
structure BreaksOff (c : Collaborators σ) (plan : RunPlan) (settings : Settings) (w : Watch) (before s : Session σ)
    (turns : Nat) : Prop where
  /-- The subject has been launched. -/
  launched : ∃ pid, s.events = before.events ++ [.launched pid]
  /-- The run breaks off only where the clock cannot hold the time of the next look or the timeout of a request. -/
  late : ∀ f t, w.run c turns s = (.error (.fault f), t) → f = .instantOverflow ∧
    (Instant.limit ≤ t.now.nanos + (pauseOf plan settings).nanos ∨
      Instant.limit ≤ t.now.nanos + settings.groups.transitionTimeout.nanos)
  /-- It is not wound up then: the groups are not removed, and no summary is written. -/
  abandoned : ∀ f t, w.run c turns s = (.error (.fault f), t) →
    ∃ es, t.events = s.events ++ es ∧ ∀ e ∈ es, e.windsUp = false
  /-- If the first look would be too late, the run breaks off where it starts. -/
  atOnce : Instant.limit ≤ s.now.nanos + (pauseOf plan settings).nanos →
    w.run c turns s = (.error (.fault .instantOverflow), s)
  /-- If a request would time out too late, its transition breaks off, and the state stays asked for. -/
  asked : ∀ target t u, Act.request c target t = (.ok (), u) →
    Instant.limit ≤ u.now.nanos + settings.groups.transitionTimeout.nanos →
    Transition.run c target w.snapshots.policy t = (.error (.fault .instantOverflow), u)
  /-- All that is known of the settings is that their numbers are those of a file. -/
  bounded : settings.Bounded

theorem period_eq (w : Watch) : w.period = pauseOf w.plan w.settings := by
  unfold period RunPlan.mode pauseOf
  cases w.plan.interval <;> rfl

theorem start_watch {w : Watch} (started : start launcher plan settings env before = (.ok w, s)) :
    (∃ pid, s.events = before.events ++ [.launched pid]) ∧ w.period = pauseOf plan settings ∧
      w.snapshots.policy = .ofSettings settings.groups := by
  cases start_starts started with
  | @started site files pid t prepared events => exact ⟨⟨pid, events⟩, period_eq _, rfl⟩

/-- A run that breaks off does so in its loop. -/
theorem Concludes.session {c : Collaborators σ} {w : Watch} {q : Except Stop (Option Outcome)} {m t : Session σ}
    {r : Except Stop (Option Report)} {es : List Event} {f : Fault} (concludes : Concludes c w q m r t es)
    (sound : c.Sound) (broke : r = .error (.fault f)) : m = t := by
  cases concludes with
  | stopped => rfl
  | unfinished => cases broke
  | broken breaks => exact absurd breaks (sound.not_breaks _)
  | @wound result files written =>
    cases told : w.report m.history result written with
    | error e => rw [told] at broke; cases broke
    | ok report => rw [told] at broke; cases broke

/-- A transition whose request has no deadline breaks off right after it. -/
theorem transition_late {c : Collaborators σ} {target : FreezeState} {p : TransitionPolicy} {t u : Session σ}
    (asked : Act.request c target t = (.ok (), u)) (late : Instant.limit ≤ u.now.nanos + p.timeout.nanos) :
    Transition.run c target p t = (.error (.fault .instantOverflow), u) := by
  rw [Transition.run_eq_ask, Transition.ask_eq, asked]
  exact if_neg (Nat.not_lt.2 late)

/-- **A run breaks off where a deadline does not fit the clock, and only there.** Nothing is wound up then. -/
theorem run_breaks_off {c : Collaborators σ} {files : FileTree} {p : Path} {w : Watch} (sound : c.Sound)
    (loaded : Settings.load files p = .ok settings)
    (started : start launcher plan settings env before = (.ok w, s)) (turns : Nat) :
    BreaksOff c plan settings w before s turns := by
  have bounded := Settings.load_bounded loaded
  obtain ⟨launched, period, policy⟩ := start_watch started
  have pause : 0 < w.snapshots.policy.pause.nanos := policy ▸ bounded.pause
  have timeout : w.snapshots.policy.timeout = settings.groups.transitionTimeout := by rw [policy]; rfl
  constructor
  case launched => exact launched
  case late =>
    intro f t broke
    obtain ⟨overflow, d, listed, late⟩ := run_faults sound pause turns s f t broke
    refine ⟨overflow, ?_⟩
    rw [durations, period, timeout] at listed
    rcases List.mem_cons.1 listed with rfl | listed
    · exact .inl late
    · exact .inr (List.mem_singleton.1 listed ▸ late)
  case abandoned =>
    intro f t broke
    rcases monitored : w.monitor c turns s with ⟨q, m⟩
    obtain ⟨looping, looped, loop⟩ := monitor_loops monitored
    obtain ⟨es, concludes⟩ := run_concludes monitored
    rw [broke] at concludes
    obtain rfl : m = t := concludes.session sound rfl
    exact ⟨looping, looped, loop.windsUp⟩
  case atOnce =>
    intro late
    apply run_of_fault
    rw [monitor, Act.bind_error]
    rw [Act.deadlineIn_apply, period, if_neg (Nat.not_lt.2 late)]
  case asked =>
    intro target t u asked late
    exact transition_late asked (timeout ▸ late)
  case bounded => exact bounded

end Started

/-! ## A timeout as long as a file can say -/

theorem obeyingFrom_sound (first : Nat) : (Collaborators.obeyingFrom first).Sound where
  request := by rintro target scene f ⟨⟩
  observe := by rintro scene f ⟨⟩
  heapRange := by rintro pid scene f ⟨⟩
  classify := by rintro pid iteration artifact heap scene f ⟨⟩

namespace Patient

/-- The settings of the small run with the longest timeout. -/
def text : String :=
  "[cgroup]\nmount_candidates = [\"/m\"]\ntransition_timeout = 9223372036854775807\n" ++
    "[subject]\ninterposer = \"lib\"\nsearch_path_var = \"L\"\n"

def files : FileTree :=
  (Small.files.write (Path.ofString "/c") (Bytes.ofString text)).toOption.getD Small.files

def document : Entries :=
  [("cgroup", .table (.headed 1)
      [("mount_candidates", .value (.array [.string "/m"])),
        ("transition_timeout", .value (.integer Settings.maxNumber))]),
    ("subject", .table (.headed 2)
      [("interposer", .value (.string "lib")), ("search_path_var", .value (.string "L"))])]

def settings : Settings :=
  { Small.settings with groups := { Small.settings.groups with transitionTimeout := .ofSeconds Settings.maxNumber } }

set_option maxRecDepth 4000 in
theorem read : files.readText (Path.ofString "/c") = .ok text := by
  cbv

theorem parsed : Entries.parse? text = some document := by
  cbv

theorem loaded : Settings.load files (Path.ofString "/c") = .ok settings := by
  rw [Settings.load_eq read, parsed]
  cbv

def before : Session (Nat × FreezeState) :=
  .start ⟨Duration.nanosPerSecond⟩ files (0, .thawed)

def after : Session (Nat × FreezeState) :=
  (start Small.launcher Small.plan settings Small.environment before).2

def watch : Watch :=
  { Small.watch with
    settings := settings
    snapshots := { Small.watch.snapshots with policy := .ofSettings settings.groups } }

theorem started : start Small.launcher Small.plan settings Small.environment before = (.ok watch, after) :=
  Prod.ext rfl rfl

/-- The run on that machine. -/
def ran : Except Stop (Option Report) × Session (Nat × FreezeState) :=
  watch.run (.obeyingFrom 1) 10 after

theorem ran_faults : ran.1 = .error (.fault .instantOverflow) :=
  Small.error_of_stop? (by decide +kernel)

end Patient

/-- The first snapshot of that run asks for the freeze and breaks off, with the subject left frozen in its groups. -/
theorem run_breaks_off_patient :
    BreaksOff (.obeyingFrom 1) Small.plan Patient.settings Patient.watch Patient.before Patient.after 10 ∧
      Patient.ran.1 = .error (.fault .instantOverflow) ∧ Patient.ran.2.scene.state.2 = .frozen ∧
      ∃ es, Patient.ran.2.events = Patient.after.events ++ es ∧ ∀ e ∈ es, e.windsUp = false := by
  have breaksOff := run_breaks_off (obeyingFrom_sound 1) Patient.loaded Patient.started 10
  exact ⟨breaksOff, Patient.ran_faults, by decide +kernel, breaksOff.abandoned _ _ (Prod.ext Patient.ran_faults rfl)⟩

end Watch

/-! ## An interval as long as an argument can say -/

namespace Program

/-- What the program does with the plain machine when it is to take a snapshot in so many seconds. -/
def Plain.slow : Option (Except ProgramError Report) × Session (Nat × FreezeState) :=
  run Plain.launcher (fun _ => .obeyingFrom 1) 5 ["-c", "g", "-l", "4096", "-i", "18446744073709551615", "sleep"]
    Plain.environment Plain.before

/-- The arguments are accepted and the subject is launched. Then the program breaks off, with the subject running in
the groups of the run. -/
theorem accepted_interval_overflows :
    Plain.slow.1.map exitStatus = some faultStatus ∧ Plain.slow.2.events = [.launched 7] ∧
      Plain.slow.2.subject = some ⟨7, none, false⟩ ∧
      Plain.slow.2.files.isDir (Path.ofString "/sys/fs/cgroup/freezer/g/heapfreeze") = true := by
  decide +kernel

end Program

end HeapSampler

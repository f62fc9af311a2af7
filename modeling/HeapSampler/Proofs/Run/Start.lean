import HeapSampler.Monitor.Run
import HeapSampler.Proofs.Lasting

/-!
# Started runs

A start changes files, notes the launch and plans what the subject will do. What shows nothing of this it leaves as it
is (`start_leaves`), however it ends: nothing is recorded before the loop begins, so that a started run begins with an
empty history, and a request to stop that has come is still there.
-/

namespace HeapSampler

/-- What is seen of a session does not show what a start does. -/
structure Session.Aloof {σ γ : Type} (view : Session σ → γ) : Prop where
  files : ∀ s files, view { s with files } = view s
  note : ∀ s e, view (s.note e) = view s
  ends : ∀ s status, view (s.happen (.subjectEnds status)) = view s
  launch : ∀ s files subject plans, view (({ s with files, subject } : Session σ).schedule plans) = view s

theorem Session.history_aloof {σ : Type} : Aloof (Session.history (σ := σ)) :=
  ⟨fun _ _ => rfl, fun _ _ => rfl, fun s _ => happen_history s _, fun _ _ _ _ => rfl⟩

theorem Session.cancelled_aloof {σ : Type} : Aloof (Session.cancelled (σ := σ)) :=
  ⟨fun _ _ => rfl, fun _ _ => rfl, fun _ _ => rfl, fun _ _ _ _ => rfl⟩

/-! ## Acts that change nothing that is seen -/

namespace Act

variable {σ α β γ : Type} {view : Session σ → γ}

/-- The act leaves what is seen of a session as it is. -/
def Leaves (view : Session σ → γ) (act : Act σ α) : Prop :=
  ∀ s, view (act s).2 = view s

namespace Leaves

theorem pure (a : α) : Leaves view (pure a : Act σ α) :=
  fun _ => rfl

theorem fail (e : MonitorError) : Leaves view (Act.fail e : Act σ α) :=
  fun _ => rfl

theorem fail_bind (e : MonitorError) (f : α → Act σ β) : Leaves view (Act.fail e >>= f) :=
  fun _ => rfl

theorem get : Leaves view (get : Act σ (Session σ)) :=
  fun _ => rfl

theorem modify {f : Session σ → Session σ} (same : ∀ s, view (f s) = view s) : Leaves view (modify f : Act σ Unit) :=
  same

theorem fromFiles (look : FileTree → Except MonitorError α) : Leaves view (Act.fromFiles look : Act σ α) :=
  fun _ => rfl

theorem onFiles (blind : ∀ s files, view { s with files } = view s)
    (change : FileTree → Except MonitorError α × FileTree) : Leaves view (Act.onFiles change : Act σ α) :=
  fun s => blind s _

theorem bind {x : Act σ α} {f : α → Act σ β} (first : Leaves view x) (second : ∀ a, Leaves view (f a)) :
    Leaves view (x >>= f) :=
  Along.andThen (R := fun s t => view t = view s) (fun _ _ _ earlier later => later.trans earlier) first second

theorem attempt {act : Act σ α} (leaves : Leaves view act) : Leaves view (Snapshot.attempt act) :=
  Along.attempt (R := fun s t => view t = view s) leaves

end Leaves

end Act

namespace Watch

open Act (Leaves)

section Start

variable {σ α γ : Type} {view : Session σ → γ} (aloof : Session.Aloof view)
include aloof

theorem orDestroy_leaves {act : Act σ α} (groups : Groups) (leaves : Leaves view act) :
    Leaves view (orDestroy groups act) := by
  unfold orDestroy
  apply leaves.attempt.bind
  intro result
  cases result with
  | ok a => exact .pure a
  | error e => exact (Leaves.modify fun s => aloof.files s _).bind fun _ => .fail e

theorem attachOrKill_leaves (groups : Groups) (pid : UInt32) : Leaves view (attachOrKill groups pid : Act σ Unit) := by
  unfold attachOrKill
  apply (Leaves.onFiles aloof.files _).attempt.bind
  intro result
  cases result with
  | ok => exact .pure ()
  | error e =>
    have kill : Leaves view (Act.kill : Act σ Unit) := .modify fun s => aloof.ends s _
    exact kill.bind fun _ => .fail e

theorem launch_leaves (launcher : Launcher) (command : List String) (env : Environment) (output : Path) :
    Leaves view (Act.launch launcher command env output : Act σ UInt32) := by
  unfold Act.launch
  cases command.isEmpty with
  | true => exact .fail_bind _ _
  | false =>
    apply (Leaves.onFiles aloof.files _).bind
    intro _
    apply Leaves.get.bind
    intro s
    cases launcher command env s.files with
    | error cause => exact .fail _
    | ok started =>
      have noted : Leaves view (Act.note (.launched started.pid) : Act σ Unit) := .modify fun t => aloof.note t _
      refine noted.bind fun _ => (Leaves.modify fun t => ?_).bind fun _ => .pure _
      exact aloof.launch t _ _ _

/-- A start leaves whatever does not show what it does. -/
theorem start_leaves (launcher : Launcher) (plan : RunPlan) (settings : Settings) (env : Environment) :
    Leaves view (start launcher plan settings env : Act σ Watch) := by
  unfold start
  apply (Leaves.fromFiles _).bind
  intro _
  apply (Leaves.fromFiles _).bind
  intro mount
  apply (Leaves.fromFiles _).bind
  intro library
  apply (Leaves.fromFiles _).bind
  intro directory
  apply (Leaves.onFiles aloof.files _).bind
  intro _
  apply (orDestroy_leaves aloof _ (.onFiles aloof.files _)).bind
  intro _
  apply (orDestroy_leaves aloof _ (launch_leaves aloof launcher _ _ _)).bind
  intro pid
  exact (orDestroy_leaves aloof _ (attachOrKill_leaves aloof _ pid)).bind fun _ => .pure _

end Start

variable {σ : Type}

/-- The run was started in a session that had recorded nothing, and nothing has been recorded since. -/
def Started (w : Watch) (s : Session σ) : Prop :=
  ∃ launcher plan settings env, ∃ before after : Session σ, before.history = .empty ∧
    start launcher plan settings env before = (.ok w, after) ∧ s.history = after.history

theorem Started.history {w : Watch} {s : Session σ} (started : w.Started s) : s.history = .empty := by
  obtain ⟨launcher, plan, settings, env, before, after, fresh, ran, same⟩ := started
  have kept := start_leaves Session.history_aloof launcher plan settings env before
  rw [ran] at kept
  rw [same, kept, fresh]

/-! ## A small run -/

namespace Small

/-- A tree with an interposer and with the groups that the run's groups are made in. -/
def files : FileTree :=
  let t : FileTree := .empty
  let t := ["m/memory/g", "m/freezer/g"].foldl (fun t p => t.ensureDirs [] (Path.ofString p).names) t
  match t.write (Path.ofString "/lib") [] with
  | .ok t => t
  | .error _ => t

/-- A snapshot is due every five milliseconds. -/
def plan : RunPlan :=
  ⟨"g", 4096, some (.ofMillis 5), ["sleep"], none⟩

def settings : Settings :=
  { Settings.default with
    groups := { Settings.default.groups with mountCandidates := [Path.ofString "/m"] }
    subject := { Settings.default.subject with interposer := "lib", searchVariable := "L" } }

def environment : Environment :=
  .ofList [(Bytes.ofString "L", Bytes.ofString "/")]

/-- The freezer obeys, and in each iteration one page fewer of the heap is counted. -/
def machine : Collaborators (Nat × FreezeState) :=
  { Collaborators.obeyingFrom 1 with
    classify := fun _ iteration _ _ scene => scene.answer (4 - iteration.toUInt64) }

/-- The monitor is asked to stop eighteen milliseconds after the subject was started. -/
def launcher : Launcher :=
  fun _ _ _ => .ok ⟨7, [], [(.ofMillis 18, .interrupt)]⟩

/-- The run on a machine whose freezer is still thawed. -/
def before : Session (Nat × FreezeState) :=
  .start ⟨Duration.nanosPerSecond⟩ files (0, .thawed)

/-- What the start of the run leads to. -/
def after : Session (Nat × FreezeState) :=
  (start launcher plan settings environment before).2

def watch : Watch where
  plan := plan
  settings := settings
  groups := .under (Path.ofString "/m") plan.group settings.groups.leaf
  interposer := (Interposer.install environment (Path.ofString "/lib") (Path.ofString "/") settings.subject).1
  pid := 7
  snapshots := ⟨.ofSettings settings.groups, Path.ofString "/", settings.output⟩
  summaryPath := Path.ofString "/" / settings.output.summaryFile

theorem started : watch.Started after :=
  ⟨launcher, plan, settings, environment, before, after, rfl, Prod.ext rfl rfl, rfl⟩

/-- What the run tells when it is stopped after its second snapshot. -/
def report : Report :=
  ⟨.interrupted, watch.summary ⟨2, 3, [3, 2], ["iteration0001", "iteration0002"]⟩, watch.summaryPath⟩

theorem reports : (watch.run machine 10 after).1 = .ok (some report) :=
  Act.ok_of_toOption (by decide +kernel)

end Small

end Watch

end HeapSampler

import HeapSampler.Freezer.Groups
import HeapSampler.Monitor.Snapshot
import HeapSampler.Run.Plan
import HeapSampler.Subject.Interposer

/-!
# The sampling loop

The loop waits for whatever comes first: a request to stop, the end of the subject, a control
event, or the time of the next look. A snapshot that has become due is taken at the start of a
turn, unless the run is to stop; control events that arrive meanwhile are taken up together
afterwards, so that any number of sample requests among them makes one more snapshot due.
-/

namespace HeapSampler

/-- A run that has been started: what it was started with, and where things are. -/
structure Watch where
  plan : RunPlan
  settings : Settings
  groups : Groups
  interposer : Interposer
  pid : UInt32
  snapshots : SnapshotPlan
  summaryPath : Path
  deriving DecidableEq, Repr

/-- How a run ended. -/
inductive Outcome where
  | subjectExited
  | interrupted
  deriving DecidableEq, Repr

/-- What the loop knows between two turns. -/
structure LoopState where
  /-- When the next look is due. -/
  nextWake : Instant
  /-- A snapshot is due. -/
  samplePending : Bool
  deriving DecidableEq, Repr

namespace Watch

/-- The pause between two looks: at the heap, or only at whether the subject is alive. -/
def period (w : Watch) : Duration :=
  match w.plan.mode with
  | .interval period => period
  | .onRequest => w.settings.subject.livenessPoll

/-- A control event makes a snapshot due: it asks for one, and snapshots are taken on request. -/
def demandsSample (w : Watch) (e : ControlEvent) : Bool :=
  e == .sampleNow && w.plan.mode == .onRequest

/-- When a session will wake up again if nothing happens, given when it should: at once, if whoever
was to be woken then is awake by now. -/
def wakeTime (c : Collaborators σ) (s : Session σ) (due : Instant) : Instant :=
  if c.wakes s.state due ≤ s.now then s.now else c.wakes s.state due

/-- Takes up all control events that are waiting, and tells whether a snapshot is due. -/
def drain (w : Watch) : Act σ Bool := do
  let events := (← get).inbox
  modify fun s =>
    { events.foldl (fun s e => s.note (.took e)) s with inbox := [] }
  return events.any w.demandsSample

/-- Takes the snapshot that is due, if the subject is alive. -/
def sample (c : Collaborators σ) (w : Watch) (l : LoopState) : Act σ LoopState := do
  if ← Act.subjectAlive then
    discard <| Snapshot.take c w.snapshots w.pid
  let nextWake ← match w.plan.mode with
    | .interval period => Act.deadlineIn period
    | .onRequest => pure l.nextWake
  let samplePending ← w.drain
  return { nextWake, samplePending }

/-- What follows when the time of the next look has come. -/
def look (w : Watch) (l : LoopState) : Act σ (Outcome ⊕ LoopState) := do
  match w.plan.mode with
  | .interval _ => return .inr { l with samplePending := true }
  | .onRequest =>
    if ← Act.subjectAlive then
      return .inr { l with nextWake := ← Act.deadlineIn w.period }
    else return .inl .subjectExited

/-- Waits until something happens. -/
def wait (c : Collaborators σ) (w : Watch) (l : LoopState) : Act σ (Outcome ⊕ LoopState) := do
  if !(← Act.subjectAlive) then return .inl .subjectExited
  let s ← get
  match s.inbox with
  | e :: rest =>
    modify fun s => { s.note (.took e) with inbox := rest }
    return .inr { l with samplePending := w.demandsSample e }
  | [] =>
    let wake := wakeTime c s l.nextWake
    match s.agenda with
    | (t, _) :: _ =>
      if t ≤ wake then
        modify fun s => s.advanceTo t
        return .inr l
      else
        modify fun s => s.advanceTo wake
        w.look l
    | [] =>
      modify fun s => s.advanceTo wake
      w.look l

/-- One turn of the loop: it ends the run or leads to the next turn. -/
def turn (c : Collaborators σ) (w : Watch) (l : LoopState) : Act σ (Outcome ⊕ LoopState) := do
  if (← get).cancelled then return .inl .interrupted
  if l.samplePending then return .inr (← w.sample c l)
  w.wait c l

/-- Runs so many turns of the loop, unless it ends before. -/
def loop (c : Collaborators σ) (w : Watch) : Nat → LoopState → Act σ (Option Outcome)
  | 0, _ => return none
  | turns + 1, l => do
    match ← w.turn c l with
    | .inl outcome => return some outcome
    | .inr l => loop c w turns l

/-- Watches the subject for so many turns, unless the run ends before. -/
def monitor (c : Collaborators σ) (w : Watch) (turns : Nat) : Act σ (Option Outcome) := do
  let nextWake ← Act.deadlineIn w.period
  loop c w turns { nextWake, samplePending := false }

end Watch

end HeapSampler

import HeapSampler.Monitor.Run
import HeapSampler.Program
import HeapSampler.Rehearsal.Script
import HeapSampler.Signals

/-!
# Rehearsals of single parts

Each scene plays a part of the monitor against scripted collaborators, step by step, and tells
what every step came to. A step that fails does not keep the steps behind it from being played.
-/

namespace HeapSampler.Rehearsal

/-- The milliseconds since the rehearsal began. -/
def millisSince (opening now : Instant) : Nat :=
  (now.since opening).nanos / Duration.nanosPerMilli

/-- A session on a stage. -/
def opened (files : FileTree) (cast : Cast) : Session Cues :=
  .start Stage.opening files (.start cast)

/-- What a scripted freezer was asked: its requests with their milliseconds, oldest first, and the
number of looks. -/
structure FreezerReport where
  requests : List (Nat × FreezeState)
  looks : Nat

/-- What a freezer was asked. -/
def Cues.report (c : Cues) : FreezerReport where
  requests := c.requests.reverse.map fun (time, target) => (millisSince Stage.opening time, target)
  looks := c.looks

/-! ## Transitions -/

/-- Brings a scripted freezer into one state after another. -/
def transitions (script : FreezerScript) (policy : TransitionPolicy) (targets : List FreezeState) :
    List (Except Stop Unit × Nat) × FreezerReport :=
  let cast : Cast := ⟨.scripted script, .scripted [], .scripted [] []⟩
  let play := fun (results, s) target =>
    let (result, s) := Transition.run cast.collaborators target policy s
    (results ++ [(result, millisSince Stage.opening s.now)], s)
  let (results, s) := targets.foldl play (([] : List (Except Stop Unit × Nat)), opened .empty cast)
  (results, s.state.report)

/-! ## Groups -/

/-- A step with the groups of a run. -/
inductive GroupStep where
  | create
  | limit (bytes : UInt64)
  | attach (pid : UInt32)
  | request (target : FreezeState)
  | observe
  | transition (target : FreezeState) (policy : TransitionPolicy)
  | destroy
  | change (changes : List Stage.Change)

/-- What a step came to: nothing in particular, or a freezer's state. -/
inductive StepResult where
  | done
  | state (s : Option FreezeState)

/-- Plays one step with groups. -/
def GroupStep.play (g : Groups) : GroupStep → Act Cues StepResult
  | create => do
    Act.onFiles g.create
    return .done
  | limit bytes => do
    Act.onFiles (g.limit bytes)
    return .done
  | attach pid => do
    Act.onFiles (g.attach pid)
    return .done
  | request target => do
    Act.onFiles (StateFile.request g.stateFile target)
    return .done
  | observe => return .state (← Act.fromFiles (StateFile.observe g.stateFile))
  | transition target policy => do
    Transition.run (Cast.real g).collaborators target policy
    return .done
  | destroy => do
    modify fun s => { s with files := g.destroy s.files }
    return .done
  | change changes => do
    modify fun s => { s with files := Stage.setUpAll s.files changes }
    return .done

/-- Plays steps with groups; after each the stage is listed. -/
def groupSteps (files : FileTree) (g : Groups) (steps : List GroupStep) :
    List (Except Stop StepResult × List (Bytes × Option Bytes)) :=
  let play := fun (results, s) (step : GroupStep) =>
    let (result, s) := step.play g s
    (results ++ [(result, Stage.listing s.files)], s)
  (steps.foldl play
    (([] : List (Except Stop StepResult × List (Bytes × Option Bytes))),
      opened files (Cast.real g))).1

/-! ## Snapshots -/

/-- A step of a rehearsal of snapshots. -/
inductive SnapshotStep where
  | snap (pid : UInt32)
  | change (changes : List Stage.Change)

/-- What there is to tell after a step: its result, the history, the milliseconds, and a look at
the freezer. -/
structure SnapshotResult where
  /-- The sample of a snapshot; nothing for a change. -/
  result : Except Stop (Option (Option Sample))
  history : History
  millis : Nat
  state : Except Stop (Option FreezeState)

/-- Plays one step of a rehearsal of snapshots. -/
def SnapshotStep.play (c : Collaborators Cues) (p : SnapshotPlan) :
    SnapshotStep → Act Cues (Option (Option Sample))
  | snap pid => return some (← Snapshot.take c p pid)
  | change changes => do
    modify fun s => { s with files := Stage.setUpAll s.files changes }
    return none

/-- Plays snapshots, and lists the stage at the end. -/
def snapshots (files : FileTree) (cast : Cast) (p : SnapshotPlan) (steps : List SnapshotStep) :
    List SnapshotResult × FreezerReport × List (Bytes × Option Bytes) :=
  let c := cast.collaborators
  let play := fun (results, s) (step : SnapshotStep) =>
    let (result, s) := step.play c p s
    let (state, s) := Act.observe c s
    (results ++ [⟨result, s.history, millisSince Stage.opening s.now, state⟩], s)
  let (results, s) := steps.foldl play (([] : List SnapshotResult), opened files cast)
  (results, s.state.report, Stage.listing s.files)

/-! ## The subject -/

/-- A step with a started subject. -/
inductive SubjectStep where
  /-- Look whether it is alive. -/
  | poll
  /-- Wait for its end. -/
  | wait
  /-- Tell how it ended, as far as that was noticed. -/
  | exitStatus
  | kill
  /-- Let it come to its end without taking notice. -/
  | exited

/-- What a step with a subject came to. -/
inductive SubjectResult where
  | done
  | alive (b : Bool)
  | status (s : Option ExitStatus)

/-- Lets the subject come to its end. -/
def playOut : Act σ Unit :=
  modify fun s =>
    match s.subject.bind Subject.status, s.agenda.getLast? with
    | none, some (last, _) => s.advanceTo last
    | _, _ => s

/-- How the subject ended, as far as that was noticed. -/
def noticedStatus (s : Session σ) : Option ExitStatus :=
  s.subject.bind fun p => if p.noticed then p.status else none

/-- Plays one step with a subject. -/
def SubjectStep.play : SubjectStep → Act σ SubjectResult
  | poll => return .alive (← Act.subjectAlive)
  | wait => do
    playOut
    discard Act.subjectAlive
    return .status (noticedStatus (← get))
  | exitStatus => return .status (noticedStatus (← get))
  | kill => do
    Act.kill
    return .done
  | exited => do
    playOut
    return .done

/-- Starts a command and plays steps with it: what they came to, and what the command wrote. -/
def subjectSteps (files : FileTree) (command : List String) (env : Environment) (output : Path)
    (steps : List SubjectStep) :
    Except Stop (List (Except Stop SubjectResult) × Except IoError Bytes) :=
  match Act.launch Shell.launch command env output (Session.start Stage.opening files ()) with
  | (.error stop, _) => .error stop
  | (.ok _, s) =>
    let play := fun (results, s) (step : SubjectStep) =>
      let (result, s) := step.play s
      (results ++ [result], s)
    let (results, s) := steps.foldl play (([] : List (Except Stop SubjectResult)), s)
    let written := (Shell.perform command env files).toOption.map fun p =>
      p.outputUntil (s.now.since Stage.opening)
    .ok (results, (s.files.read output).map fun content => written.getD content)

/-! ## Signals -/

/-- A step of a rehearsal of signals. -/
inductive SignalStep where
  | raise (s : Signal)
  | cancel
  | dropReceiver

/-- Plays one step of a rehearsal of signals. -/
def SignalStep.play (f : Forwarding) : SignalStep → Option ControlEvent × Forwarding
  | raise s => f.receive s
  | cancel => (none, f.cancel)
  | dropReceiver => (none, f.dropReceiver)

/-- Plays signals: after each step the event that was passed on, and the state. -/
def signals (steps : List SignalStep) : List (Option ControlEvent × Forwarding) :=
  let play := fun (results, f) (step : SignalStep) =>
    let (event, f) := step.play f
    (results ++ [(event, f)], f)
  (steps.foldl play (([] : List (Option ControlEvent × Forwarding)), Forwarding.start)).1

end HeapSampler.Rehearsal

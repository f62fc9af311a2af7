import HeapSampler.Error
import HeapSampler.Heap.Range
import HeapSampler.Host.Clock
import HeapSampler.Host.Environment
import HeapSampler.Host.FileTree
import HeapSampler.Run.History

/-!
# Sessions

A session holds everything that changes while a subject is monitored: the time, the files, the
subject, what has been asked from outside, and the history. The freezer, the memory maps, the page
classifier, the launcher and the clock are collaborators: functions that may keep a state of their
own, take time, fail, and let things happen meanwhile. Every dealing with them is kept in the
session's trace, newest first.
-/

namespace HeapSampler

/-! ## What happens -/

/-- A request to the monitor that does not end the run. -/
inductive ControlEvent where
  /-- Take one snapshot now. -/
  | sampleNow
  /-- Show the state of the run. -/
  | dumpStatus
  deriving DecidableEq, Repr

/-- How a process ended. -/
inductive ExitStatus where
  | code (n : UInt8)
  | signal (n : Nat)
  deriving DecidableEq, Repr

/-- The signal that ends a process for certain. -/
def killSignal : Nat := 9

/-- Something that happens outside the monitor. -/
inductive Happening where
  /-- The monitor is asked to stop. -/
  | interrupt
  /-- The monitor is asked for something else. -/
  | control (c : ControlEvent)
  /-- The subject ends. -/
  | subjectEnds (status : ExitStatus)
  deriving DecidableEq, Repr

/-- Something that the monitor did or noticed. -/
inductive Event where
  /-- A freezer state was requested; the request may have failed. -/
  | requested (target : FreezeState) (accepted : Bool)
  /-- The freezer was looked at, and gave an answer unless that failed. -/
  | observed (answer : Option (Option FreezeState))
  /-- The heap was looked up, and an answer given unless that failed. -/
  | mapped (answer : Option (Option HeapRange))
  /-- The pages of a heap were classified, and counted unless that failed. -/
  | classified (iteration : UInt32) (artifact : Path) (pages : Option UInt64)
  /-- A snapshot began. -/
  | snapshotBegan
  /-- A snapshot was completed, with or without a sample, unless it failed. -/
  | snapshotEnded (result : Option (Option Sample))
  /-- A control event was taken up. -/
  | took (c : ControlEvent)
  /-- The end of the subject was noticed. -/
  | exitNoticed (status : ExitStatus)
  /-- The subject was started. -/
  | launched (pid : UInt32)
  /-- The groups were removed, as far as possible. -/
  | groupsRemoved
  /-- The summary was written, unless that failed. -/
  | summaryWritten (written : Bool)
  deriving DecidableEq, Repr

/-! ## Collaborators -/

/-- What a collaborator sees and may change. -/
structure Scene (σ : Type) where
  now : Instant
  files : FileTree
  state : σ

/-- What a collaborator answers: a result, the files and its state afterwards, how long it took,
and what happened meanwhile. -/
structure Reply (σ α : Type) where
  result : Except Stop α
  files : FileTree
  state : σ
  elapsed : Duration
  happenings : List Happening

/-- A collaborator's part in something. -/
abbrev Door (σ α : Type) := Scene σ → Reply σ α

/-- A process that was started: its number, its output so far, and what it will do by itself, each
time after the start. -/
structure Launch where
  pid : UInt32
  output : Bytes
  course : List (Duration × Happening)

/-- Whoever starts commands, with an environment, where certain files are. -/
abbrev Launcher := List String → Environment → FileTree → Except IoError Launch

/-- Whoever a session deals with while it lasts. -/
structure Collaborators (σ : Type) where
  /-- Asks the freezer for a state. -/
  request : FreezeState → Door σ Unit
  /-- Looks at the freezer; it may be on its way to a state. -/
  observe : Door σ (Option FreezeState)
  /-- Finds the heap of a process, which may have none yet. -/
  heapRange : UInt32 → Door σ (Option HeapRange)
  /-- Records the pages of a heap in an artifact and counts them. -/
  classify : (pid iteration : UInt32) → (artifact : Path) → HeapRange → Door σ UInt64
  /-- How late a sleeper wakes who is to be woken at a moment, whenever the sleep began. -/
  oversleep : σ → Instant → Duration

/-- When a sleeper wakes who is to be woken at a moment. -/
def Collaborators.wakes (c : Collaborators σ) (state : σ) (due : Instant) : Instant :=
  due.later (c.oversleep state due)

/-! ## Sessions -/

/-- The subject: its number, how it ended if it did, and whether that was noticed. -/
structure Subject where
  pid : UInt32
  status : Option ExitStatus
  noticed : Bool
  deriving DecidableEq, Repr

/-- Everything that changes while a subject is monitored. -/
structure Session (σ : Type) where
  now : Instant
  files : FileTree
  state : σ
  subject : Option Subject
  /-- The monitor has been asked to stop. -/
  cancelled : Bool
  /-- Control events that have not been taken up, oldest first. -/
  inbox : List ControlEvent
  /-- What will happen outside, in the order of time. -/
  agenda : List (Instant × Happening)
  history : History
  trace : List (Instant × Event)

/-- A step of a session that may stop without a result. -/
abbrev Act (σ : Type) := ExceptT Stop (StateM (Session σ))

namespace Session

/-- A session in which nothing has happened yet. -/
def start (now : Instant) (files : FileTree) (state : σ) : Session σ where
  now := now
  files := files
  state := state
  subject := none
  cancelled := false
  inbox := []
  agenda := []
  history := .empty
  trace := []

/-- What collaborators see of a session. -/
def scene (s : Session σ) : Scene σ :=
  ⟨s.now, s.files, s.state⟩

/-- The session with an event at the front of its trace. -/
def note (s : Session σ) (e : Event) : Session σ :=
  { s with trace := (s.now, e) :: s.trace }

/-- The session after something has happened outside. -/
def happen (s : Session σ) : Happening → Session σ
  | .interrupt => { s with cancelled := true }
  | .control c => { s with inbox := s.inbox ++ [c] }
  | .subjectEnds status =>
    { s with subject := s.subject.map fun p =>
        if p.status.isNone then { p with status := some status } else p }

/-- The session at a moment, unless that has passed, after everything on the agenda that was due
by then. -/
def advanceTo (s : Session σ) (t : Instant) : Session σ :=
  let now := if s.now ≤ t then t else s.now
  let (due, later) := s.agenda.partition fun p => p.1 ≤ now
  { due.foldl (fun s p => s.happen p.2) s with now := now, agenda := later }

/-- The session with more on its agenda. -/
def schedule (s : Session σ) (plans : List (Instant × Happening)) : Session σ :=
  { s with agenda := (s.agenda ++ plans).mergeSort fun a b => a.1 ≤ b.1 }

/-- The session after a collaborator's reply. -/
def absorb (s : Session σ) (r : Reply σ α) : Session σ :=
  let s := { s with files := r.files, state := r.state }
  r.happenings.foldl happen (s.advanceTo (s.now.later r.elapsed))

end Session

namespace Act

/-- Deals with a collaborator and keeps the event in the trace. -/
def call (door : Door σ α) (event : Option α → Event) : Act σ α := fun s =>
  let r := door s.scene
  (r.result, (s.note (event r.result.toOption)).absorb r)

/-- Keeps an event in the trace. -/
def note (e : Event) : Act σ Unit :=
  modify fun s => s.note e

/-- Stops with an error. -/
def fail (e : MonitorError) : Act σ α :=
  throw (.error e)

/-- Changes the files. -/
def onFiles (change : FileTree → Except MonitorError α × FileTree) : Act σ α := fun s =>
  let (result, files) := change s.files
  (result.mapError .error, { s with files })

/-- Looks something up in the files. -/
def fromFiles (look : FileTree → Except MonitorError α) : Act σ α := fun s =>
  ((look s.files).mapError .error, s)

/-- The present moment. -/
def now : Act σ Instant := do
  return (← get).now

/-- The moment a duration from now. -/
def deadlineIn (d : Duration) : Act σ Instant := do
  match (← now).later? d with
  | some t => return t
  | none => throw (.fault .instantOverflow)

/-- Lets time pass. -/
def sleep (c : Collaborators σ) (d : Duration) : Act σ Unit :=
  modify fun s => s.advanceTo (c.wakes s.state (s.now.later d))

/-- Asks the freezer for a state. -/
def request (c : Collaborators σ) (target : FreezeState) : Act σ Unit :=
  call (c.request target) fun answer => .requested target answer.isSome

/-- Looks at the freezer. -/
def observe (c : Collaborators σ) : Act σ (Option FreezeState) :=
  call c.observe .observed

/-- Finds the heap of a process. -/
def heapRange (c : Collaborators σ) (pid : UInt32) : Act σ (Option HeapRange) :=
  call (c.heapRange pid) .mapped

/-- Records the pages of a heap and counts them. -/
def classify (c : Collaborators σ) (pid iteration : UInt32) (artifact : Path) (heap : HeapRange) :
    Act σ UInt64 :=
  call (c.classify pid iteration artifact heap) (.classified iteration artifact)

/-- The subject is found alive. Its end is noticed at most once. The look itself is taken never to
fail, since the subject is a child of the monitor that nobody else waits for. -/
def subjectAlive : Act σ Bool := do
  match (← get).subject with
  | none => return false
  | some p =>
    match p.status with
    | none => return true
    | some status =>
      unless p.noticed do
        note (.exitNoticed status)
        modify fun s => { s with subject := some { p with noticed := true } }
      return false

end Act

end HeapSampler

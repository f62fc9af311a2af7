import HeapSampler.Heap.Maps
import HeapSampler.Heap.Pagemap
import HeapSampler.Freezer.Groups
import HeapSampler.Rehearsal.Stage

/-!
# Scripted collaborators

In a rehearsal the freezer, the memory maps and the classifier follow scripts. A scripted freezer
settles on a requested state after a number of looks that the script gives for each request; it
can also ignore requests, and requests and looks can fail. Each collaborator can instead be the one
that works on files. The clock wakes sleepers at whole milliseconds.
-/

namespace HeapSampler.Rehearsal

/-- What happens outside when a cue is given. -/
inductive Action where
  | cancel
  | control (c : ControlEvent)
  | kill
  deriving DecidableEq, Repr

/-- What an action makes happen. -/
def Action.happening : Action → Happening
  | cancel => .interrupt
  | control c => .control c
  | kill => .subjectEnds (.signal killSignal)

/-- A scripted freezer. -/
structure FreezerScript where
  /-- The state before the first request, if the freezer has settled. -/
  initial : Option FreezeState
  /-- How many looks each request takes; nothing for one that is ignored. -/
  lags : List (Option Nat)
  /-- How many looks any further request takes. -/
  rest : Option Nat
  /-- The requests that fail, counted from zero. -/
  failRequests : List Nat
  /-- The looks that fail, counted from zero. -/
  failLooks : List Nat
  /-- What certain looks read instead of the state. -/
  readings : List (Nat × String)
  deriving DecidableEq, Repr

/-- A freezer: a script, or a state file. -/
inductive FreezerPart where
  | scripted (script : FreezerScript)
  | file (path : Path)
  deriving DecidableEq, Repr

/-- One answer of scripted memory maps, and what happens before it is given. -/
structure MapCue where
  actions : List Action
  answer : Except IoError (Option HeapRange)

/-- Memory maps: a script whose last answer is repeated, or the descriptions of processes. -/
inductive MapsPart where
  | scripted (cues : List MapCue)
  | processes

/-- A classifier: one that writes no more than the iteration, with counts of its own and calls that
fail; or one that reads page maps. -/
inductive ClassifierPart where
  | scripted (pages : List UInt64) (failCalls : List Nat)
  | pagemap (m : Pagemap)

/-- All parts of a rehearsal. -/
structure Cast where
  freezer : FreezerPart
  maps : MapsPart
  classifier : ClassifierPart

/-- How far a rehearsal has come. -/
structure Cues where
  /-- The requests to the freezer so far, newest first. -/
  requests : List (Instant × FreezeState)
  /-- The number of looks at the freezer so far. -/
  looks : Nat
  /-- The state on the way, and the looks that it still takes. -/
  pending : Option (Nat × FreezeState)
  /-- The settled state. -/
  settled : Option FreezeState
  /-- The number of heaps looked up so far. -/
  heaps : Nat
  /-- The number of heaps classified so far. -/
  classified : Nat
  deriving DecidableEq, Repr

/-- Nothing has been asked yet. -/
def Cues.start (cast : Cast) : Cues where
  requests := []
  looks := 0
  pending := none
  settled := match cast.freezer with
    | .scripted script => script.initial
    | .file _ => none
  heaps := 0
  classified := 0

/-- An answer that takes no time. -/
def reply (s : Scene Cues) (cues : Cues) (result : Except Stop α) : Reply Cues α :=
  ⟨result, s.files, cues, .zero, []⟩

/-- The failure of a scripted freezer. -/
def freezerFailure : Stop :=
  .error (.freezerUnreachable (Path.ofString "freezer.state") (.system ⟨5⟩))

/-- The item at a place of a list, or its last one behind the end. -/
def lastRepeated? (xs : List α) (place : Nat) : Option α :=
  (xs[place]?).or xs.getLast?

namespace FreezerScript

/-- How many looks a request takes. -/
def lag (f : FreezerScript) (place : Nat) : Option Nat :=
  (f.lags[place]?).getD f.rest

/-- A request to the scripted freezer. -/
def request (f : FreezerScript) (target : FreezeState) : Door Cues Unit := fun s =>
  let place := s.state.requests.length
  let cues := { s.state with requests := (s.now, target) :: s.state.requests }
  if f.failRequests.contains place then reply s cues (.error freezerFailure)
  else
    match f.lag place with
    | none => reply s cues (.ok ())
    | some lag => reply s { cues with pending := some (lag, target) } (.ok ())

/-- A look at the scripted freezer. -/
def observe (f : FreezerScript) : Door Cues (Option FreezeState) := fun s =>
  let place := s.state.looks
  let cues := { s.state with looks := place + 1 }
  if f.failLooks.contains place then reply s cues (.error freezerFailure)
  else
    match f.readings.lookup place with
    | some raw =>
      reply s cues ((FreezeState.parse raw).mapError fun word => .error (.unknownState word))
    | none =>
      match cues.pending with
      | some (0, target) =>
        reply s { cues with pending := none, settled := some target } (.ok (some target))
      | some (lag + 1, target) => reply s { cues with pending := some (lag, target) } (.ok none)
      | none => reply s cues (.ok cues.settled)

end FreezerScript

/-- A request to a freezer. -/
def FreezerPart.request (f : FreezerPart) (target : FreezeState) : Door Cues Unit :=
  match f with
  | .scripted script => script.request target
  | .file path => fun s =>
    let (result, files) := StateFile.request path target s.files
    ⟨result.mapError .error, files, s.state, .zero, []⟩

/-- A look at a freezer. -/
def FreezerPart.observe (f : FreezerPart) : Door Cues (Option FreezeState) :=
  match f with
  | .scripted script => script.observe
  | .file path => fun s => reply s s.state ((StateFile.observe path s.files).mapError .error)

/-- The directory that describes processes. -/
def processRoot : Path := Path.ofString "/proc"

/-- The size of a page. -/
def pageSize : UInt64 := 4096

/-- The heap of a process. -/
def MapsPart.heapRange (m : MapsPart) (pid : UInt32) : Door Cues (Option HeapRange) := fun s =>
  match m with
  | .scripted cues =>
    let state := { s.state with heaps := s.state.heaps + 1 }
    match lastRepeated? cues s.state.heaps with
    | none => reply s state (.ok none)
    | some cue =>
      ⟨cue.answer.mapError fun e => .error (.io e), s.files, state, .zero,
        cue.actions.map Action.happening⟩
  | .processes => reply s s.state ((MemoryMap.heapOf processRoot s.files pid).mapError .error)

/-- The classification of a heap. -/
def ClassifierPart.classify (c : ClassifierPart) (pid iteration : UInt32) (artifact : Path)
    (heap : HeapRange) : Door Cues UInt64 := fun s =>
  match c with
  | .scripted pages failCalls =>
    let place := s.state.classified
    let state := { s.state with classified := place + 1 }
    if failCalls.contains place then
      reply s state (.error (.error (.artifactNotWritten artifact (.system ⟨28⟩))))
    else
      match s.files.write artifact (Bytes.ofString (Decimal.text iteration.toNat ++ "\n")) with
      | .error cause => reply s state (.error (.error (.artifactNotWritten artifact cause)))
      | .ok files =>
        let count := (lastRepeated? pages place).getD (heap.size / pageSize)
        ⟨.ok count, files, state, .zero, []⟩
  | .pagemap m =>
    let (result, files) := m.classify s.now s.files pid iteration artifact heap
    ⟨result, files, s.state, .zero, []⟩

/-- How late a sleeper wakes on a clock that wakes sleepers at whole milliseconds. -/
def toWholeMilli (_ : σ) (due : Instant) : Duration :=
  due.ceilMilli.since due

/-- A cast as collaborators. -/
def Cast.collaborators (cast : Cast) : Collaborators Cues where
  request := cast.freezer.request
  observe := cast.freezer.observe
  heapRange := cast.maps.heapRange
  classify := cast.classifier.classify
  oversleep := toWholeMilli

/-- The cast in which everyone works on files. -/
def Cast.real (g : Groups) : Cast where
  freezer := .file g.stateFile
  maps := .processes
  classifier := .pagemap ⟨processRoot, pageSize⟩

/-- Starts commands whose course is played by hand, and not on the session's clock. -/
def launchStill : Launcher := fun command env t => do
  return { ← Shell.launch command env t with course := [] }

end HeapSampler.Rehearsal

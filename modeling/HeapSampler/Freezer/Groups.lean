import HeapSampler.Error
import HeapSampler.Host.FileTree

/-!
# The groups of a run

A run has a group of its own in the memory hierarchy, which limits it, and one in the freezer
hierarchy, through which it is stopped. Both lie below the group that the plan names. A group is
a directory, and writing to its files is what changes it.
-/

namespace HeapSampler

/-- The first candidate directory that has a memory controller. -/
def locateMount (t : FileTree) (candidates : List Path) : Except MonitorError Path :=
  match candidates.find? fun c => t.isDir (c / "memory") with
  | some mount => .ok mount
  | none => .error (.noMemoryController candidates)

/-- The directories of a run's two groups. -/
structure Groups where
  memory : Path
  freezer : Path
  deriving DecidableEq, Repr

namespace Groups

/-- The groups named `leaf` below `group` in the hierarchies under a mount. -/
def under (mount : Path) (group leaf : String) : Groups where
  memory := mount / "memory" / group / leaf
  freezer := mount / "freezer" / group / leaf

/-- The file with the freezer's state. -/
def stateFile (g : Groups) : Path :=
  g.freezer / "freezer.state"

/-- The file with the memory limit. -/
def limitFile (g : Groups) : Path :=
  g.memory / "memory.limit_in_bytes"

/-- The file to which a process number is written to move the process into a group. -/
def tasksFile (group : Path) : Path :=
  group / "tasks"

/-- The tree with a directory removed, if it can be. -/
def removeIfPossible (t : FileTree) (p : Path) : FileTree :=
  match t.removeDir p with
  | .ok t => t
  | .error _ => t

/-- The tree with a directory, which may be there already, and whether it had to be made. -/
def ensure (t : FileTree) (p : Path) : Except MonitorError (Bool × FileTree) :=
  match t.createDir p with
  | .ok t => .ok (true, t)
  | .error cause =>
    if cause = .system .alreadyExists ∧ t.isDir p then .ok (false, t)
    else .error (.groupNotCreated p cause)

/-- Makes both groups; groups that are there already are used. If the second cannot be made, the
first is removed again unless it was there before. -/
def create (g : Groups) (t : FileTree) : Except MonitorError Unit × FileTree :=
  match ensure t g.memory with
  | .error e => (.error e, t)
  | .ok (made, t) =>
    match ensure t g.freezer with
    | .error e => (.error e, if made then removeIfPossible t g.memory else t)
    | .ok (_, t) => (.ok (), t)

/-- Writes the memory limit. -/
def limit (g : Groups) (bytes : UInt64) (t : FileTree) : Except MonitorError Unit × FileTree :=
  match t.write g.limitFile (Bytes.ofString (Decimal.text bytes.toNat)) with
  | .ok t => (.ok (), t)
  | .error cause => (.error (.limitNotSet g.limitFile cause), t)

/-- Moves a process into a group. -/
def attachTo (group : Path) (pid : UInt32) (t : FileTree) : Except MonitorError Unit × FileTree :=
  match t.write (tasksFile group) (Bytes.ofString (Decimal.text pid.toNat)) with
  | .ok t => (.ok (), t)
  | .error cause => (.error (.notAttached pid (tasksFile group) cause), t)

/-- Moves a process into both groups. -/
def attach (g : Groups) (pid : UInt32) (t : FileTree) : Except MonitorError Unit × FileTree :=
  match attachTo g.memory pid t with
  | (.error e, t) => (.error e, t)
  | (.ok (), t) => attachTo g.freezer pid t

/-- Removes both groups as far as possible. -/
def destroy (g : Groups) (t : FileTree) : FileTree :=
  removeIfPossible (removeIfPossible t g.memory) g.freezer

end Groups

/-! ## The state file -/

namespace StateFile

/-- Asks for a state by writing it. -/
def request (file : Path) (target : FreezeState) (t : FileTree) :
    Except MonitorError Unit × FileTree :=
  match t.write file (Bytes.ofString target.word) with
  | .ok t => (.ok (), t)
  | .error cause => (.error (.freezerUnreachable file cause), t)

/-- Reads the state that the file reports. -/
def observe (file : Path) (t : FileTree) : Except MonitorError (Option FreezeState) :=
  match t.readText file with
  | .error cause => .error (.freezerUnreachable file cause)
  | .ok raw => (FreezeState.parse raw).mapError .unknownState

end StateFile

end HeapSampler

import HeapSampler.Freezer.State
import HeapSampler.Host.Errno
import HeapSampler.Host.Path
import HeapSampler.Text.Quoted

/-!
# What can go wrong

`MonitorError` lists the causes that end a run, with one wording for each. A `Fault` is a step
that has no result at all, such as a moment that the clock cannot hold: it ends the program on the
spot, without any clean-up.
-/

namespace HeapSampler

/-- What is wrong with the plan of a run. -/
inductive PlanFlaw where
  | emptyGroup
  | emptyCommand
  | zeroInterval
  deriving DecidableEq, Repr

/-- The wording of a flaw. -/
def PlanFlaw.message : PlanFlaw → String
  | emptyGroup => "cgroup name is empty"
  | emptyCommand => "empty subject command"
  | zeroInterval => "sampling interval must be positive"

/-- Why a process could not be inspected. -/
inductive ProcessError where
  /-- There is no such process, or it has no page map. -/
  | missing
  /-- Its page map could not be read, or ended early. -/
  | unreadable
  deriving DecidableEq, Repr

/-- Why a run did not start or ended early. -/
inductive MonitorError where
  /-- No candidate directory has a memory controller. -/
  | noMemoryController (candidates : List Path)
  /-- The interposer was not found on the search path. -/
  | interposerMissing (library searchVariable : String)
  /-- The subject could not be started. -/
  | launchFailed (command : String) (cause : IoError)
  /-- The freezer did not reach a state in time. -/
  | freezerStuck (target : FreezeState)
  /-- A group directory could not be created. -/
  | groupNotCreated (path : Path) (cause : IoError)
  /-- The memory limit could not be written. -/
  | limitNotSet (path : Path) (cause : IoError)
  /-- The subject could not be put into a group. -/
  | notAttached (pid : UInt32) (path : Path) (cause : IoError)
  /-- The freezer's state could not be read or written. -/
  | freezerUnreachable (path : Path) (cause : IoError)
  /-- The freezer's state is no known word. -/
  | unknownState (word : String)
  /-- The plan of the run is flawed. -/
  | invalidPlan (flaw : PlanFlaw)
  /-- The file for the pages of a snapshot could not be written. -/
  | artifactNotWritten (path : Path) (cause : IoError)
  /-- The subject's pages could not be inspected. -/
  | processNotRead (cause : ProcessError)
  /-- Any other operation on files or processes failed. -/
  | io (cause : IoError)
  deriving DecidableEq, Repr

namespace MonitorError

/-- The failure behind an error. -/
def cause? : MonitorError → Option IoError
  | launchFailed _ cause | groupNotCreated _ cause | limitNotSet _ cause
  | notAttached _ _ cause | freezerUnreachable _ cause | artifactNotWritten _ cause
  | io cause => some cause
  | _ => none

/-- The wording of an error. -/
def message : MonitorError → String
  | noMemoryController candidates =>
    "No cgroup memory controller found below any of " ++
      Quoted.list (candidates.map fun p => Quoted.ofBytes p.bytes)
  | interposerMissing library searchVariable =>
    "Cannot find " ++ library ++ " in $" ++ searchVariable ++
      "; add its directory to the search path"
  | launchFailed command cause => "Failed to start `" ++ command ++ "`: " ++ cause.message
  | freezerStuck target =>
    "Cgroup ended up in a deadlock: freezer never reported " ++ target.word
  | groupNotCreated path cause =>
    "Failed to create cgroup " ++ Quoted.ofBytes path.bytes ++ ": " ++ cause.message
  | limitNotSet path cause =>
    "Failed to set memory limit through " ++ Quoted.ofBytes path.bytes ++ ": " ++ cause.message
  | notAttached pid path cause =>
    "Failed to attach pid " ++ Decimal.text pid.toNat ++ " to " ++ Quoted.ofBytes path.bytes ++
      ": " ++ cause.message
  | freezerUnreachable path cause =>
    "Failed to access freezer state " ++ Quoted.ofBytes path.bytes ++ ": " ++ cause.message
  | unknownState word => "Freezer reported an unknown state: " ++ Quoted.ofString word
  | invalidPlan flaw => "Invalid run configuration: " ++ flaw.message
  | artifactNotWritten path cause =>
    "Failed to write artifact " ++ Quoted.ofBytes path.bytes ++ ": " ++ cause.message
  | processNotRead .missing => "Failed to read procfs info: no such process"
  | processNotRead .unreadable => "Failed to read procfs info: the page map is unreadable"
  | io cause => "I/O error: " ++ cause.message

end MonitorError

/-- A step without a result. -/
inductive Fault where
  /-- A deadline lies beyond what the clock can hold. -/
  | instantOverflow
  /-- A page size of zero. -/
  | divisionByZero
  /-- A wait during which no time passes was repeated without end. -/
  | stalledClock
  deriving DecidableEq, Repr

/-- The wording of a fault. -/
def Fault.message : Fault → String
  | instantOverflow => "overflow when adding duration to instant"
  | divisionByZero => "attempt to divide by zero"
  | stalledClock => "the clock stands still"

/-- Why a computation stopped without a result. -/
inductive Stop where
  | error (e : MonitorError)
  | fault (f : Fault)
  deriving DecidableEq, Repr

instance : Coe MonitorError Stop := ⟨.error⟩

end HeapSampler

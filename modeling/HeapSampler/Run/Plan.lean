import HeapSampler.Error
import HeapSampler.Host.Clock

/-!
# The plan of a run

What is to be run, where and under which limit, and what makes a snapshot due.
-/

namespace HeapSampler

/-- What makes a snapshot due. -/
inductive SamplingMode where
  /-- A pause of this length since the last one. -/
  | interval (period : Duration)
  /-- A request from outside. -/
  | onRequest
  deriving DecidableEq, Repr

/-- The parameters of a run, which do not change while it lasts. -/
structure RunPlan where
  /-- The group below which the run's own group is made. -/
  group : String
  /-- The most memory that the subject may use, in bytes. -/
  memoryLimit : UInt64
  /-- The pause between two snapshots; without one, snapshots are taken on request. -/
  interval : Option Duration
  /-- The subject's program and its arguments. -/
  command : List String
  /-- Where all files of the run go, if not to the working directory. -/
  directory : Option Path
  deriving DecidableEq, Repr

namespace RunPlan

/-- What makes a snapshot due. -/
def mode (p : RunPlan) : SamplingMode :=
  match p.interval with
  | some period => .interval period
  | none => .onRequest

/-- The command as one line. -/
def commandLine (p : RunPlan) : String :=
  String.intercalate " " p.command

/-- The first flaw of the plan. -/
def flaw? (p : RunPlan) : Option PlanFlaw :=
  if p.group.isEmpty then some .emptyGroup
  else if p.command.head?.all String.isEmpty then some .emptyCommand
  else if p.interval.any Duration.isZero then some .zeroInterval
  else none

/-- The plan has no flaw. -/
def validate (p : RunPlan) : Except MonitorError Unit :=
  match p.flaw? with
  | some flaw => .error (.invalidPlan flaw)
  | none => .ok ()

end RunPlan

end HeapSampler

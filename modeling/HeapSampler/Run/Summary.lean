import HeapSampler.Host.FileTree
import HeapSampler.Json.Reader
import HeapSampler.Json.Writer
import HeapSampler.Run.History
import HeapSampler.Run.Plan
import HeapSampler.Subject.Interposer

/-!
# The summary of a run

What a run leaves behind besides its artifacts: one JSON object with what was run and what was
recorded.
-/

namespace HeapSampler

/-- The summary of a run. -/
structure Summary where
  command : String
  memoryLimit : UInt64
  mode : SamplingMode
  depth : String
  shift : String
  peak : UInt64
  iterations : UInt32
  pid : UInt32
  outfile : String
  sizes : List UInt64
  artifacts : List String
  deriving DecidableEq, Repr

/-- The interval in the summary: its whole seconds, or a word for no interval. -/
def SamplingMode.toJson : SamplingMode → Json
  | .interval period => .number period.seconds
  | .onRequest => .string "signal-driven"

namespace Summary

/-- The summary of what a history has recorded. -/
def ofHistory (plan : RunPlan) (interposer : Interposer) (pid : UInt32) (h : History) : Summary where
  command := plan.commandLine
  memoryLimit := plan.memoryLimit
  mode := plan.mode
  depth := interposer.depth
  shift := interposer.shift
  peak := h.peak
  iterations := h.iteration
  pid := pid
  outfile := interposer.outfileFor pid
  sizes := h.sizes
  artifacts := h.artifacts

/-- The summary as a JSON object. -/
def toJson (s : Summary) : Json :=
  .object [
    ("Executed Command", .string s.command),
    ("Memory Limit", .number s.memoryLimit.toNat),
    ("Interval", s.mode.toJson),
    ("Stacktrace Depth", .string s.depth),
    ("Interpose Shift", .string s.shift),
    ("Maximum Heapsize", .number s.peak.toNat),
    ("Number Of Output Files", .number s.iterations.toNat),
    ("Pid", .number s.pid.toNat),
    ("Malloc Output File", .string s.outfile),
    ("Heap Sizes", .array (s.sizes.map fun n => .number n.toNat)),
    ("Output Files", .array (s.artifacts.map .string)) ]

/-- The text of a summary file. -/
def text (s : Summary) : String :=
  s.toJson.pretty ++ "\n"

/-- The file tree with a summary written. -/
def write (s : Summary) (t : FileTree) (p : Path) : Except MonitorError FileTree :=
  (t.write p (Bytes.ofString s.text)).mapError .io

end Summary

end HeapSampler

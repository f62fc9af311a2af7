import HeapSampler.Settings.Basic
import HeapSampler.Toml.Scalar
import HeapSampler.Toml.Writer

/-!
# Settings as a document

Settings are written section by section, with every setting. Durations become whole numbers of
their unit, a half counting as one. Numbers beyond a signed 64-bit number and paths that are not
UTF-8 have no form in a document.
-/

namespace HeapSampler.Settings

open Toml

/-- A key with its value. -/
def entryText (name value : String) : String :=
  name ++ " = " ++ value ++ "\n"

/-- A number, if it is small enough. -/
def natText (n : Nat) : Option String :=
  if Scalar.inRange n then some (Decimal.text n) else none

/-- A duration in units of so many nanoseconds. -/
def durationText (unit : Nat) (d : Duration) : Option String :=
  natText (d.roundedTo unit)

/-- A list of paths. -/
def pathsText (ps : List Path) : Option String := do
  return Writer.strings (← ps.mapM Path.text?)

/-- The section for groups. -/
def groupsText (g : GroupSettings) : Option String := do
  return "[cgroup]\n" ++
    entryText "mount_candidates" (← pathsText g.mountCandidates) ++
    entryText "leaf" (Writer.string g.leaf) ++
    entryText "poll_interval" (← durationText Duration.nanosPerMilli g.pollInterval) ++
    entryText "transition_timeout" (← durationText Duration.nanosPerSecond g.transitionTimeout) ++
    entryText "retries" (Decimal.text g.retries.toNat)

/-- The section for the subject. -/
def subjectText (s : SubjectSettings) : Option String := do
  return "[subject]\n" ++
    entryText "interposer" (Writer.string s.interposer) ++
    entryText "search_path_var" (Writer.string s.searchVariable) ++
    entryText "output_file" (Writer.string s.outputFile) ++
    entryText "liveness_poll" (← durationText Duration.nanosPerMilli s.livenessPoll) ++
    entryText "outfile_template" (Writer.string s.outfileTemplate) ++
    entryText "depth" (Decimal.text s.depth.toNat) ++
    entryText "shift" (Decimal.text s.shift.toNat)

/-- The section for the output. -/
def outputText (o : OutputSettings) : String :=
  "[output]\n" ++
    entryText "summary_file" (Writer.string o.summaryFile) ++
    entryText "artifact_prefix" (Writer.string o.artifactPrefix)

/-- All settings as a document. -/
def encode (s : Settings) : Option String := do
  return (← groupsText s.groups) ++ "\n" ++ (← subjectText s.subject) ++ "\n" ++
    outputText s.output

end HeapSampler.Settings

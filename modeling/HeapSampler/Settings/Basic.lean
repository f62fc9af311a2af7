import HeapSampler.Host.Clock
import HeapSampler.Host.Errno
import HeapSampler.Host.Path
import HeapSampler.Text.Decimal

/-!
# Settings

Everything that can be tuned, in three sections, with the values that hold unless a file says
otherwise. `Settings.repaired` mends what a file may say but no run can use.
-/

namespace HeapSampler

/-- How the subject's groups are found and used. -/
structure GroupSettings where
  /-- Directories that may hold the controllers, in the order in which they are tried. -/
  mountCandidates : List Path
  /-- The name of the group made for a run. -/
  leaf : String
  /-- The pause between two looks at the freezer. -/
  pollInterval : Duration
  /-- The time after which an unanswered request is repeated. -/
  transitionTimeout : Duration
  /-- How often a request is repeated. -/
  retries : UInt32
  deriving DecidableEq, Repr

/-- How the subject is started and watched. -/
structure SubjectSettings where
  /-- The file name of the interposer. -/
  interposer : String
  /-- The variable that lists the directories in which the interposer is searched. -/
  searchVariable : String
  /-- The file that takes the subject's output. -/
  outputFile : String
  /-- How often the subject is looked at while no snapshots are due. -/
  livenessPoll : Duration
  /-- The interposer's output file; `%p` stands for the subject's process number. -/
  outfileTemplate : String
  /-- The depth of the call stacks that the interposer records. -/
  depth : UInt32
  /-- The shift that the interposer applies. -/
  shift : UInt32
  deriving DecidableEq, Repr

/-- How the files that a run leaves are named. -/
structure OutputSettings where
  /-- The name of the summary. -/
  summaryFile : String
  /-- What the names of all artifacts begin with. -/
  artifactPrefix : String
  deriving DecidableEq, Repr

/-- All settings. -/
structure Settings where
  groups : GroupSettings
  subject : SubjectSettings
  output : OutputSettings
  deriving DecidableEq, Repr

namespace GroupSettings

/-- The settings of this section that hold unless a file says otherwise. -/
def default : GroupSettings where
  mountCandidates := ["/sys/fs/cgroup", "/cgroup", "/mnt/cgroup"].map Path.ofString
  leaf := "heapfreeze"
  pollInterval := .ofMillis 1
  transitionTimeout := .ofSeconds 10
  retries := 1

end GroupSettings

namespace SubjectSettings

/-- The settings of this section that hold unless a file says otherwise. -/
def default : SubjectSettings where
  interposer := "libMallocHook.so"
  searchVariable := "LD_LIBRARY_PATH"
  outputFile := "output"
  livenessPoll := .ofSeconds 1
  outfileTemplate := "mallocOutput_%p.fom"
  depth := 100
  shift := 10

end SubjectSettings

namespace OutputSettings

/-- The settings of this section that hold unless a file says otherwise. -/
def default : OutputSettings where
  summaryFile := "FOMSummary.json"
  artifactPrefix := "iteration"

/-- The name of an iteration's artifact: the number follows the common beginning, with at least
four digits. -/
def artifactName (o : OutputSettings) (iteration : UInt32) : String :=
  o.artifactPrefix ++ Decimal.padded 4 iteration.toNat

end OutputSettings

/-- The list without elements that equal the element before them; the first of equals stays. -/
def dedupAdjacent (same : α → α → Bool) : List α → List α
  | [] => []
  | x :: xs =>
    let rec after (kept : α) : List α → List α
      | [] => []
      | y :: ys => if same kept y then after kept ys else y :: after y ys
    x :: after x xs

namespace Settings

/-- The settings that hold unless a file says otherwise. -/
def default : Settings where
  groups := .default
  subject := .default
  output := .default

/-- A duration, or another in place of no time at all. -/
def orElseZero (d fallback : Duration) : Duration :=
  if d.isZero then fallback else d

/-- The settings with pauses that are not empty, and without repeated mount candidates. -/
def repaired (s : Settings) : Settings :=
  { s with
    groups := { s.groups with
      pollInterval := orElseZero s.groups.pollInterval (.ofMillis 1)
      mountCandidates := dedupAdjacent Path.sameAs s.groups.mountCandidates }
    subject := { s.subject with
      livenessPoll := orElseZero s.subject.livenessPoll SubjectSettings.default.livenessPoll } }

end Settings

/-- Why settings could not be loaded or saved. -/
inductive SettingsError where
  /-- A value has no form in a file. -/
  | notEncodable
  /-- A file is well written, but a value in it has the wrong type; or any flaw of a single
  file. -/
  | notDecodable
  /-- A file is not well written. -/
  | notParsable
  /-- A file could not be read or written. -/
  | io (cause : IoError)
  deriving DecidableEq, Repr

/-- The wording of an error up to the details of the file's text. -/
def SettingsError.message : SettingsError → String
  | notEncodable => "Failed to serialize TOML:"
  | notDecodable => "Failed to deserialize TOML:"
  | notParsable => "Failed to parse TOML document:"
  | io cause => "Failed to read file: " ++ cause.message

end HeapSampler

import HeapSampler.Settings.Basic
import HeapSampler.Toml.Document

/-!
# Settings from a document

Each section is a table, and each setting a key of it. A missing section or setting keeps its
default and unknown keys are passed over, but a value of the wrong type is an error. A section may
also be an array of its settings in order, or a bare date, which sets nothing.
-/

namespace HeapSampler.Settings

open Toml

/-! ## Types of values -/

/-- A string. -/
def asString : Value → Option String
  | .string s => some s
  | _ => none

/-- A whole number that is not negative. -/
def asNat : Value → Option Nat
  | .integer n => if 0 ≤ n then some n.toNat else none
  | _ => none

/-- A 32-bit number. -/
def asUInt32 (v : Value) : Option UInt32 := do
  let n ← asNat v
  if n < UInt32.size then some (UInt32.ofNat n) else none

/-- A number of milliseconds. -/
def asMillis (v : Value) : Option Duration :=
  (asNat v).map .ofMillis

/-- A number of seconds. -/
def asSeconds (v : Value) : Option Duration :=
  (asNat v).map .ofSeconds

/-- A list of paths. -/
def asPaths : Value → Option (List Path)
  | .array items => items.mapM fun v => (asString v).map Path.ofString
  | _ => none

/-! ## Sections -/

/-- What a section says about its settings: a value, something of no type that a setting can have,
or nothing. -/
inductive Given where
  | value (v : Value)
  | mistyped
  | absent

/-- A section: how to look up the setting with a name and a place in the order of settings. -/
abbrev Section := String → Nat → Given

/-- The section that says nothing. -/
def Section.empty : Section := fun _ _ => .absent

/-- The section that a table's entries make. -/
def Section.ofEntries (es : Entries) : Section := fun name _ =>
  match es.lookup name with
  | some (.value v) => .value v
  | some _ => .mistyped
  | none => .absent

/-- The section that the fields of an inline table make. -/
def Section.ofFields (fields : List (String × Value)) : Section := fun name _ =>
  match fields.lookup name with
  | some v => .value v
  | none => .absent

/-- The section that a list of settings in order makes. -/
def Section.ofItems (items : List Value) : Section := fun _ place =>
  match items[place]? with
  | some v => .value v
  | none => .absent

/-- The section under a key of the document. -/
def Section.find (es : Entries) (name : String) : Option Section :=
  match es.lookup name with
  | none => some .empty
  | some (.table _ inner) => some (.ofEntries inner)
  | some (.tables _) => none
  | some (.value v) =>
    match v with
    | .inlineTable fields => some (.ofFields fields)
    | .array items => some (.ofItems items)
    | .dateTime _ => some .empty
    | _ => none

/-- A setting of a section, or its default. -/
def Section.get (s : Section) (name : String) (place : Nat) (read : Value → Option α)
    (fallback : α) : Option α :=
  match s name place with
  | .value v => read v
  | .mistyped => none
  | .absent => some fallback

/-- The settings for groups that a section makes. -/
def decodeGroups (s : Section) : Option GroupSettings := do
  let d := GroupSettings.default
  return {
    mountCandidates := ← s.get "mount_candidates" 0 asPaths d.mountCandidates
    leaf := ← s.get "leaf" 1 asString d.leaf
    pollInterval := ← s.get "poll_interval" 2 asMillis d.pollInterval
    transitionTimeout := ← s.get "transition_timeout" 3 asSeconds d.transitionTimeout
    retries := ← s.get "retries" 4 asUInt32 d.retries }

/-- The settings for the subject that a section makes. -/
def decodeSubject (s : Section) : Option SubjectSettings := do
  let d := SubjectSettings.default
  return {
    interposer := ← s.get "interposer" 0 asString d.interposer
    searchVariable := ← s.get "search_path_var" 1 asString d.searchVariable
    outputFile := ← s.get "output_file" 2 asString d.outputFile
    livenessPoll := ← s.get "liveness_poll" 3 asMillis d.livenessPoll
    outfileTemplate := ← s.get "outfile_template" 4 asString d.outfileTemplate
    depth := ← s.get "depth" 5 asUInt32 d.depth
    shift := ← s.get "shift" 6 asUInt32 d.shift }

/-- The settings for the output that a section makes. -/
def decodeOutput (s : Section) : Option OutputSettings := do
  let d := OutputSettings.default
  return {
    summaryFile := ← s.get "summary_file" 0 asString d.summaryFile
    artifactPrefix := ← s.get "artifact_prefix" 1 asString d.artifactPrefix }

/-- The settings that a document makes. -/
def decode (es : Entries) : Option Settings := do
  return {
    groups := ← decodeGroups (← Section.find es "cgroup")
    subject := ← decodeSubject (← Section.find es "subject")
    output := ← decodeOutput (← Section.find es "output") }

end HeapSampler.Settings

import Mathlib
import HeapSampler.Proofs.Toml.Merge
import HeapSampler.Settings.Files

/-!
# Settings in layers

Several files are laid over each other, and for each setting the last file that says anything of it wins.
`loadLayers_last_wins` says so of any number of files: only what wins needs the right type, and neither files
that are missing nor keys that no setting has make a difference.
-/

namespace HeapSampler.Settings

open Toml
open Toml.Entries (kindAt TableOrNone Distinct)

variable {α : Type}

/-! ## What is said of the settings -/

/-- What is said of a key in a section, if anything. -/
abbrev Saying := String → String → Option Kind

/-- What a document says. -/
def saying (es : Entries) : Saying :=
  fun heading name => kindAt [heading, name] es

/-- What the last of some documents says that says anything. -/
def winning (docs : List Entries) : Saying :=
  fun heading name => (docs.filterMap fun es => saying es heading name).getLast?

/-- A setting as it is said, or its default if nothing is said of it. There is none if something else than a
value of its type is said. -/
def told (read : Value → Option α) (fallback : α) : Option Kind → Option α
  | none => some fallback
  | some (.value v) => read v
  | some _ => none

/-- Every setting is as it is said, or has its default if nothing is said of it. -/
structure Follows (say : Saying) (s : Settings) : Prop where
  mountCandidates : told asPaths GroupSettings.default.mountCandidates (say "cgroup" "mount_candidates") =
    some s.groups.mountCandidates
  leaf : told asString GroupSettings.default.leaf (say "cgroup" "leaf") = some s.groups.leaf
  pollInterval : told asMillis GroupSettings.default.pollInterval (say "cgroup" "poll_interval") =
    some s.groups.pollInterval
  transitionTimeout : told asSeconds GroupSettings.default.transitionTimeout (say "cgroup" "transition_timeout") =
    some s.groups.transitionTimeout
  retries : told asUInt32 GroupSettings.default.retries (say "cgroup" "retries") = some s.groups.retries
  interposer : told asString SubjectSettings.default.interposer (say "subject" "interposer") =
    some s.subject.interposer
  searchVariable : told asString SubjectSettings.default.searchVariable (say "subject" "search_path_var") =
    some s.subject.searchVariable
  outputFile : told asString SubjectSettings.default.outputFile (say "subject" "output_file") =
    some s.subject.outputFile
  livenessPoll : told asMillis SubjectSettings.default.livenessPoll (say "subject" "liveness_poll") =
    some s.subject.livenessPoll
  outfileTemplate : told asString SubjectSettings.default.outfileTemplate (say "subject" "outfile_template") =
    some s.subject.outfileTemplate
  depth : told asUInt32 SubjectSettings.default.depth (say "subject" "depth") = some s.subject.depth
  shift : told asUInt32 SubjectSettings.default.shift (say "subject" "shift") = some s.subject.shift
  summaryFile : told asString OutputSettings.default.summaryFile (say "output" "summary_file") =
    some s.output.summaryFile
  artifactPrefix : told asString OutputSettings.default.artifactPrefix (say "output" "artifact_prefix") =
    some s.output.artifactPrefix

/-- A setting: its section, its key and the values of its type. -/
structure Field where
  heading : String
  name : String
  fits : Value → Bool

/-- All settings. -/
def fields : List Field := [
  ⟨"cgroup", "mount_candidates", fun v => (asPaths v).isSome⟩,
  ⟨"cgroup", "leaf", fun v => (asString v).isSome⟩,
  ⟨"cgroup", "poll_interval", fun v => (asMillis v).isSome⟩,
  ⟨"cgroup", "transition_timeout", fun v => (asSeconds v).isSome⟩,
  ⟨"cgroup", "retries", fun v => (asUInt32 v).isSome⟩,
  ⟨"subject", "interposer", fun v => (asString v).isSome⟩,
  ⟨"subject", "search_path_var", fun v => (asString v).isSome⟩,
  ⟨"subject", "output_file", fun v => (asString v).isSome⟩,
  ⟨"subject", "liveness_poll", fun v => (asMillis v).isSome⟩,
  ⟨"subject", "outfile_template", fun v => (asString v).isSome⟩,
  ⟨"subject", "depth", fun v => (asUInt32 v).isSome⟩,
  ⟨"subject", "shift", fun v => (asUInt32 v).isSome⟩,
  ⟨"output", "summary_file", fun v => (asString v).isSome⟩,
  ⟨"output", "artifact_prefix", fun v => (asString v).isSome⟩]

/-- What is said of a setting, if anything, is a value of its type. -/
def RightlyTyped (say : Saying) : Prop :=
  ∀ f ∈ fields, ∀ kind, say f.heading f.name = some kind → ∃ v, kind = .value v ∧ f.fits v

theorem told_isSome {read : Value → Option α} {fallback : α} {said : Option Kind} :
    (∃ a, told read fallback said = some a) ↔ ∀ kind, said = some kind → ∃ v, kind = .value v ∧ (read v).isSome := by
  rcases said with _ | (v | _ | _) <;> simp [told, Option.isSome_iff_exists]

/-- All settings can be as they are said if and only if what is said has the right types. -/
theorem follows_iff_rightlyTyped {say : Saying} : (∃ s, Follows say s) ↔ RightlyTyped say := by
  unfold RightlyTyped fields
  simp only [List.forall_mem_cons, List.not_mem_nil, false_implies, implies_true, and_true]
  constructor
  · rintro ⟨s, follows⟩
    exact ⟨told_isSome.1 ⟨_, follows.mountCandidates⟩, told_isSome.1 ⟨_, follows.leaf⟩, told_isSome.1 ⟨_, follows.pollInterval⟩,
      told_isSome.1 ⟨_, follows.transitionTimeout⟩, told_isSome.1 ⟨_, follows.retries⟩, told_isSome.1 ⟨_, follows.interposer⟩,
      told_isSome.1 ⟨_, follows.searchVariable⟩, told_isSome.1 ⟨_, follows.outputFile⟩, told_isSome.1 ⟨_, follows.livenessPoll⟩,
      told_isSome.1 ⟨_, follows.outfileTemplate⟩, told_isSome.1 ⟨_, follows.depth⟩, told_isSome.1 ⟨_, follows.shift⟩,
      told_isSome.1 ⟨_, follows.summaryFile⟩, told_isSome.1 ⟨_, follows.artifactPrefix⟩⟩
  · rintro ⟨candidates, leaf, poll, timeout, retries, interposer, search, output, liveness, template, depth, shift,
      summary, artifact⟩
    obtain ⟨_, candidates⟩ := told_isSome.2 candidates
    obtain ⟨_, leaf⟩ := told_isSome.2 leaf
    obtain ⟨_, poll⟩ := told_isSome.2 poll
    obtain ⟨_, timeout⟩ := told_isSome.2 timeout
    obtain ⟨_, retries⟩ := told_isSome.2 retries
    obtain ⟨_, interposer⟩ := told_isSome.2 interposer
    obtain ⟨_, search⟩ := told_isSome.2 search
    obtain ⟨_, output⟩ := told_isSome.2 output
    obtain ⟨_, liveness⟩ := told_isSome.2 liveness
    obtain ⟨_, template⟩ := told_isSome.2 template
    obtain ⟨_, depth⟩ := told_isSome.2 depth
    obtain ⟨_, shift⟩ := told_isSome.2 shift
    obtain ⟨_, summary⟩ := told_isSome.2 summary
    obtain ⟨_, artifact⟩ := told_isSome.2 artifact
    exact ⟨⟨⟨_, _, _, _, _⟩, ⟨_, _, _, _, _, _, _⟩, ⟨_, _⟩⟩, candidates, leaf, poll, timeout, retries, interposer,
      search, output, liveness, template, depth, shift, summary, artifact⟩

/-! ## One document -/

theorem decodeGroups_eq_some {part : Section} {g : GroupSettings} :
    decodeGroups part = some g ↔
      part.get "mount_candidates" 0 asPaths GroupSettings.default.mountCandidates = some g.mountCandidates ∧
      part.get "leaf" 1 asString GroupSettings.default.leaf = some g.leaf ∧
      part.get "poll_interval" 2 asMillis GroupSettings.default.pollInterval = some g.pollInterval ∧
      part.get "transition_timeout" 3 asSeconds GroupSettings.default.transitionTimeout = some g.transitionTimeout ∧
      part.get "retries" 4 asUInt32 GroupSettings.default.retries = some g.retries := by
  simp only [decodeGroups, Option.bind_eq_bind, Option.bind_eq_some_iff, Option.pure_def, Option.some.injEq]
  constructor
  · rintro ⟨_, candidates, _, leaf, _, poll, _, timeout, _, retries, rfl⟩
    exact ⟨candidates, leaf, poll, timeout, retries⟩
  · rintro ⟨candidates, leaf, poll, timeout, retries⟩
    exact ⟨_, candidates, _, leaf, _, poll, _, timeout, _, retries, rfl⟩

theorem decodeSubject_eq_some {part : Section} {g : SubjectSettings} :
    decodeSubject part = some g ↔
      part.get "interposer" 0 asString SubjectSettings.default.interposer = some g.interposer ∧
      part.get "search_path_var" 1 asString SubjectSettings.default.searchVariable = some g.searchVariable ∧
      part.get "output_file" 2 asString SubjectSettings.default.outputFile = some g.outputFile ∧
      part.get "liveness_poll" 3 asMillis SubjectSettings.default.livenessPoll = some g.livenessPoll ∧
      part.get "outfile_template" 4 asString SubjectSettings.default.outfileTemplate = some g.outfileTemplate ∧
      part.get "depth" 5 asUInt32 SubjectSettings.default.depth = some g.depth ∧
      part.get "shift" 6 asUInt32 SubjectSettings.default.shift = some g.shift := by
  simp only [decodeSubject, Option.bind_eq_bind, Option.bind_eq_some_iff, Option.pure_def, Option.some.injEq]
  constructor
  · rintro ⟨_, interposer, _, search, _, output, _, liveness, _, template, _, depth, _, shift, rfl⟩
    exact ⟨interposer, search, output, liveness, template, depth, shift⟩
  · rintro ⟨interposer, search, output, liveness, template, depth, shift⟩
    exact ⟨_, interposer, _, search, _, output, _, liveness, _, template, _, depth, _, shift, rfl⟩

theorem decodeOutput_eq_some {part : Section} {g : OutputSettings} :
    decodeOutput part = some g ↔
      part.get "summary_file" 0 asString OutputSettings.default.summaryFile = some g.summaryFile ∧
      part.get "artifact_prefix" 1 asString OutputSettings.default.artifactPrefix = some g.artifactPrefix := by
  simp only [decodeOutput, Option.bind_eq_bind, Option.bind_eq_some_iff, Option.pure_def, Option.some.injEq]
  constructor
  · rintro ⟨_, summary, _, artifact, rfl⟩
    exact ⟨summary, artifact⟩
  · rintro ⟨summary, artifact⟩
    exact ⟨_, summary, _, artifact, rfl⟩

/-- The headings of the sections. -/
def headings : List String := ["cgroup", "subject", "output"]

theorem heading_known : ∀ f ∈ fields, f.heading ∈ headings := by
  decide

/-- Every section is a table, if it is there. -/
def Sectioned (es : Entries) : Prop :=
  ∀ heading ∈ headings, TableOrNone heading es

/-- A section gives every setting as it is said, or its default. -/
def Gives (part : Section) (said : String → Option Kind) : Prop :=
  ∀ (α : Type) (name : String) (place : Nat) (read : Value → Option α) (fallback : α),
    part.get name place read fallback = told read fallback (said name)

/-- A section that is a table, or is not there, says what the document says under its heading. -/
theorem find_of_table {es : Entries} {heading : String} (table : TableOrNone heading es) :
    ∃ part, Section.find es heading = some part ∧ Gives part (saying es heading) := by
  obtain none | ⟨form, inner, found⟩ := table
  · refine ⟨.empty, by rw [Section.find, none], fun α name place read fallback => ?_⟩
    rw [saying, Entries.kindAt_of_none none]
    rfl
  · refine ⟨.ofEntries inner, by rw [Section.find, found], fun α name place read fallback => ?_⟩
    rw [saying, Entries.kindAt_of_table found, Entries.kindAt_single, Section.get, Section.ofEntries]
    rcases inner.lookup name with _ | _ | _ | _ <;> rfl

/-- The settings of a document are those that its sections give. -/
theorem decode_of_gives {es : Entries} {say : Saying} {s : Settings}
    (gives : ∀ heading ∈ headings, ∃ part, Section.find es heading = some part ∧ Gives part (say heading)) :
    decode es = some s ↔ Follows say s := by
  obtain ⟨groups, foundGroups, getGroups⟩ := gives "cgroup" (by simp [headings])
  obtain ⟨subject, foundSubject, getSubject⟩ := gives "subject" (by simp [headings])
  obtain ⟨output, foundOutput, getOutput⟩ := gives "output" (by simp [headings])
  unfold Gives at getGroups getSubject getOutput
  simp only [decode, foundGroups, foundSubject, foundOutput, Option.bind_eq_bind, Option.bind_some,
    Option.bind_eq_some_iff, Option.pure_def, Option.some.injEq, decodeGroups_eq_some, decodeSubject_eq_some,
    decodeOutput_eq_some, getGroups, getSubject, getOutput]
  constructor
  · rintro ⟨_, ⟨candidates, leaf, poll, timeout, retries⟩, _,
      ⟨interposer, search, output, liveness, template, depth, shift⟩, _, ⟨summary, artifact⟩, rfl⟩
    exact ⟨candidates, leaf, poll, timeout, retries, interposer, search, output, liveness, template, depth, shift,
      summary, artifact⟩
  · rintro ⟨candidates, leaf, poll, timeout, retries, interposer, search, output, liveness, template, depth, shift,
      summary, artifact⟩
    exact ⟨_, ⟨candidates, leaf, poll, timeout, retries⟩, _,
      ⟨interposer, search, output, liveness, template, depth, shift⟩, _, ⟨summary, artifact⟩, rfl⟩

theorem decode_eq_some {es : Entries} {s : Settings} (sectioned : Sectioned es) :
    decode es = some s ↔ Follows (saying es) s :=
  decode_of_gives fun heading known => find_of_table (sectioned heading known)

/-! ## Documents laid over each other -/

/-- A document, written out and read again, says the same. -/
def ReadsBack (es : Entries) : Prop :=
  ∃ es', Entries.ofStatements? es.toStatements = some es' ∧ ∀ path, kindAt path es' = kindAt path es

/-- The documents laid over each other. -/
def merged (docs : List Entries) : Entries :=
  docs.foldl Entries.over []

theorem winning_cons (es : Entries) (docs : List Entries) (heading name : String) :
    winning (es :: docs) heading name = (winning docs heading name).or (saying es heading name) := by
  rw [winning, winning, List.filterMap_cons]
  cases saying es heading name with
  | none => rw [Option.or_none]
  | some kind =>
    rw [List.getLast?_cons]
    cases (docs.filterMap fun es => saying es heading name).getLast? <;> rfl

theorem Sectioned.over_of {lower upper : Entries} (above : Sectioned upper) (distinct : Distinct upper)
    (under : Sectioned lower) : Sectioned (Entries.over lower upper) :=
  fun heading known => (under heading known).over distinct (above heading known)

/-- Documents laid over each other say what the last of them says that says anything. -/
theorem foldl_over_saying {docs : List Entries} (distinct : ∀ es ∈ docs, Distinct es)
    (sectioned : ∀ es ∈ docs, Sectioned es) {lower : Entries} (under : Sectioned lower) :
    Sectioned (docs.foldl Entries.over lower) ∧ ∀ heading ∈ headings, ∀ name,
      saying (docs.foldl Entries.over lower) heading name =
        (winning docs heading name).or (saying lower heading name) := by
  induction docs generalizing lower with
  | nil => exact ⟨under, fun heading known name => rfl⟩
  | cons es docs ih =>
    have first : Distinct es := distinct es List.mem_cons_self
    have table : Sectioned es := sectioned es List.mem_cons_self
    obtain ⟨still, follows⟩ := ih (fun d found => distinct d (List.mem_cons_of_mem es found))
      (fun d found => sectioned d (List.mem_cons_of_mem es found)) (table.over_of first under)
    -- a later document still wins over what this one has put over those before it
    refine ⟨still, fun heading known name => ?_⟩
    have between : saying (Entries.over lower es) heading name =
        (saying es heading name).or (saying lower heading name) :=
      Entries.kindAt_over first (under heading known) (table heading known)
    rw [List.foldl_cons, follows heading known name, between, winning_cons, Option.or_assoc]

/-! ## Files -/

/-- The documents in those of the files that exist: each is well written, and its sections are tables. -/
inductive Layers (t : FileTree) : List Path → List Entries → Prop where
  | nil : Layers t [] []
  | missing {p : Path} {ps : List Path} {docs : List Entries} (missing : t.contains p = false)
      (rest : Layers t ps docs) : Layers t (p :: ps) docs
  | file {p : Path} {ps : List Path} {docs : List Entries} {text : String} {es : Entries} (there : t.contains p = true)
      (content : t.readText p = .ok text) (parsed : Entries.parse? text = some es) (sectioned : Sectioned es)
      (rest : Layers t ps docs) : Layers t (p :: ps) (es :: docs)

theorem Layers.distinct {t : FileTree} {ps : List Path} {docs : List Entries} (layers : Layers t ps docs) :
    ∀ es ∈ docs, Distinct es ∧ Sectioned es := by
  induction layers with
  | nil => simp
  | missing missing rest ih => exact ih
  | file there content parsed sectioned rest ih =>
    intro es found
    rcases List.mem_cons.1 found with rfl | found
    · exact ⟨Entries.parse?_distinct parsed, sectioned⟩
    · exact ih es found

theorem readLayer_missing {t : FileTree} {p : Path} (missing : t.contains p = false) :
    readLayer t p = .ok none := by
  rw [readLayer, missing]
  rfl

theorem readLayer_file {t : FileTree} {p : Path} {text : String} {es : Entries} (there : t.contains p = true)
    (content : t.readText p = .ok text) (parsed : Entries.parse? text = some es) : readLayer t p = .ok (some es) := by
  rw [readLayer, there, content]
  simp only [if_true, Except.mapError, bind, Except.bind, parsed]
  rfl

theorem mergeLayers_eq {t : FileTree} {ps : List Path} {docs : List Entries} (layers : Layers t ps docs)
    (lower : Entries) : mergeLayers t lower ps = .ok (docs.foldl Entries.over lower) := by
  induction layers generalizing lower with
  | nil => rfl
  | missing missing rest ih =>
    rw [mergeLayers, readLayer_missing missing]
    exact ih lower
  | file there content parsed sectioned rest ih =>
    rw [mergeLayers, readLayer_file there content parsed]
    exact ih _

theorem mergeLayers_missing {t : FileTree} {p : Path} (missing : t.contains p = false) (before after : List Path)
    (lower : Entries) : mergeLayers t lower (before ++ p :: after) = mergeLayers t lower (before ++ after) := by
  induction before generalizing lower with
  | nil =>
    rw [List.nil_append, List.nil_append, mergeLayers, readLayer_missing missing]
    rfl
  | cons q before ih =>
    rw [List.cons_append, List.cons_append, mergeLayers, mergeLayers]
    cases readLayer t q with
    | error e => rfl
    | ok layer => cases layer <;> exact ih _

theorem Follows.congr {say say' : Saying} {s : Settings} (follows : Follows say s)
    (agree : ∀ f ∈ fields, say' f.heading f.name = say f.heading f.name) : Follows say' s := by
  simp only [fields, List.forall_mem_cons, List.not_mem_nil, false_implies, implies_true, and_true] at agree
  obtain ⟨candidates, leaf, poll, timeout, retries, interposer, search, output, liveness, template, depth, shift,
    summary, artifact⟩ := agree
  constructor
  · rw [candidates, follows.mountCandidates]
  · rw [leaf, follows.leaf]
  · rw [poll, follows.pollInterval]
  · rw [timeout, follows.transitionTimeout]
  · rw [retries, follows.retries]
  · rw [interposer, follows.interposer]
  · rw [search, follows.searchVariable]
  · rw [output, follows.outputFile]
  · rw [liveness, follows.livenessPoll]
  · rw [template, follows.outfileTemplate]
  · rw [depth, follows.depth]
  · rw [shift, follows.shift]
  · rw [summary, follows.summaryFile]
  · rw [artifact, follows.artifactPrefix]

/-- What is read back says what wins. -/
theorem decode_back {docs : List Entries} {es : Entries} {s : Settings} (sound : ∀ es ∈ docs, Distinct es ∧ Sectioned es)
    (same : ∀ path, kindAt path es = kindAt path (merged docs)) : decode es = some s ↔ Follows (winning docs) s := by
  have none : Sectioned [] := fun heading known => .inl rfl
  obtain ⟨sectioned, follows⟩ := foldl_over_saying (fun es found => (sound es found).1) (fun es found => (sound es found).2) none
  have back : Sectioned es := by
    intro heading known
    rw [Entries.tableOrNone_iff, same, ← Entries.tableOrNone_iff]
    exact sectioned heading known
  have agree : ∀ f ∈ fields, saying es f.heading f.name = winning docs f.heading f.name := by
    intro f found
    have said := follows f.heading (heading_known f found) f.name
    rw [show saying [] f.heading f.name = Option.none from rfl, Option.or_none] at said
    rw [← said]
    exact same [f.heading, f.name]
  rw [decode_eq_some back]
  exact ⟨fun told => told.congr fun f found => (agree f found).symm, fun told => told.congr agree⟩

/-- How several files are loaded whose documents are `docs`. -/
structure LastWins (t : FileTree) (ps : List Path) (docs : List Entries) : Prop where
  /-- What is loaded are the repaired settings that win, or defaults where nothing is said of them. -/
  loaded : ∀ s, loadLayers t ps = .ok s ↔ ∃ said, Follows (winning docs) said ∧ s = said.repaired
  /-- That succeeds if and only if what wins has the right types; what does not win makes no difference. -/
  succeeds : (∃ s, loadLayers t ps = .ok s) ↔ RightlyTyped (winning docs)
  /-- Otherwise the types are the error. -/
  mistyped : ¬ RightlyTyped (winning docs) → loadLayers t ps = .error .notDecodable
  /-- A file that is missing makes no difference, wherever it stands. -/
  missing : ∀ before p after, t.contains p = false → loadLayers t (before ++ p :: after) = loadLayers t (before ++ after)
  /-- Nor does what is said of anything but the settings. -/
  unknown : ∀ t' ps' docs', Layers t' ps' docs' → ReadsBack (merged docs') →
    (∀ f ∈ fields, winning docs' f.heading f.name = winning docs f.heading f.name) →
    loadLayers t' ps' = loadLayers t ps

theorem loadLayers_of_follows {t : FileTree} {ps : List Path} {docs : List Entries} (layers : Layers t ps docs)
    (readsBack : ReadsBack (merged docs)) :
    (∀ said, Follows (winning docs) said → loadLayers t ps = .ok said.repaired) ∧
      ((¬ ∃ said, Follows (winning docs) said) → loadLayers t ps = .error .notDecodable) := by
  obtain ⟨es, back, same⟩ := readsBack
  have decoded (s : Settings) : decode es = some s ↔ Follows (winning docs) s := decode_back layers.distinct same
  have merges : mergeLayers t [] ps = .ok (merged docs) := mergeLayers_eq layers []
  rw [loadLayers, merges]
  simp only [bind, Except.bind, back, Option.bind_some]
  constructor
  · intro said follows
    rw [(decoded said).2 follows]
    rfl
  · intro none
    cases read : decode es with
    | none => rfl
    | some said => exact absurd ⟨said, (decoded said).1 read⟩ none

/-- **The last file that says anything of a setting wins.** -/
theorem loadLayers_last_wins (t : FileTree) (ps : List Path) (docs : List Entries) (layers : Layers t ps docs)
    (readsBack : ReadsBack (merged docs)) : LastWins t ps docs := by
  obtain ⟨ok, error⟩ := loadLayers_of_follows layers readsBack
  have loaded (s : Settings) : loadLayers t ps = .ok s ↔ ∃ said, Follows (winning docs) said ∧ s = said.repaired := by
    constructor
    · intro loaded
      by_cases some : ∃ said, Follows (winning docs) said
      · obtain ⟨said, follows⟩ := some
        rw [ok said follows] at loaded
        exact ⟨said, follows, (Except.ok.inj loaded).symm⟩
      · rw [error some] at loaded
        cases loaded
    · rintro ⟨said, follows, rfl⟩
      exact ok said follows
  constructor
  case loaded => exact loaded
  case succeeds =>
    rw [← follows_iff_rightlyTyped]
    constructor
    · rintro ⟨s, read⟩
      obtain ⟨said, follows, -⟩ := (loaded s).1 read
      exact ⟨said, follows⟩
    · rintro ⟨said, follows⟩
      exact ⟨said.repaired, ok said follows⟩
  case mistyped =>
    intro wrong
    rw [← follows_iff_rightlyTyped] at wrong
    exact error wrong
  case missing =>
    intro before p after missing
    rw [loadLayers, mergeLayers_missing missing, loadLayers]
  case unknown =>
    intro t' ps' docs' layers' readsBack' agree
    obtain ⟨ok', error'⟩ := loadLayers_of_follows layers' readsBack'
    by_cases some : ∃ said, Follows (winning docs) said
    · obtain ⟨said, follows⟩ := some
      rw [ok said follows, ok' said (follows.congr agree)]
    · rw [error some, error']
      rintro ⟨said, follows⟩
      exact some ⟨said, follows.congr fun f found => (agree f found).symm⟩

namespace Pair

/-- A file with a value of the wrong type. -/
def lowerText : String :=
  "[cgroup]\nleaf = \"a\"\nretries = \"x\"\n"

/-- A file that overrides it, with a section that no setting is in. -/
def upperText : String :=
  "cgroup.retries = 3\n[other]\nz = 1\n"

def files : FileTree :=
  let t : FileTree := .empty
  let t := (t.write (Path.ofString "/a") (Bytes.ofString lowerText)).toOption.getD t
  (t.write (Path.ofString "/b") (Bytes.ofString upperText)).toOption.getD t

/-- The files with a missing one between them. -/
def paths : List Path :=
  ["/a", "/missing", "/b"].map Path.ofString

def lower : Entries :=
  [("cgroup", .table (.headed 1) [("leaf", .value (.string "a")), ("retries", .value (.string "x"))])]

def upper : Entries :=
  [("cgroup", .table .dotted [("retries", .value (.integer 3))]),
    ("other", .table (.headed 1) [("z", .value (.integer 1))])]

/-- The two documents in one, whose second table has its header at a position. -/
def both (position : Nat) : Entries :=
  [("cgroup", .table (.headed 1) [("leaf", .value (.string "a")), ("retries", .value (.integer 3))]),
    ("other", .table (.headed position) [("z", .value (.integer 1))])]

theorem layers : Layers files paths [lower, upper] := by
  have sectioned : Sectioned lower ∧ Sectioned upper := by
    simp [Sectioned, headings, TableOrNone, lower, upper]
  have readLower : files.readText (Path.ofString "/a") = .ok lowerText := by cbv
  have readUpper : files.readText (Path.ofString "/b") = .ok upperText := by cbv
  exact .file (by decide +kernel) readLower (by cbv) sectioned.1
    (.missing (by decide +kernel) (.file (by decide +kernel) readUpper (by cbv) sectioned.2 .nil))

/-- Only the positions of headers are not read back. -/
theorem readsBack : ReadsBack (merged [lower, upper]) := by
  refine ⟨both 2, by cbv, fun path => ?_⟩
  change kindAt path (both 2) = kindAt path (both 1)
  cases path with
  | nil => rfl
  | cons name path => simp only [both, Entries.kindAt_cons_table]

/-- The settings of both files. -/
def settings : Settings :=
  { Settings.default with groups := { GroupSettings.default with leaf := "a", retries := 3 } }

end Pair

theorem loadLayers_last_wins_pair : loadLayers Pair.files Pair.paths = .ok Pair.settings.repaired := by
  have wins := loadLayers_last_wins Pair.files Pair.paths [Pair.lower, Pair.upper] Pair.layers Pair.readsBack
  have follows : Follows (winning [Pair.lower, Pair.upper]) Pair.settings := by
    constructor <;> rfl
  exact (wins.loaded _).2 ⟨Pair.settings, follows, rfl⟩

end HeapSampler.Settings

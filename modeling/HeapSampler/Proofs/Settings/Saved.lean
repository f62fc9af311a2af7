import HeapSampler.Proofs.Files
import HeapSampler.Proofs.Settings.Layers
import HeapSampler.Proofs.Settings.Repair
import HeapSampler.Proofs.Text.Utf8
import HeapSampler.Proofs.Toml.Tables

/-!
# Settings saved and loaded again

Settings are written as three tables of strings, lists of strings and numbers, and such tables are read as they
were written (`Table.parse?_texts`). So what is loaded is what was saved, but for durations, which are written in
whole units, and for the repair that all loaded settings get. `save_load` says so of all settings that have a form in
a document, and that they come back unchanged from then on.
-/

namespace HeapSampler.Settings

open Toml

variable {α : Type}

/-! ## What has a form in a document -/

/-- Settings that have a form in a document: paths are UTF-8, and durations, in their units, are signed 64-bit
numbers. -/
structure Encodable (s : Settings) : Prop where
  candidates : ∀ p ∈ s.groups.mountCandidates, p.text?.isSome
  pollInterval : s.groups.pollInterval.roundedTo Duration.nanosPerMilli < 0x8000000000000000
  transitionTimeout : s.groups.transitionTimeout.roundedTo Duration.nanosPerSecond < 0x8000000000000000
  livenessPoll : s.subject.livenessPoll.roundedTo Duration.nanosPerMilli < 0x8000000000000000

/-- The settings with durations in whole units, a half counting as one. -/
def rounded (s : Settings) : Settings :=
  { s with
    groups := { s.groups with
      pollInterval := .ofMillis (s.groups.pollInterval.roundedTo Duration.nanosPerMilli)
      transitionTimeout := .ofSeconds (s.groups.transitionTimeout.roundedTo Duration.nanosPerSecond) }
    subject := { s.subject with
      livenessPoll := .ofMillis (s.subject.livenessPoll.roundedTo Duration.nanosPerMilli) } }

/-! ## The document -/

/-- The table of the settings for groups, with the texts of the mount candidates. -/
def groupsTable (candidates : List String) (g : GroupSettings) : Table where
  heading := "cgroup"
  fields := [
    ("mount_candidates", .strings candidates),
    ("leaf", .string g.leaf),
    ("poll_interval", .number (g.pollInterval.roundedTo Duration.nanosPerMilli)),
    ("transition_timeout", .number (g.transitionTimeout.roundedTo Duration.nanosPerSecond)),
    ("retries", .number g.retries.toNat)]

/-- The table of the settings for the subject. -/
def subjectTable (s : SubjectSettings) : Table where
  heading := "subject"
  fields := [
    ("interposer", .string s.interposer),
    ("search_path_var", .string s.searchVariable),
    ("output_file", .string s.outputFile),
    ("liveness_poll", .number (s.livenessPoll.roundedTo Duration.nanosPerMilli)),
    ("outfile_template", .string s.outfileTemplate),
    ("depth", .number s.depth.toNat),
    ("shift", .number s.shift.toNat)]

/-- The table of the settings for the output. -/
def outputTable (o : OutputSettings) : Table where
  heading := "output"
  fields := [
    ("summary_file", .string o.summaryFile),
    ("artifact_prefix", .string o.artifactPrefix)]

/-- The tables of all settings. -/
def tables (candidates : List String) (s : Settings) : List Table :=
  [groupsTable candidates s.groups, subjectTable s.subject, outputTable s.output]

theorem inRange_natCast {n : Nat} : Scalar.inRange n = true ↔ n < 0x8000000000000000 := by
  unfold Scalar.inRange
  simp only [Bool.and_eq_true, decide_eq_true_eq]
  omega

theorem natText_eq_some {n : Nat} {text : String} :
    natText n = some text ↔ n < 0x8000000000000000 ∧ Decimal.text n = text := by
  rw [natText, ← inRange_natCast]
  by_cases fits : Scalar.inRange n = true
  · rw [if_pos fits, Option.some.injEq, and_iff_right fits]
  · rw [if_neg fits]
    simp [fits]

/-- Paths have texts if each of them has one. -/
theorem mapM_text?_isSome {ps : List Path} : (∃ texts, ps.mapM Path.text? = some texts) ↔ ∀ p ∈ ps, p.text?.isSome := by
  induction ps with
  | nil => simp
  | cons p ps ih =>
    rw [List.forall_mem_cons, ← ih, List.mapM_cons]
    simp only [Option.bind_eq_bind, Option.bind_eq_some_iff, Option.pure_def, Option.some.injEq,
      Option.isSome_iff_exists]
    constructor
    · rintro ⟨_, text, here, texts, behind, rfl⟩
      exact ⟨⟨text, here⟩, texts, behind⟩
    · rintro ⟨⟨text, here⟩, texts, behind⟩
      exact ⟨_, text, here, texts, behind, rfl⟩

/-- Paths are read back from their texts. -/
theorem ofString_of_mapM_text? {ps : List Path} {texts : List String} (found : ps.mapM Path.text? = some texts) :
    texts.map Path.ofString = ps := by
  induction ps generalizing texts with
  | nil =>
    cases found
    rfl
  | cons p ps ih =>
    simp only [List.mapM_cons, Option.bind_eq_bind, Option.bind_eq_some_iff, Option.pure_def,
      Option.some.injEq] at found
    obtain ⟨text, here, texts, behind, rfl⟩ := found
    rw [List.map_cons, Path.ofString_of_text? here, ih behind]

theorem groupsText_eq_some {g : GroupSettings} {text : String} : groupsText g = some text ↔
    ∃ candidates, g.mountCandidates.mapM Path.text? = some candidates ∧
      g.pollInterval.roundedTo Duration.nanosPerMilli < 0x8000000000000000 ∧
      g.transitionTimeout.roundedTo Duration.nanosPerSecond < 0x8000000000000000 ∧
      (groupsTable candidates g).text = text := by
  simp only [groupsText, pathsText, durationText, Option.bind_eq_bind, Option.bind_eq_some_iff, Option.pure_def,
    Option.some.injEq, natText_eq_some]
  constructor
  · rintro ⟨_, ⟨candidates, found, rfl⟩, _, ⟨poll, rfl⟩, _, ⟨timeout, rfl⟩, rfl⟩
    refine ⟨candidates, found, poll, timeout, ?_⟩
    simp [groupsTable, Table.text, Table.line, Plain.text, entryText, String.append_assoc]
  · rintro ⟨candidates, found, poll, timeout, rfl⟩
    refine ⟨_, ⟨candidates, found, rfl⟩, _, ⟨poll, rfl⟩, _, ⟨timeout, rfl⟩, ?_⟩
    simp [groupsTable, Table.text, Table.line, Plain.text, entryText, String.append_assoc]

theorem subjectText_eq_some {s : SubjectSettings} {text : String} : subjectText s = some text ↔
    s.livenessPoll.roundedTo Duration.nanosPerMilli < 0x8000000000000000 ∧ (subjectTable s).text = text := by
  simp only [subjectText, durationText, Option.bind_eq_bind, Option.bind_eq_some_iff, Option.pure_def,
    Option.some.injEq, natText_eq_some]
  constructor
  · rintro ⟨_, ⟨liveness, rfl⟩, rfl⟩
    refine ⟨liveness, ?_⟩
    simp [subjectTable, Table.text, Table.line, Plain.text, entryText, String.append_assoc]
  · rintro ⟨liveness, rfl⟩
    refine ⟨_, ⟨liveness, rfl⟩, ?_⟩
    simp [subjectTable, Table.text, Table.line, Plain.text, entryText, String.append_assoc]

theorem outputText_eq (o : OutputSettings) : (outputTable o).text = outputText o := by
  simp [outputTable, outputText, Table.text, Table.line, Plain.text, entryText, String.append_assoc]

/-- Settings that have a form in a document are written as their tables. -/
theorem encode_eq_some {s : Settings} {text : String} : encode s = some text ↔
    Encodable s ∧ ∃ candidates, s.groups.mountCandidates.mapM Path.text? = some candidates ∧
      Table.texts (tables candidates s) = text := by
  have layout (candidates : List String) : Table.texts (tables candidates s) =
      (groupsTable candidates s.groups).text ++ "\n" ++ (subjectTable s.subject).text ++ "\n" ++
        outputText s.output := by
    simp [Table.texts, tables, outputText_eq, String.append_assoc]
  simp only [encode, Option.bind_eq_bind, Option.bind_eq_some_iff, Option.pure_def, Option.some.injEq,
    groupsText_eq_some, subjectText_eq_some, layout]
  constructor
  · rintro ⟨_, ⟨candidates, found, poll, timeout, rfl⟩, _, ⟨liveness, rfl⟩, rfl⟩
    exact ⟨⟨mapM_text?_isSome.1 ⟨candidates, found⟩, poll, timeout, liveness⟩, candidates, found, rfl⟩
  · rintro ⟨⟨_, poll, timeout, liveness⟩, candidates, found, rfl⟩
    exact ⟨_, ⟨candidates, found, poll, timeout, rfl⟩, _, ⟨liveness, rfl⟩, rfl⟩

theorem uint32_fits (n : UInt32) : Scalar.inRange n.toNat = true :=
  inRange_natCast.2 (Nat.lt_trans n.toNat_lt (by decide))

/-- The tables of settings that have a form in a document can be read again. -/
theorem tables_sound (candidates : List String) {s : Settings} (encodable : Encodable s) :
    ∀ t ∈ tables candidates s, t.Sound := by
  have poll := inRange_natCast.2 encodable.pollInterval
  have timeout := inRange_natCast.2 encodable.transitionTimeout
  have liveness := inRange_natCast.2 encodable.livenessPoll
  have groups : (groupsTable candidates s.groups).Sound := by
    constructor
    case heading => exact (by decide : Reader.Bare "cgroup")
    case keys => simp [groupsTable]; decide
    case fits => simp [groupsTable, Plain.Fits, poll, timeout, uint32_fits]
    case distinct => simp [groupsTable]
  have subject : (subjectTable s.subject).Sound := by
    constructor
    case heading => exact (by decide : Reader.Bare "subject")
    case keys => simp [subjectTable]; decide
    case fits => simp [subjectTable, Plain.Fits, liveness, uint32_fits]
    case distinct => simp [subjectTable]
  have output : (outputTable s.output).Sound := by
    constructor
    case heading => exact (by decide : Reader.Bare "output")
    case keys => simp [outputTable]; decide
    case fits => simp [outputTable, Plain.Fits]
    case distinct => simp [outputTable]
  simp [tables, groups, subject, output]

theorem tables_distinct (candidates : List String) (s : Settings) :
    ((tables candidates s).map Table.heading).Nodup := by
  simp [tables, groupsTable, subjectTable, outputTable]

/-! ## Read again -/

theorem asPaths_strings (texts : List String) :
    asPaths (.array (texts.map .string)) = some (texts.map Path.ofString) := by
  rw [asPaths, List.mapM_map]
  exact List.mapM_pure (m := Option)

theorem asNat_natCast (n : Nat) : asNat (.integer n) = some n := by
  rw [asNat, if_pos (Int.natCast_nonneg n), Int.toNat_natCast]

theorem asMillis_natCast (n : Nat) : asMillis (.integer n) = some (.ofMillis n) := by
  rw [asMillis, asNat_natCast, Option.map_some]

theorem asSeconds_natCast (n : Nat) : asSeconds (.integer n) = some (.ofSeconds n) := by
  rw [asSeconds, asNat_natCast, Option.map_some]

theorem asUInt32_toNat (n : UInt32) : asUInt32 (.integer n.toNat) = some n := by
  rw [asUInt32, asNat_natCast, Option.bind_eq_bind, Option.bind_some, if_pos n.toNat_lt, UInt32.ofNat_toNat]

theorem told_value {read : Value → Option α} {fallback a : α} {said : Option Kind} {v : Value}
    (given : said = some (.value v)) (reads : read v = some a) : told read fallback said = some a := by
  rw [given]
  exact reads

/-- The document makes the settings with rounded durations. -/
theorem decode_document {candidates : List String} {s : Settings} (encodable : Encodable s)
    (found : s.groups.mountCandidates.mapM Path.text? = some candidates) :
    decode (Table.document 0 (tables candidates s)) = some s.rounded := by
  have sectioned : Sectioned (Table.document 0 (tables candidates s)) :=
    fun heading _ => Table.tableOrNone_document heading 0 _
  have given {t : Table} (table : t ∈ tables candidates s) {key : String} {v : Plain} (here : (key, v) ∈ t.fields) :
      saying (Table.document 0 (tables candidates s)) t.heading key = some (.value v.value) :=
    Table.kindAt_document (tables_distinct candidates s) table (tables_sound candidates encodable t table).distinct
      here 0
  have groups {key : String} (v : Plain) (here : (key, v) ∈ (groupsTable candidates s.groups).fields) :
      saying (Table.document 0 (tables candidates s)) "cgroup" key = some (.value v.value) :=
    given (by simp [tables]) here
  have subject {key : String} (v : Plain) (here : (key, v) ∈ (subjectTable s.subject).fields) :
      saying (Table.document 0 (tables candidates s)) "subject" key = some (.value v.value) :=
    given (by simp [tables]) here
  have output {key : String} (v : Plain) (here : (key, v) ∈ (outputTable s.output).fields) :
      saying (Table.document 0 (tables candidates s)) "output" key = some (.value v.value) :=
    given (by simp [tables]) here
  rw [decode_eq_some sectioned]
  -- the settings are taken apart and compared by name, not by computing with the rounded durations
  obtain ⟨⟨ps, _, _, _, _⟩, ⟨_, _, _, _, _, _, _⟩, ⟨_, _⟩⟩ := s
  have paths : asPaths (.array (candidates.map .string)) = some ps := by
    rw [asPaths_strings, ofString_of_mapM_text? found]
  constructor
  case mountCandidates => exact told_value (groups (.strings _) (by simp [groupsTable])) paths
  case leaf => exact told_value (groups (.string _) (by simp [groupsTable, rounded])) rfl
  case pollInterval => exact told_value (groups (.number _) (by simp [groupsTable])) (asMillis_natCast _)
  case transitionTimeout => exact told_value (groups (.number _) (by simp [groupsTable])) (asSeconds_natCast _)
  case retries => exact told_value (groups (.number _) (by simp [groupsTable, rounded])) (asUInt32_toNat _)
  case interposer => exact told_value (subject (.string _) (by simp [subjectTable, rounded])) rfl
  case searchVariable => exact told_value (subject (.string _) (by simp [subjectTable, rounded])) rfl
  case outputFile => exact told_value (subject (.string _) (by simp [subjectTable, rounded])) rfl
  case livenessPoll => exact told_value (subject (.number _) (by simp [subjectTable])) (asMillis_natCast _)
  case outfileTemplate => exact told_value (subject (.string _) (by simp [subjectTable, rounded])) rfl
  case depth => exact told_value (subject (.number _) (by simp [subjectTable, rounded])) (asUInt32_toNat _)
  case shift => exact told_value (subject (.number _) (by simp [subjectTable, rounded])) (asUInt32_toNat _)
  case summaryFile => exact told_value (output (.string _) (by simp [outputTable, rounded])) rfl
  case artifactPrefix => exact told_value (output (.string _) (by simp [outputTable, rounded])) rfl

/-! ## Rounding and repair -/

/-- The duration is a whole number of units: rounding does not change it. -/
def Whole (unit : Nat) (d : Duration) : Prop :=
  ⟨d.roundedTo unit * unit⟩ = d

theorem roundedTo_mul (n : Nat) {unit : Nat} (positive : 0 < unit) : Duration.roundedTo unit ⟨n * unit⟩ = n := by
  rw [Duration.roundedTo, Nat.add_comm, Nat.add_mul_div_right _ _ positive,
    Nat.div_eq_of_lt (Nat.div_lt_self positive (by decide)), Nat.zero_add]

theorem roundedTo_ofMillis (n : Nat) : (Duration.ofMillis n).roundedTo Duration.nanosPerMilli = n :=
  roundedTo_mul n (by decide)

theorem roundedTo_ofSeconds (n : Nat) : (Duration.ofSeconds n).roundedTo Duration.nanosPerSecond = n :=
  roundedTo_mul n (by decide)

theorem Whole.mul (n : Nat) {unit : Nat} (positive : 0 < unit) : Whole unit ⟨n * unit⟩ := by
  rw [Whole, roundedTo_mul n positive]

theorem rounded_mountCandidates (s : Settings) : s.rounded.groups.mountCandidates = s.groups.mountCandidates := by
  obtain ⟨⟨ps, _, _, _, _⟩, _, _⟩ := s
  -- compared by name: comparing the settings as a whole would compute with the rounded durations
  exact Eq.refl ps

/-- Settings with durations of whole units are not changed by rounding. -/
theorem rounded_eq {s : Settings} (poll : Whole Duration.nanosPerMilli s.groups.pollInterval)
    (timeout : Whole Duration.nanosPerSecond s.groups.transitionTimeout)
    (liveness : Whole Duration.nanosPerMilli s.subject.livenessPoll) : s.rounded = s := by
  obtain ⟨⟨ps, leaf, p, t, retries⟩, ⟨i, v, o, l, template, depth, shift⟩, output⟩ := s
  have poll : Duration.ofMillis (p.roundedTo Duration.nanosPerMilli) = p := poll
  have timeout : Duration.ofSeconds (t.roundedTo Duration.nanosPerSecond) = t := timeout
  have liveness : Duration.ofMillis (l.roundedTo Duration.nanosPerMilli) = l := liveness
  rw [rounded]
  dsimp only
  rw [poll, timeout, liveness]

/-- Repair keeps durations of whole units. -/
theorem rounded_repaired (s : Settings) : s.rounded.repaired.rounded = s.rounded.repaired := by
  have milli (n : Nat) : Whole Duration.nanosPerMilli (.ofMillis n) := .mul n (by decide)
  apply rounded_eq
  case poll => exact orElseZero_either (milli _) (milli 1)
  case timeout => exact .mul _ (by decide)
  case liveness => exact orElseZero_either (milli _) (milli 1000)

/-- Rounding and repair keep the form that settings have in a document. -/
theorem Encodable.roundedRepaired {s : Settings} (encodable : Encodable s) : Encodable s.rounded.repaired where
  candidates p found := by
    have among : p ∈ s.rounded.groups.mountCandidates := mem_dedupAdjacent found
    rw [rounded_mountCandidates] at among
    exact encodable.candidates p among
  pollInterval := by
    have whole := encodable.pollInterval
    rw [← roundedTo_ofMillis (s.groups.pollInterval.roundedTo _)] at whole
    exact orElseZero_either (P := fun d => d.roundedTo _ < _) whole (by decide)
  transitionTimeout := by
    have whole := encodable.transitionTimeout
    rw [← roundedTo_ofSeconds (s.groups.transitionTimeout.roundedTo _)] at whole
    exact whole
  livenessPoll := by
    have whole := encodable.livenessPoll
    rw [← roundedTo_ofMillis (s.subject.livenessPoll.roundedTo _)] at whole
    exact orElseZero_either (P := fun d => d.roundedTo _ < _) whole (by decide)

/-! ## Files -/

/-- What a document of settings says when it is loaded. -/
theorem load_written {s : Settings} {text : String} (encoded : encode s = some text) {t : FileTree} {p : Path}
    (content : t.read p = .ok (Bytes.ofString text)) : load t p = .ok s.rounded.repaired := by
  obtain ⟨encodable, candidates, found, rfl⟩ := encode_eq_some.1 encoded
  have parsed := Table.parse?_texts (tables_sound candidates encodable) (tables_distinct candidates s)
  have decoded := decode_document encodable found
  have read : t.readText p = .ok (Table.texts (tables candidates s)) := by
    rw [FileTree.readText, content]
    simp only [bind, Except.bind, Bytes.text?_ofString]
    rfl
  rw [load, read]
  simp only [Except.mapError, bind, Except.bind, parsed, Option.bind_some, decoded]
  rfl

theorem save_eq_ok {s : Settings} {t t' : FileTree} {p : Path} (saved : save s t p = .ok t') :
    ∃ text, encode s = some text ∧ t.write p (Bytes.ofString text) = .ok t' := by
  rw [save] at saved
  cases encoded : encode s with
  | none =>
    rw [encoded] at saved
    cases saved
  | some text =>
    rw [encoded] at saved
    cases wrote : t.write p (Bytes.ofString text) with
    | error e =>
      simp only [wrote] at saved
      cases saved
    | ok other =>
      simp only [wrote] at saved
      cases saved
      exact ⟨text, rfl, wrote⟩

/-- The file tree behind an attempt to save settings: it is another one only if that succeeds. -/
def afterSave (s : Settings) (t : FileTree) (p : Path) : FileTree :=
  match save s t p with
  | .ok t' => t'
  | .error _ => t

/-- How settings come back from a file that they are saved in. -/
structure ComesBack (s : Settings) : Prop where
  /-- Settings that have a form in a document are saved as a text, wherever a file can be written. -/
  saved : Encodable s → ∃ text, ∀ t p, save s t p = (t.write p (Bytes.ofString text)).mapError .io
  /-- Loaded from that file, they are the settings with rounded durations, repaired. -/
  loaded : ∀ t p t', save s t p = .ok t' → load t' p = .ok s.rounded.repaired
  /-- These can be saved in turn, and are loaded as they are. -/
  again : ∀ t p t', save s t p = .ok t' →
    ∃ t'', save s.rounded.repaired t' p = .ok t'' ∧ load t'' p = .ok s.rounded.repaired
  /-- Other settings are not saved, and no file is changed. -/
  refused : ¬ Encodable s → ∀ t p, save s t p = .error .notEncodable ∧ afterSave s t p = t

theorem encode_of_encodable {s : Settings} (encodable : Encodable s) : ∃ text, encode s = some text := by
  obtain ⟨candidates, found⟩ := mapM_text?_isSome.2 encodable.candidates
  exact ⟨_, encode_eq_some.2 ⟨encodable, candidates, found, rfl⟩⟩

theorem encode_eq_none {s : Settings} (unencodable : ¬ Encodable s) : encode s = none := by
  cases encoded : encode s with
  | none => rfl
  | some text => exact absurd (encode_eq_some.1 encoded).1 unencodable

/-- Loaded from the file that they were saved in, settings are rounded and repaired. -/
theorem load_saved {s : Settings} {t t' : FileTree} {p : Path} (saved : save s t p = .ok t') :
    load t' p = .ok s.rounded.repaired := by
  obtain ⟨text, encoded, wrote⟩ := save_eq_ok saved
  exact load_written encoded (FileTree.read_write wrote)

/-- **Settings that are saved and loaded again come back**, rounded and repaired. -/
theorem save_load (s : Settings) : ComesBack s := by
  constructor
  case saved =>
    intro encodable
    obtain ⟨text, encoded⟩ := encode_of_encodable encodable
    refine ⟨text, fun t p => ?_⟩
    rw [save, encoded]
  case loaded =>
    intro t p t' saved
    exact load_saved saved
  case again =>
    intro t p t' saved
    obtain ⟨text, first, wrote⟩ := save_eq_ok saved
    have encodable : Encodable s := (encode_eq_some.1 first).1
    obtain ⟨text', encoded⟩ := encode_of_encodable encodable.roundedRepaired
    obtain ⟨t'', rewrote⟩ := FileTree.write_again wrote (Bytes.ofString text')
    have resaved : save s.rounded.repaired t' p = .ok t'' := by
      rw [save, encoded]
      exact congrArg (Except.mapError SettingsError.io) rewrote
    refine ⟨t'', resaved, ?_⟩
    rw [load_saved resaved, rounded_repaired, repaired_idem]
  case refused =>
    intro unencodable t p
    have refused : save s t p = .error .notEncodable := by
      rw [save, encode_eq_none unencodable]
      rfl
    refine ⟨refused, ?_⟩
    rw [afterSave, refused]

namespace Awkward

/-- Settings that are hard to write: texts with quotes, line ends and control characters, a path that stands twice,
and durations that are no whole units. -/
def settings : Settings where
  groups := {
    mountCandidates := ["/a", "/a/", "/\"'''\n"].map Path.ofString
    leaf := "it's \"\"\"so\"\"\"\n\t\x01"
    pollInterval := ⟨1500000⟩
    transitionTimeout := ⟨1499999999⟩
    retries := 4294967295 }
  subject := { SubjectSettings.default with interposer := "'''\n'''", livenessPoll := ⟨499999⟩ }
  output := OutputSettings.default

/-- What they come back as. -/
def back : Settings where
  groups := { settings.groups with
    mountCandidates := ["/a", "/\"'''\n"].map Path.ofString
    pollInterval := .ofMillis 2
    transitionTimeout := .ofSeconds 1 }
  subject := { settings.subject with livenessPoll := .ofSeconds 1 }
  output := settings.output

end Awkward

/-- They are saved in a file, come back from it, and come back as they are once more. -/
theorem save_load_awkward : ∃ t' t'', save Awkward.settings .empty (Path.ofString "/a") = .ok t' ∧
    load t' (Path.ofString "/a") = .ok Awkward.back ∧ save Awkward.back t' (Path.ofString "/a") = .ok t'' ∧
    load t'' (Path.ofString "/a") = .ok Awkward.back := by
  have encodable : Encodable Awkward.settings :=
    ⟨by decide +kernel, by decide +kernel, by decide +kernel, by decide +kernel⟩
  have same : Awkward.settings.rounded.repaired = Awkward.back := by decide +kernel
  have comes := save_load Awkward.settings
  obtain ⟨text, written⟩ := comes.saved encodable
  have saved := written .empty (Path.ofString "/a")
  obtain ⟨t', wrote⟩ : ∃ t', FileTree.empty.write (Path.ofString "/a") (Bytes.ofString text) = .ok t' := ⟨_, rfl⟩
  rw [wrote] at saved
  have loaded := comes.loaded _ _ _ saved
  obtain ⟨t'', resaved, reloaded⟩ := comes.again _ _ _ saved
  rw [same] at loaded resaved reloaded
  exact ⟨t', t'', saved, loaded, resaved, reloaded⟩

end HeapSampler.Settings

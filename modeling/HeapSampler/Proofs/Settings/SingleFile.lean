import HeapSampler.Proofs.Settings.Spelling

/-!
# One file, loaded either way

A file can be loaded by itself, where its text is decoded as it is, or as the only one of several, where its document
is laid over an empty one, printed and read again. Both give the same settings, and so does loading the file twice
over (`load_single`): what is appended to an array of tables is never a setting. Documents that consist of values and
tables of values are read again as they are printed (`Reprints.readsBack`); of all others that is assumed.
-/

namespace HeapSampler.Settings

open Toml
open Toml.Entries (kindAt Distinct)

/-- Unless the document of a text has values and tables of values only, it is printed and read again as it is, also
once it is laid over itself. -/
def Reprints (text : String) : Prop :=
  ∀ es, Entries.parse? text = some es → ¬ Entries.Flat es → ReadsBack (merged [es]) ∧ ReadsBack (merged [es, es])

/-- How a file with a text is loaded, by itself and as one of several. -/
structure SingleFileLaw (t : FileTree) (p : Path) (text : String) : Prop where
  /-- Both ways give the same settings, or none. -/
  same (s : Settings) : load t p = .ok s ↔ loadLayers t [p] = .ok s
  /-- By itself, whatever is wrong with the text is reported as one error. -/
  alone (e : SettingsError) : load t p = .error e → e = .notDecodable
  /-- As one of several, a text that is no document is told from one with the wrong types. -/
  several (e : SettingsError) : loadLayers t [p] = .error e →
    e = if (Entries.parse? text).isSome then .notDecodable else .notParsable
  /-- Nothing changes if the file is given twice. -/
  twice : loadLayers t [p, p] = loadLayers t [p]

/-! ## Both ways -/

section BothWays

variable {t : FileTree} {p : Path} {ps : List Path} {text : String} {es : Entries}

/-- What is loaded once a document has been decoded, or could not be. -/
def loadedAs : Option Settings → Except SettingsError Settings
  | some s => .ok s.repaired
  | none => .error .notDecodable

theorem loadedAs_error {decoded : Option Settings} {e : SettingsError} (failed : loadedAs decoded = .error e) :
    e = .notDecodable := by
  cases decoded with
  | some s => cases failed
  | none => exact (Except.error.inj failed).symm

theorem contains_of_readText (content : t.readText p = .ok text) : t.contains p = true := by
  unfold FileTree.readText FileTree.read at content
  unfold FileTree.contains
  cases found : t.find p with
  | error e =>
    rw [found] at content
    cases content
  | ok place => rfl

theorem load_eq (content : t.readText p = .ok text) : load t p = loadedAs (Entries.parse? text >>= decode) := by
  rw [load, content]
  show (match Entries.parse? text >>= decode with | some s => _ | none => _) = _
  cases Entries.parse? text >>= decode <;> rfl

theorem loadLayers_unparsed (content : t.readText p = .ok text) (unparsed : Entries.parse? text = none) :
    loadLayers t (p :: ps) = .error .notParsable := by
  have layer : readLayer t p = .error .notParsable := by
    rw [readLayer, contains_of_readText content, content]
    simp only [if_true, Except.mapError, bind, Except.bind, unparsed]
    rfl
  rw [loadLayers, mergeLayers, layer]
  rfl

/-- Files whose documents together say what one document says are loaded as that document is. -/
theorem loadLayers_saying (readable : Readable t ps) (readsBack : ReadsBack (merged (documents t ps)))
    (same : ∀ path, kindAt path (merged (documents t ps)) = kindAt path es) :
    loadLayers t ps = loadedAs (decode es) := by
  rw [loadLayers_readable readable readsBack, decode_of_same same]
  cases decode es <;> rfl

/-- Nothing has to be assumed of a document that has values and tables of values only. -/
theorem Reprints.readsBack (reprints : Reprints text) (parsed : Entries.parse? text = some es) :
    ReadsBack (merged [es]) ∧ ReadsBack (merged [es, es]) := by
  by_cases flat : Entries.Flat es
  · have distinct : Distinct es := Entries.parse?_distinct parsed
    constructor
    · exact readsBack_merged (by simp [flat]) (by simp [distinct])
    · exact readsBack_merged (by simp [flat]) (by simp [distinct])
  · exact reprints es parsed flat

/-- A file with a document is loaded as that document is, given once or twice. -/
theorem loadLayers_parsed (content : t.readText p = .ok text) (parsed : Entries.parse? text = some es)
    (reprints : Reprints text) :
    loadLayers t [p] = loadedAs (decode es) ∧ loadLayers t [p, p] = loadedAs (decode es) := by
  have distinct : Distinct es := Entries.parse?_distinct parsed
  have layer : readLayer t p = .ok (some es) := readLayer_file (contains_of_readText content) content parsed
  have once : documents t [p] = [es] := documents_cons layer
  have twice : documents t [p, p] = [es, es] := (documents_cons layer).trans (congrArg (es :: ·) once)
  have readable : Readable t [p] := fun q found => ⟨some es, List.mem_singleton.1 found ▸ layer⟩
  have readableTwice : Readable t [p, p] := List.forall_mem_cons.2 ⟨⟨some es, layer⟩, readable⟩
  obtain ⟨readsBack, readsBackTwice⟩ := reprints.readsBack parsed
  -- no document is below the first, and only the first below the second
  have alone (path : List String) : kindAt path (merged [es]) = kindAt path es := Entries.kindAt_over_nil distinct path
  have onItself (path : List String) : kindAt path (merged [es, es]) = kindAt path es :=
    Entries.kindAt_over_same distinct alone path
  constructor
  · exact loadLayers_saying readable (once ▸ readsBack) (once ▸ alone)
  · exact loadLayers_saying readableTwice (twice ▸ readsBackTwice) (twice ▸ onItself)

end BothWays

/-- **A file is loaded alike by itself, as the only one of several, and twice over.** -/
theorem load_single (t : FileTree) (p : Path) (text : String) (content : t.readText p = .ok text)
    (reprints : Reprints text) : SingleFileLaw t p text := by
  have alone := load_eq content
  cases parsed : Entries.parse? text with
  | none =>
    have several (ps : List Path) : loadLayers t (p :: ps) = .error .notParsable := loadLayers_unparsed content parsed
    rw [parsed] at alone
    constructor
    case same =>
      intro s
      rw [alone, several]
      constructor <;> intro loaded <;> cases loaded
    case alone =>
      intro e failed
      exact loadedAs_error (alone ▸ failed)
    case several =>
      intro e failed
      rw [several] at failed
      rw [parsed]
      exact (Except.error.inj failed).symm
    case twice => rw [several, several]
  | some es =>
    obtain ⟨once, twice⟩ := loadLayers_parsed content parsed reprints
    rw [parsed] at alone
    change load t p = loadedAs (decode es) at alone
    constructor
    case same =>
      intro s
      rw [alone, once]
    case alone =>
      intro e failed
      exact loadedAs_error (alone ▸ failed)
    case several =>
      intro e failed
      rw [parsed]
      exact loadedAs_error (once ▸ failed)
    case twice => rw [once, twice]

namespace Repeated

/-- A file with an array of tables and a key that are no settings. -/
def text : String :=
  "[[other]]\nx = 1\n[cgroup]\nleaf = \"a\"\nsize = 1\n"

/-- A file with a table below an array of tables. -/
def nestedText : String :=
  "[[other]]\n[other.inner]\n"

def files : FileTree :=
  let t : FileTree := .empty
  let t := (t.write (Path.ofString "/a") (Bytes.ofString text)).toOption.getD t
  (t.write (Path.ofString "/b") (Bytes.ofString nestedText)).toOption.getD t

/-- The document of the file, with so many elements in the array. -/
def document (positions : List Nat) (position : Nat) : Entries :=
  [("other", .tables (positions.map fun position => (position, [("x", .value (.integer 1))]))),
    ("cgroup", .table (.headed position) [("leaf", .value (.string "a")), ("size", .value (.integer 1))])]

theorem kindAt_document (path : List String) (positions positions' : List Nat) (position position' : Nat) :
    kindAt path (document positions position) = kindAt path (document positions' position') := by
  cases path with
  | nil => rfl
  | cons name path =>
    simp only [document, kindAt, List.lookup_cons]
    cases name == "other" with
    | true => rfl
    | false => cases name == "cgroup" <;> rfl

theorem parsed : Entries.parse? text = some (document [1] 2) := by
  cbv

theorem reprints : Reprints text := by
  intro es found _
  rw [parsed] at found
  cases found
  refine ⟨⟨document [1] 2, by cbv, fun path => ?_⟩, ⟨document [1, 2] 3, by cbv, fun path => ?_⟩⟩
  · exact kindAt_document path [1] [1] 2 2
  · exact kindAt_document path [1, 2] [1, 1] 3 2

/-- The settings of the file. -/
def settings : Settings :=
  { Settings.default with groups := { GroupSettings.default with leaf := "a" } }

end Repeated

theorem load_single_repeated : load Repeated.files (Path.ofString "/a") = .ok Repeated.settings ∧
    loadLayers Repeated.files [Path.ofString "/a"] = .ok Repeated.settings ∧
    loadLayers Repeated.files [Path.ofString "/a", Path.ofString "/a"] = .ok Repeated.settings := by
  have law := load_single Repeated.files (Path.ofString "/a") Repeated.text (by cbv) Repeated.reprints
  have alone : load Repeated.files (Path.ofString "/a") = .ok Repeated.settings := by
    rw [load_eq (show Repeated.files.readText (Path.ofString "/a") = .ok Repeated.text by cbv), Repeated.parsed]
    cbv
  have once := (law.same Repeated.settings).1 alone
  exact ⟨alone, once, law.twice.trans once⟩

/-- A document that is not read again as it is printed makes a difference: the array has two elements with the table
in it, and they are printed with both tables below the second. -/
example : loadLayers Repeated.files [Path.ofString "/b"] = .ok Settings.default ∧
    loadLayers Repeated.files [Path.ofString "/b", Path.ofString "/b"] = .error .notDecodable := by
  constructor <;> cbv

end HeapSampler.Settings

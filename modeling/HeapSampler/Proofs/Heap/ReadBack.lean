import HeapSampler.Proofs.Heap.Classification
import HeapSampler.Proofs.Text.Utf8

/-!
# Reading an artifact

A line of an artifact has five fields between tabs, and the numbers and flags in them are what was written
(`fields_shown`, `ofLine?_line`). The lines end at line ends, so the bytes of an artifact are read back as the pages
that it was written for, one after the other (`ofArtifact?_artifactText`).
-/

namespace HeapSampler

/-! ## Readers -/

/-- What a line of an artifact is about. -/
structure RecordedPage where
  iteration : UInt32
  address : UInt64
  entry : PageEntry
  deriving DecidableEq, Repr

namespace RecordedPage

/-- The line of an artifact for a page. -/
def line (r : RecordedPage) : String :=
  r.entry.line r.iteration r.address

/-- A flag from its digit. -/
def flag? (c : Char) : Option Bool :=
  if c = '1' then some true else if c = '0' then some false else none

/-- A hexadecimal number behind its prefix. -/
def prefixed? (cs : List Char) : Option Nat :=
  match cs with
  | '0' :: 'x' :: digits => Decimal.ofDigits? 16 digits
  | _ => none

/-- A page from the five fields of its line, where both addresses must be the same. -/
def ofFields? (fields : List (List Char)) : Option RecordedPage :=
  match fields with
  | [iteration, hexadecimal, decimal, [present, swapped], [fileOrShared, softDirty]] => do
    let iteration ← Decimal.ofDigits? 10 iteration
    let address ← prefixed? hexadecimal
    guard (Decimal.ofDigits? 10 decimal = some address)
    return {
      iteration := UInt32.ofNat iteration
      address := UInt64.ofNat address
      entry := {
        present := ← flag? present
        swapped := ← flag? swapped
        fileOrShared := ← flag? fileOrShared
        softDirty := ← flag? softDirty } }
  | _ => none

/-- A page from its line. -/
def ofLine? (line : List Char) : Option RecordedPage :=
  ofFields? (line.splitOn '\t')

/-- The pages of an artifact. The first line is the time, and behind the last line end is nothing. -/
def ofArtifact? (content : Bytes) : Option (List RecordedPage) := do
  let text ← content.chars?
  ((text.splitOn '\n').dropLast.drop 1).mapM ofLine?

/-! ## Lines -/

/-- What is read from the five fields of a page's line. -/
structure Shows (r : RecordedPage) (first second third fourth fifth : List Char) : Prop where
  iteration : Decimal.ofDigits? 10 first = some r.iteration.toNat
  hexadecimal : prefixed? second = some r.address.toNat
  decimal : Decimal.ofDigits? 10 third = some r.address.toNat
  backing : fourth.mapM flag? = some [r.entry.present, r.entry.swapped]
  kind : fifth.mapM flag? = some [r.entry.fileOrShared, r.entry.softDirty]

theorem flag?_flag (b : Bool) : flag? (PageEntry.flag b) = some b := by
  cases b <;> rfl

/-- No field has a tab in it: the tabs of a line are those between its fields. -/
theorem splitOn_line (r : RecordedPage) :
    r.line.toList.splitOn '\t' = r.entry.fields r.iteration r.address := by
  have decimal (n : Nat) : '\t' ∉ Decimal.digits n := Decimal.not_mem_toDigits (by decide) (by decide) (by decide) n
  have hexadecimal (n : Nat) : '\t' ∉ Decimal.hexDigits n :=
    Decimal.not_mem_toDigits (by decide) (by decide) (by decide) n
  have flag (b : Bool) : '\t' ≠ PageEntry.flag b := by cases b <;> decide
  rw [line, PageEntry.line, String.toList_ofList]
  apply List.splitOn_intercalate
  · simp [PageEntry.fields, decimal, hexadecimal, flag]
  · exact List.cons_ne_nil _ _

theorem fields_shown (r : RecordedPage) : ∃ first second third fourth fifth,
    r.line.toList.splitOn '\t' = [first, second, third, fourth, fifth] ∧ r.Shows first second third fourth fifth := by
  refine ⟨_, _, _, _, _, splitOn_line r, ?_⟩
  constructor
  case iteration => exact Decimal.ofDigits?_digits _
  case hexadecimal => exact Decimal.ofDigits?_hexDigits _
  case decimal => exact Decimal.ofDigits?_digits _
  case backing => simp [flag?_flag]
  case kind => simp [flag?_flag]

/-- A line is read back as the page that it is for. -/
theorem ofLine?_line (r : RecordedPage) : ofLine? r.line.toList = some r := by
  rw [ofLine?, splitOn_line, PageEntry.fields]
  simp only [ofFields?, prefixed?, Decimal.ofDigits?_digits, Decimal.ofDigits?_hexDigits, flag?_flag, guard_true,
    Option.bind_eq_bind, Option.bind_some, UInt32.ofNat_toNat, UInt64.ofNat_toNat]
  rfl

theorem line_injective : Function.Injective line := by
  intro r r' same
  have read := ofLine?_line r
  rw [same, ofLine?_line] at read
  exact (Option.some.inj read).symm

/-! ## Artifacts -/

/-- The pages of an artifact, in the order of their lines. -/
def pages (pageSize : UInt64) (iteration : UInt32) (page : UInt64) (pageWords : List UInt64) : List RecordedPage :=
  pageWords.mapIdx fun i word => ⟨iteration, (page + UInt64.ofNat i) * pageSize, .ofWord word⟩

theorem lines_eq (pageSize : UInt64) (iteration : UInt32) (page : UInt64) (pageWords : List UInt64) :
    Pagemap.lines pageSize iteration page pageWords = (pages pageSize iteration page pageWords).map line := by
  apply List.ext_getElem?
  intro i
  rw [Pagemap.lines_getElem?, pages, List.getElem?_map, List.getElem?_mapIdx, Option.map_map]
  rfl

/-- Lines that end where their texts end are told apart by their ends. -/
theorem splitOn_join {ls : List String} (whole : ∀ l ∈ ls, Pagemap.OneLine l) :
    (String.join (ls.map (· ++ "\n"))).toList.splitOn '\n' = ls.map String.toList ++ [[]] := by
  induction ls with
  | nil => exact List.splitOn_nil '\n'
  | cons l ls ih =>
    have here : l.toList.splitOn '\n' = [l.toList] := by
      rw [List.splitOn_eq_splitOnP]
      refine List.splitOnP_eq_singleton fun c found => beq_eq_false_iff_ne.2 ?_
      rintro rfl
      exact whole l List.mem_cons_self found
    rw [List.map_cons, String.join_cons, String.toList_append, String.toList_append, List.append_assoc]
    rw [show "\n".toList = ['\n'] from rfl, List.singleton_append, List.splitOn_append_cons_self, here,
      ih fun other found => whole other (List.mem_cons_of_mem l found)]
    rfl

theorem mapM_ofLine? (rs : List RecordedPage) : ((rs.map line).map String.toList).mapM ofLine? = some rs := by
  induction rs with
  | nil => rfl
  | cons r rs ih => rw [List.map_cons, List.map_cons, List.mapM_cons, ofLine?_line, ih]; rfl

/-- An artifact is read back as the pages that it is for. -/
theorem ofArtifact?_artifactText (now : Instant) (pageSize : UInt64) (iteration : UInt32) (page : UInt64)
    (pageWords : List UInt64) :
    ofArtifact? (Bytes.ofString (Pagemap.artifactText now pageSize iteration page pageWords)) =
      some (pages pageSize iteration page pageWords) := by
  have whole : ∀ l ∈ Pagemap.timestamp now :: Pagemap.lines pageSize iteration page pageWords, Pagemap.OneLine l := by
    intro l found
    rcases List.mem_cons.1 found with rfl | found
    · exact Pagemap.timestamp_oneLine now
    · rw [lines_eq] at found
      obtain ⟨r, -, rfl⟩ := List.mem_map.1 found
      exact Pagemap.line_oneLine _ _ _
  rw [ofArtifact?, Bytes.ofString, Bytes.chars?_ofChars, Option.bind_eq_bind, Option.bind_some, Pagemap.artifactText,
    splitOn_join whole, List.dropLast_concat, List.map_cons, List.drop_one, List.tail_cons, lines_eq]
  exact mapM_ofLine? _

end RecordedPage

open RecordedPage

/-- Artifacts can be read: a line by its fields, and a whole artifact by its lines. -/
structure ReadableArtifacts : Prop where
  /-- The text of a line splits at its tabs into five fields, and what they show is the page. -/
  fields (r : RecordedPage) : ∃ first second third fourth fifth,
    (r.entry.line r.iteration r.address).toList.splitOn '\t' = [first, second, third, fourth, fifth] ∧
      r.Shows first second third fourth fifth
  /-- Different pages have different lines. -/
  distinct (r r' : RecordedPage) :
    r.entry.line r.iteration r.address = r'.entry.line r'.iteration r'.address → r = r'
  /-- A whole artifact is read back as its pages, whenever it was written: its bytes determine them. -/
  artifact (now : Instant) (pageSize : UInt64) (iteration : UInt32) (page : UInt64) (pageWords : List UInt64) :
    ofArtifact? (Bytes.ofString (Pagemap.artifactText now pageSize iteration page pageWords)) =
      some (pages pageSize iteration page pageWords)
  /-- What a classification leaves in its file are the pages that it has found. -/
  classified {m : Pagemap} {now : Instant} {t t' : FileTree} {pid iteration : UInt32} {file : Path} {heap : HeapRange}
    {count : UInt64} : m.classify now t pid iteration file heap = (.ok count, t') →
      ∃ pageWords content, m.survey t pid heap = .ok (count, pageWords) ∧ t'.read file = .ok content ∧
        ofArtifact? content = some (pages m.pageSize iteration (heap.start / m.pageSize) pageWords)

/-- **Artifacts are read back, line by line and page by page.** -/
theorem artifacts_readable : ReadableArtifacts := by
  constructor
  case fields => exact fields_shown
  case distinct => exact fun r r' same => line_injective same
  case artifact => exact ofArtifact?_artifactText
  case classified =>
    intro m now t t' pid iteration file heap count classified
    rw [Pagemap.classify] at classified
    split at classified
    next stop unread => cases classified
    next found pageWords surveyed =>
      dsimp only at classified
      split at classified
      next cause refused => cases classified
      next after wrote =>
        cases classified
        exact ⟨pageWords, _, surveyed, FileTree.read_write wrote, ofArtifact?_artifactText ..⟩

end HeapSampler

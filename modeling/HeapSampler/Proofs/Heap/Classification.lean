import Mathlib
import HeapSampler.Proofs.Files
import HeapSampler.Proofs.Heap.PageWords

/-!
# Classifying a heap

All words of a heap's pages are read before the artifact is touched. So a classification that reads them
leaves an artifact with exactly one line for each page (`classify_covers`), and one that does not leaves
all files as they were; it fails to read exactly where the page map cannot be opened or ends too early
(`classify_unread`).
-/

namespace HeapSampler

namespace HeapRange

theorem toNat_size (r : HeapRange) : r.size.toNat = r.stop.toNat - r.start.toNat := by
  rw [size]
  by_cases order : r.start ≤ r.stop
  · rw [if_pos order, UInt64.toNat_sub_of_le _ _ order]
  · rw [if_neg order]
    rw [UInt64.le_iff_toNat_le] at order
    show 0 = _
    omega

theorem pages_eq {pageSize : UInt64} (some : 0 < pageSize.toNat) (r : HeapRange) :
    r.pages pageSize = .ok (r.size / pageSize) := by
  rw [pages, if_neg]
  rintro rfl
  exact absurd some (by decide)

theorem toNat_pages (r : HeapRange) (pageSize : UInt64) :
    (r.size / pageSize).toNat = (r.stop.toNat - r.start.toNat) / pageSize.toNat := by
  rw [UInt64.toNat_div, toNat_size]

end HeapRange

namespace Pagemap

variable {m : Pagemap} {t : FileTree} {pid : UInt32} {node : Node} {first count : UInt64} {pageWords : List UInt64}

/-! ## Opening and reading -/

/-- What can be read of something that was opened; of a directory, nothing. -/
def held : Node → Bytes
  | .directory => []
  | .file content => content

/-- A process has such a number and a directory, and what lies there as its page map can be opened. -/
structure Opens (m : Pagemap) (t : FileTree) (pid : UInt32) (node : Node) : Prop where
  numbered : pid.toNat ≤ maxPid
  process : t.isDir (m.directory pid) = true
  found : ∃ l, t.find (m.directory pid / "pagemap") = .ok (l, node)

theorem openError_unread (e : IoError) : ∃ cause, openError e = .processNotRead cause := by
  cases e <;> exact ⟨_, rfl⟩

/-- A page map is opened, or something of the process cannot be read. -/
theorem content_cases (m : Pagemap) (t : FileTree) (pid : UInt32) :
    (∃ node, m.content t pid = .ok node ∧ m.Opens t pid node) ∨
      (∃ cause, m.content t pid = .error (.processNotRead cause)) ∧ ∀ node, ¬ m.Opens t pid node := by
  unfold content
  rcases process : t.find (m.directory pid) with e | ⟨l, _ | content⟩
  · obtain ⟨cause, same⟩ := openError_unread e
    refine .inr ⟨⟨cause, congrArg Except.error same⟩, ?_⟩
    rintro node ⟨-, directory, -⟩
    rw [FileTree.isDir, process] at directory
    cases directory
  · have directory : t.isDir (m.directory pid) = true := by rw [FileTree.isDir, process]
    by_cases beyond : pid.toNat > maxPid
    · refine .inr ⟨⟨.missing, by rw [if_pos beyond]; rfl⟩, ?_⟩
      rintro node ⟨numbered, -, -⟩
      omega
    rcases found : t.find (m.directory pid / "pagemap") with e | ⟨l', node⟩
    · obtain ⟨cause, same⟩ := openError_unread e
      refine .inr ⟨⟨cause, by rw [if_neg beyond]; exact congrArg Except.error same⟩, ?_⟩
      rintro node ⟨-, -, l'', there⟩
      rw [found] at there
      cases there
    · exact .inl ⟨node, by rw [if_neg beyond]; rfl, Nat.le_of_not_lt beyond, directory, l', found⟩
  · refine .inr ⟨⟨.unreadable, rfl⟩, ?_⟩
    rintro node ⟨-, directory, -⟩
    rw [FileTree.isDir, process] at directory
    cases directory

/-- What was opened is one thing. -/
theorem Opens.unique {node' : Node} (opens : m.Opens t pid node) (opens' : m.Opens t pid node') : node = node' := by
  obtain ⟨l, found⟩ := opens.found
  obtain ⟨l', found'⟩ := opens'.found
  rw [found] at found'
  cases found'
  rfl

/-- The page map goes on up to the end of some pages, or there are no pages. -/
def Reaches (node : Node) (first count : Nat) : Prop :=
  0 < count → 8 * (first + count) ≤ (held node).length

/-- What is read of a page map that was opened, at an offset that can be sought. -/
theorem read_opened (opened : m.content t pid = .ok node) (sought : ¬ (first * 8).toNat ≥ 0x8000000000000000)
    (count : UInt64) : m.read t pid first count =
      if count = 0 then .ok []
      else if (held node).length < 8 * (first.toNat + count.toNat) then .error (.processNotRead .unreadable)
      else .ok (words count.toNat ((held node).drop (wordSize * first.toNat))) := by
  rw [read, opened]
  simp only [bind, Except.bind]
  rw [if_neg sought]
  cases node with
  | file content => rfl
  | directory =>
    by_cases none : count = 0
    · subst none
      rfl
    · have some : 0 < count.toNat := Nat.pos_of_ne_zero fun zero => none (UInt64.toNat_inj.1 zero)
      have short : (held .directory).length < 8 * (first.toNat + count.toNat) := by
        show 0 < _
        omega
      rw [if_neg none, if_neg none, if_pos short]
      rfl

/-- Nothing is read at an offset that cannot be sought. -/
theorem read_unsought (opened : m.content t pid = .ok node) (beyond : (first * 8).toNat ≥ 0x8000000000000000)
    (count : UInt64) : m.read t pid first count = .error (.processNotRead .unreadable) := by
  rw [read, opened]
  simp only [bind, Except.bind]
  rw [if_pos beyond]
  rfl

/-- As many words are read as are asked for. -/
theorem length_of_read (read : m.read t pid first count = .ok pageWords) : pageWords.length = count.toNat := by
  obtain ⟨node, opened, -⟩ := FileTree.bind_eq_ok.1 read
  by_cases beyond : (first * 8).toNat ≥ 0x8000000000000000
  · rw [read_unsought opened beyond] at read
    cases read
  rw [read_opened opened beyond] at read
  split at read
  next none =>
    cases read
    rw [none]
    rfl
  split at read
  · cases read
  · cases read
    exact words_length _ _

/-- The words of some pages are read where the page map can be opened and reaches their end; where not,
something of the process cannot be read. -/
theorem read_cases (m : Pagemap) (t : FileTree) (pid : UInt32) {first : UInt64} (count : UInt64)
    (sought : 8 * first.toNat < 0x8000000000000000) :
    (∃ node, m.Opens t pid node ∧ Reaches node first.toNat count.toNat ∧
        m.read t pid first count = .ok (words count.toNat ((held node).drop (wordSize * first.toNat)))) ∨
      (∃ cause, m.read t pid first count = .error (.processNotRead cause)) ∧
        ∀ node, m.Opens t pid node → ¬ Reaches node first.toNat count.toNat := by
  have offset : ¬ (first * 8).toNat ≥ 0x8000000000000000 := by
    rw [UInt64.toNat_mul, Nat.mul_comm]
    show ¬ 8 * first.toNat % 18446744073709551616 ≥ _
    omega
  obtain ⟨node, opened, opens⟩ | ⟨⟨cause, failed⟩, closed⟩ := content_cases m t pid
  · rw [read_opened opened offset]
    by_cases none : count = 0
    · subst none
      exact .inl ⟨node, opens, fun some => absurd some (by decide), rfl⟩
    rw [if_neg none]
    by_cases short : (held node).length < 8 * (first.toNat + count.toNat)
    · rw [if_pos short]
      refine .inr ⟨⟨_, rfl⟩, ?_⟩
      intro node' opens' reaches
      rw [← opens.unique opens'] at reaches
      have some : 0 < count.toNat := Nat.pos_of_ne_zero fun zero => none (UInt64.toNat_inj.1 zero)
      exact absurd (reaches some) (Nat.not_le.2 short)
    · rw [if_neg short]
      exact .inl ⟨node, opens, fun _ => Nat.not_lt.1 short, rfl⟩
  · exact .inr ⟨⟨cause, by rw [read, failed]; rfl⟩, fun node opens => absurd opens (closed node)⟩

/-! ## Classifying -/

theorem survey_eq (some : 0 < m.pageSize.toNat) (t : FileTree) (pid : UInt32) (heap : HeapRange) :
    m.survey t pid heap =
      ((m.read t pid (heap.start / m.pageSize) (heap.size / m.pageSize)).mapError .error).map
        fun pageWords => (heap.size / m.pageSize, pageWords) := by
  rw [survey, HeapRange.pages_eq some]
  rfl

section Classify

variable {now : Instant} {iteration : UInt32} {artifact : Path} {heap : HeapRange}

/-- Where nothing is read, nothing is written. -/
theorem classify_of_unread {e : MonitorError} (some : 0 < m.pageSize.toNat)
    (unread : m.read t pid (heap.start / m.pageSize) (heap.size / m.pageSize) = .error e) :
    m.classify now t pid iteration artifact heap = (.error (.error e), t) := by
  rw [classify, survey_eq some, unread]
  rfl

/-- What is read is written. -/
theorem classify_of_read (some : 0 < m.pageSize.toNat)
    (read : m.read t pid (heap.start / m.pageSize) (heap.size / m.pageSize) = .ok pageWords) :
    m.classify now t pid iteration artifact heap =
      match t.write artifact (Bytes.ofString
        (artifactText now m.pageSize iteration (heap.start / m.pageSize) pageWords)) with
      | .error cause => (.error (.error (.artifactNotWritten artifact cause)), t)
      | .ok t' => (.ok (heap.size / m.pageSize), t') := by
  rw [classify, survey_eq some, read]
  rfl

/-- A classification that succeeds has read the words of all whole pages and written them. -/
theorem classify_eq_ok {pages : UInt64} {t' : FileTree} (some : 0 < m.pageSize.toNat)
    (classified : m.classify now t pid iteration artifact heap = (.ok pages, t')) :
    pages = heap.size / m.pageSize ∧ ∃ pageWords, pageWords.length = pages.toNat ∧ t.write artifact (Bytes.ofString
      (artifactText now m.pageSize iteration (heap.start / m.pageSize) pageWords)) = .ok t' := by
  cases read : m.read t pid (heap.start / m.pageSize) (heap.size / m.pageSize) with
  | error e =>
    rw [classify_of_unread some read] at classified
    cases classified
  | ok pageWords =>
    rw [classify_of_read some read] at classified
    split at classified
    next => cases classified
    next wrote =>
      cases classified
      exact ⟨rfl, pageWords, length_of_read read, wrote⟩

end Classify

/-- The lines of an artifact that covers a heap: one with the time, and one for each page in the order of
addresses, which are consecutive and end where the heap ends. -/
structure Covers (content : Bytes) (now : Instant) (iteration : UInt32) (pageSize : Nat) (heap : HeapRange)
    (shown : List String) : Prop where
  time : shown.head? = some (timestamp now)
  count : shown.length = 1 + (heap.stop.toNat - heap.start.toNat) / pageSize
  page : ∀ i < (heap.stop.toNat - heap.start.toNat) / pageSize, ∃ address : UInt64,
    address.toNat = heap.start.toNat + i * pageSize ∧
    shown[1 + i]? = some ((entryAt content (heap.start.toNat / pageSize + i)).line iteration address)
  whole : heap.start.toNat + (heap.stop.toNat - heap.start.toNat) / pageSize * pageSize = heap.stop.toNat
  oneLine : ∀ line ∈ shown, OneLine line

/-- A page number that is multiplied is the product that it would be without a bound, if that has room in a word. -/
theorem toNat_page_mul {page size : UInt64} {i : Nat} (fits : (page.toNat + i) * size.toNat < UInt64.size) :
    ((page + UInt64.ofNat i) * size).toNat = (page.toNat + i) * size.toNat := by
  rw [UInt64.toNat_mul, UInt64.toNat_add, UInt64.toNat_ofNat', Nat.add_mod_mod, Nat.mod_mul_mod]
  exact Nat.mod_eq_of_lt fits

/-- The address of a page of a heap that begins with a page. -/
theorem address_eq {pageSize start : UInt64} {i : Nat} (whole : pageSize.toNat ∣ start.toNat)
    (inside : start.toNat + i * pageSize.toNat < UInt64.size) :
    ((start / pageSize + UInt64.ofNat i) * pageSize).toNat = start.toNat + i * pageSize.toNat := by
  have product : ((start / pageSize).toNat + i) * pageSize.toNat = start.toNat + i * pageSize.toNat := by
    rw [UInt64.toNat_div, Nat.add_mul, Nat.div_mul_cancel whole]
  rw [toNat_page_mul (product.symm ▸ inside), product]

/-- The words of whole pages that were read make the lines that cover them. -/
theorem lines_cover {pageSize : UInt64} (content : Bytes) (now : Instant) (iteration : UInt32) {heap : HeapRange}
    (order : heap.start.toNat ≤ heap.stop.toNat) (startWhole : pageSize.toNat ∣ heap.start.toNat)
    (stopWhole : pageSize.toNat ∣ heap.stop.toNat) :
    Covers content now iteration pageSize.toNat heap
      (timestamp now :: lines pageSize iteration (heap.start / pageSize)
        (words (heap.size / pageSize).toNat (content.drop (wordSize * (heap.start / pageSize).toNat)))) where
  time := rfl
  count := by rw [List.length_cons, lines_length, words_length, HeapRange.toNat_pages, Nat.add_comm]
  page := by
    intro i inside
    have place : heap.start.toNat + i * pageSize.toNat < UInt64.size := by
      have some : 0 < pageSize.toNat := by
        apply Nat.pos_of_ne_zero
        intro none
        rw [none, Nat.div_zero] at inside
        omega
      have upper : (i + 1) * pageSize.toNat ≤ heap.stop.toNat - heap.start.toNat := (Nat.le_div_iff_mul_le some).1 inside
      have last : heap.stop.toNat < UInt64.size := heap.stop.toNat_lt
      rw [Nat.succ_mul] at upper
      omega
    refine ⟨(heap.start / pageSize + UInt64.ofNat i) * pageSize, address_eq startWhole place, ?_⟩
    have said := ofWord_words (HeapRange.toNat_pages heap pageSize ▸ inside) content (heap.start / pageSize).toNat
    obtain ⟨word, there, entry⟩ := Option.map_eq_some_iff.1 said
    rw [Nat.add_comm 1, List.getElem?_cons_succ, lines_getElem?, there, Option.map_some, entry, UInt64.toNat_div]
  whole := by
    have length : pageSize.toNat ∣ heap.stop.toNat - heap.start.toNat := Nat.dvd_sub stopWhole startWhole
    rw [Nat.div_mul_cancel length]
    omega
  oneLine := by
    intro line shown
    rcases List.mem_cons.1 shown with rfl | shown
    · exact timestamp_oneLine now
    · obtain ⟨i, there⟩ := List.mem_iff_getElem?.1 shown
      rw [lines_getElem?] at there
      obtain ⟨word, -, rfl⟩ := Option.map_eq_some_iff.1 there
      exact line_oneLine _ _ _

/-- A process is described by a page map of some content. Offsets in a file are signed 64-bit numbers, so no file
is longer than they reach. -/
structure Describes (m : Pagemap) (t : FileTree) (pid : UInt32) (content : Bytes) : Prop where
  opens : m.Opens t pid (.file content)
  sized : content.length < 0x8000000000000000

/-- **Every page of a heap has its line.** Where the page map of a process reaches the end of a heap of whole pages
and the artifact can be written, the pages are counted, and the artifact covers the heap. -/
theorem classify_covers (m : Pagemap) (now : Instant) (t : FileTree) (pid iteration : UInt32) (artifact : Path)
    (heap : HeapRange) (content : Bytes) (size : 8 ≤ m.pageSize.toNat) (order : heap.start.toNat ≤ heap.stop.toNat)
    (startWhole : m.pageSize.toNat ∣ heap.start.toNat) (stopWhole : m.pageSize.toNat ∣ heap.stop.toNat)
    (describes : m.Describes t pid content) (long : 8 * (heap.stop.toNat / m.pageSize.toNat) ≤ content.length)
    (writable : ∃ other t', t.write artifact other = .ok t') :
    ∃ pages t' shown, m.classify now t pid iteration artifact heap = (.ok pages, t') ∧
      pages.toNat = (heap.stop.toNat - heap.start.toNat) / m.pageSize.toNat ∧
      t'.read artifact = .ok (Bytes.ofString (String.join (shown.map (· ++ "\n")))) ∧
      Covers content now iteration m.pageSize.toNat heap shown := by
  have some : 0 < m.pageSize.toNat := by omega
  have covers := lines_cover content now iteration order startWhole stopWhole
  have first : (heap.start / m.pageSize).toNat = heap.start.toNat / m.pageSize.toNat := UInt64.toNat_div _ _
  have upTo : heap.start.toNat / m.pageSize.toNat + (heap.size / m.pageSize).toNat =
      heap.stop.toNat / m.pageSize.toNat := by
    obtain ⟨a, startAt⟩ := startWhole
    obtain ⟨b, stopAt⟩ := stopWhole
    have before : a ≤ b := Nat.le_of_mul_le_mul_left (startAt ▸ stopAt ▸ order) some
    rw [HeapRange.toNat_pages, startAt, stopAt, ← Nat.mul_sub, Nat.mul_div_cancel_left _ some,
      Nat.mul_div_cancel_left _ some, Nat.mul_div_cancel_left _ some]
    omega
  have sought : 8 * (heap.start / m.pageSize).toNat < 0x8000000000000000 := by
    have sized := describes.sized
    omega
  obtain ⟨node, opens, -, read⟩ | ⟨-, closed⟩ := read_cases m t pid (heap.size / m.pageSize) sought
  · obtain rfl : node = .file content := opens.unique describes.opens
    obtain ⟨other, before, wrote⟩ := writable
    obtain ⟨t', written⟩ := FileTree.write_other wrote (Bytes.ofString (artifactText now m.pageSize iteration
      (heap.start / m.pageSize) (words _ ((held (.file content)).drop _))))
    refine ⟨heap.size / m.pageSize, t', _, ?_, HeapRange.toNat_pages heap m.pageSize, FileTree.read_write written, covers⟩
    rw [classify_of_read some read, written]
  · refine absurd ?_ (closed _ describes.opens)
    intro _
    rw [first, upTo]
    exact long

namespace Sample

/-- A page map of three pages: of the first it says nothing; the second is in memory; the third is swapped out, of
a file and was written. -/
def content : Bytes :=
  List.replicate 15 0 ++ [0x80] ++ List.replicate 6 0 ++ [0x80, 0x60]

/-- A tree with the page map of process 5, and of a process whose number is too large, and with an artifact. -/
def files : FileTree :=
  let made : Except IoError FileTree := do
    let t ← FileTree.empty.createDir (Path.ofString "/proc")
    let t ← t.createDir (Path.ofString "/proc/5")
    let t ← t.write (Path.ofString "/proc/5/pagemap") content
    let t ← t.createDir (Path.ofString "/proc/2147483648")
    let t ← t.write (Path.ofString "/proc/2147483648/pagemap") content
    t.write (Path.ofString "/kept") (Bytes.ofString "kept")
  made.toOption.getD .empty

def pagemap : Pagemap := ⟨Path.ofString "/proc", 4096⟩

def artifact : Path := Path.ofString "/kept"

theorem describes : pagemap.Describes files 5 content := by
  refine ⟨⟨by decide, by decide +kernel, [Bytes.ofString "pagemap", Bytes.ofString "5", Bytes.ofString "proc"], ?_⟩, by decide⟩
  cbv

end Sample

theorem classify_covers_sample :
    8 ≤ Sample.pagemap.pageSize.toNat ∧ Sample.pagemap.Describes Sample.files 5 Sample.content ∧
      ∃ t' shown, Sample.pagemap.classify ⟨0⟩ Sample.files 5 2 Sample.artifact ⟨4096, 12288⟩ = (.ok 2, t') ∧
        t'.read Sample.artifact = .ok (Bytes.ofString (String.join (shown.map (· ++ "\n")))) ∧
        Covers Sample.content ⟨0⟩ 2 4096 ⟨4096, 12288⟩ shown := by
  have writable : ∃ other t', Sample.files.write Sample.artifact other = .ok t' := ⟨[], _, rfl⟩
  obtain ⟨pages, t', shown, classified, counted, kept, covers⟩ :=
    classify_covers Sample.pagemap ⟨0⟩ Sample.files 5 2 Sample.artifact ⟨4096, 12288⟩ Sample.content (by decide) (by decide)
      (by decide) (by decide) Sample.describes (by decide) writable
  obtain rfl : pages = 2 := UInt64.toNat_inj.1 counted
  exact ⟨by decide, Sample.describes, t', shown, classified, kept, covers⟩

/-! ## Nothing read, nothing written -/

/-- A classification ends because something of the process cannot be read. -/
def Unread (outcome : Except Stop UInt64) : Prop :=
  ∃ cause, outcome = .error (.error (.processNotRead cause))

/-- When a classification fails to read, and what it leaves: `first` is the number of the heap's first page and
`count` the number of its whole pages. -/
structure ReadsFirst (m : Pagemap) (now : Instant) (t : FileTree) (pid iteration : UInt32) (artifact : Path)
    (heap : HeapRange) (first count : Nat) : Prop where
  /-- Nothing can be opened, or it ends before the last of some pages. -/
  unread : Unread (m.classify now t pid iteration artifact heap).1 ↔
    (¬ ∃ node, m.Opens t pid node) ∨ 0 < count ∧ ∃ node, m.Opens t pid node ∧ (held node).length < 8 * (first + count)
  /-- Then all files, the artifact too, are as they were. -/
  kept : Unread (m.classify now t pid iteration artifact heap).1 → (m.classify now t pid iteration artifact heap).2 = t
  /-- Of no pages the artifact shows the time only, however short the page map is. -/
  timeOnly : count = 0 → (∃ node, m.Opens t pid node) → (∃ other t', t.write artifact other = .ok t') →
    ∃ t', m.classify now t pid iteration artifact heap = (.ok 0, t') ∧
      t'.read artifact = .ok (Bytes.ofString (timestamp now ++ "\n"))

theorem not_unread_ok (pages : UInt64) : ¬ Unread (.ok pages) := by
  rintro ⟨cause, same⟩
  cases same

theorem not_unread_of_read {now : Instant} {iteration : UInt32} {artifact : Path} {heap : HeapRange}
    (some : 0 < m.pageSize.toNat)
    (read : m.read t pid (heap.start / m.pageSize) (heap.size / m.pageSize) = .ok pageWords) :
    ¬ Unread (m.classify now t pid iteration artifact heap).1 := by
  rw [classify_of_read some read]
  cases t.write artifact _ with
  | ok t' => exact not_unread_ok _
  | error cause =>
    rintro ⟨cause', same⟩
    cases same

/-- **A page map that cannot be read leaves the artifact alone.** -/
theorem classify_unread (m : Pagemap) (now : Instant) (t : FileTree) (pid iteration : UInt32) (artifact : Path)
    (heap : HeapRange) (size : 4096 ≤ m.pageSize.toNat) :
    ReadsFirst m now t pid iteration artifact heap (heap.start.toNat / m.pageSize.toNat)
      ((heap.stop.toNat - heap.start.toNat) / m.pageSize.toNat) := by
  have some : 0 < m.pageSize.toNat := by omega
  have first : (heap.start / m.pageSize).toNat = heap.start.toNat / m.pageSize.toNat := UInt64.toNat_div _ _
  have sought : 8 * (heap.start / m.pageSize).toNat < 0x8000000000000000 := by
    have upper : heap.start.toNat / m.pageSize.toNat ≤ heap.start.toNat / 4096 := Nat.div_le_div_left size (by decide)
    have bound : heap.start.toNat < 18446744073709551616 := heap.start.toNat_lt
    omega
  have cases := read_cases m t pid (heap.size / m.pageSize) sought
  rw [first, HeapRange.toNat_pages] at cases
  obtain ⟨node, opens, reaches, read⟩ | ⟨⟨cause, failed⟩, closed⟩ := cases
  · -- the words are read, so only the artifact can fail
    constructor
    case unread =>
      refine iff_of_false (not_unread_of_read some read) ?_
      rintro (closed | ⟨pages, node', opens', short⟩)
      · exact closed ⟨node, opens⟩
      · rw [← opens.unique opens'] at short
        exact absurd (reaches pages) (Nat.not_le.2 short)
    case kept => exact fun unread => absurd unread (not_unread_of_read some read)
    case timeOnly =>
      intro none _ ⟨other, before, wrote⟩
      have zero : heap.size / m.pageSize = 0 := UInt64.toNat_inj.1 ((HeapRange.toNat_pages heap _).trans none)
      have nothing : m.read t pid (heap.start / m.pageSize) (heap.size / m.pageSize) = .ok [] := by
        rw [read, none]
        rfl
      obtain ⟨t', written⟩ := FileTree.write_other wrote (Bytes.ofString (artifactText now m.pageSize iteration
        (heap.start / m.pageSize) []))
      have text : artifactText now m.pageSize iteration (heap.start / m.pageSize) [] = timestamp now ++ "\n" :=
        String.empty_append
      refine ⟨t', ?_, text ▸ FileTree.read_write written⟩
      rw [classify_of_read some nothing, written, zero]
  · have classified : m.classify now t pid iteration artifact heap = (.error (.error (.processNotRead cause)), t) :=
      classify_of_unread some failed
    constructor
    case unread =>
      rw [classified]
      refine iff_of_true ⟨cause, rfl⟩ ?_
      by_cases opened : ∃ node, m.Opens t pid node
      · obtain ⟨node, opens⟩ := opened
        have short := closed node opens
        rw [Reaches, Classical.not_imp, Nat.not_le] at short
        exact .inr ⟨short.1, node, opens, short.2⟩
      · exact .inl opened
    case kept => exact fun _ => congrArg Prod.snd classified
    case timeOnly =>
      intro none ⟨node, opens⟩
      refine absurd ?_ (closed node opens)
      intro pages
      omega

theorem classify_unread_sample :
    4096 ≤ Sample.pagemap.pageSize.toNat ∧
      Unread (Sample.pagemap.classify ⟨0⟩ Sample.files 5 2 Sample.artifact ⟨4096, 16384⟩).1 ∧
      (Sample.pagemap.classify ⟨0⟩ Sample.files 5 2 Sample.artifact ⟨4096, 16384⟩).2 = Sample.files := by
  have reads := classify_unread Sample.pagemap ⟨0⟩ Sample.files 5 2 Sample.artifact ⟨4096, 16384⟩ (by decide)
  have short : (held (.file Sample.content)).length < 8 * (4096 / 4096 + (16384 - 4096) / 4096) := by decide
  have unread := reads.unread.2 (.inr ⟨by decide, .file Sample.content, Sample.describes.opens, short⟩)
  exact ⟨by decide, unread, reads.kept unread⟩

/-- A directory is not enough: what lies in one whose number no process can have is not looked at. -/
theorem unread_beyond_pids :
    Sample.files.isDir (Sample.pagemap.directory 2147483648) = true ∧
      Sample.files.read (Sample.pagemap.directory 2147483648 / "pagemap") = .ok Sample.content ∧
      8 * (0 / 4096 + (4096 - 0) / 4096) ≤ Sample.content.length ∧
      Unread (Sample.pagemap.classify ⟨0⟩ Sample.files 2147483648 2 Sample.artifact ⟨0, 4096⟩).1 := by
  refine ⟨by decide +kernel, by cbv, by decide, .missing, ?_⟩
  cbv

end Pagemap

end HeapSampler

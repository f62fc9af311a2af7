import HeapSampler.Heap.PageEntry
import HeapSampler.Heap.Range
import HeapSampler.Host.Clock
import HeapSampler.Host.FileTree

/-!
# Recording the pages of a heap

A process directory holds a page map: one 64-bit word, least byte first, for each page of the
address space. Classifying a heap reads the words of its whole pages and writes them as an
artifact: a line with the time, then a line for each page in the order of addresses. All words are
read before the artifact is touched.
-/

namespace HeapSampler

/-- Where processes are described, and the size of a page. -/
structure Pagemap where
  processes : Path
  pageSize : UInt64
  deriving DecidableEq, Repr

namespace Pagemap

/-- The bytes in a page word. -/
def wordSize : Nat := 8

/-- The word that eight bytes hold, least byte first. -/
def wordOf (bs : Bytes) : UInt64 :=
  UInt64.ofNat (bs.foldr (fun b n => b.toNat + 256 * n) 0)

/-- The first `n` words of a byte string. -/
def words : Nat → Bytes → List UInt64
  | 0, _ => []
  | n + 1, bs => wordOf (bs.take wordSize) :: words n (bs.drop wordSize)

/-- The largest process number; a process directory with a larger number describes no process. -/
def maxPid : Nat := 0x7FFFFFFF

/-- What a failure to open something of a process means. -/
def openError : IoError → MonitorError
  | .system errno =>
    .processNotRead (if errno = .noEntry then .missing else .unreadable)
  | _ => .processNotRead .unreadable

/-- The directory that describes a process. -/
def directory (m : Pagemap) (pid : UInt32) : Path :=
  m.processes / Decimal.text pid.toNat

/-- The content of a process' page map. -/
def content (m : Pagemap) (t : FileTree) (pid : UInt32) : Except MonitorError Node := do
  match t.find (m.directory pid) with
  | .error e => throw (openError e)
  | .ok (_, .file _) => throw (.processNotRead .unreadable)
  | .ok (_, .directory) =>
    if pid.toNat > maxPid then throw (.processNotRead .missing)
    match t.find (m.directory pid / "pagemap") with
    | .error e => throw (openError e)
    | .ok (_, node) => return node

/-- The page words of `count` pages from page `first` on. Offsets that are negative as signed
64-bit numbers cannot be sought. -/
def read (m : Pagemap) (t : FileTree) (pid : UInt32) (first count : UInt64) :
    Except MonitorError (List UInt64) := do
  let node ← m.content t pid
  if (first * 8).toNat ≥ 0x8000000000000000 then throw (.processNotRead .unreadable)
  match node with
  | .directory => if count = 0 then return [] else throw (.processNotRead .unreadable)
  | .file bs =>
    if count = 0 then return []
    else if bs.length < wordSize * (first.toNat + count.toNat) then
      throw (.processNotRead .unreadable)
    else return words count.toNat (bs.drop (wordSize * first.toNat))

/-- A moment as an artifact's first line shows it: seconds and milliseconds. -/
def timestamp (now : Instant) : String :=
  Decimal.text (now.nanos / Duration.nanosPerSecond) ++ "." ++
    Decimal.padded 3 (now.nanos % Duration.nanosPerSecond / Duration.nanosPerMilli)

/-- The lines for consecutive pages, the first at page number `page`. -/
def lines (pageSize : UInt64) (iteration : UInt32) (page : UInt64) : List UInt64 → List String
  | [] => []
  | word :: rest =>
    (PageEntry.ofWord word).line iteration (page * pageSize) ::
      lines pageSize iteration (page + 1) rest

/-- The text of an artifact. -/
def artifactText (now : Instant) (pageSize : UInt64) (iteration : UInt32) (page : UInt64)
    (pageWords : List UInt64) : String :=
  String.join ((timestamp now :: lines pageSize iteration page pageWords).map (· ++ "\n"))

/-- What a classification reads: the number of whole pages of a heap, and their words. -/
def survey (m : Pagemap) (t : FileTree) (pid : UInt32) (heap : HeapRange) :
    Except Stop (UInt64 × List UInt64) := do
  let count ← (heap.pages m.pageSize).mapError .fault
  let pageWords ← (m.read t pid (heap.start / m.pageSize) count).mapError .error
  return (count, pageWords)

/-- Records the pages of a heap in an artifact and counts them; with the result come the files as
they are afterwards. -/
def classify (m : Pagemap) (now : Instant) (t : FileTree) (pid iteration : UInt32)
    (artifact : Path) (heap : HeapRange) : Except Stop UInt64 × FileTree :=
  match m.survey t pid heap with
  | .error stop => (.error stop, t)
  | .ok (count, pageWords) =>
    let text := artifactText now m.pageSize iteration (heap.start / m.pageSize) pageWords
    match t.write artifact (Bytes.ofString text) with
    | .error cause => (.error (.error (.artifactNotWritten artifact cause)), t)
    | .ok t => (.ok count, t)

end Pagemap

end HeapSampler

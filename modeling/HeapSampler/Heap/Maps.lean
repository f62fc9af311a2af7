import HeapSampler.Heap.Range
import HeapSampler.Host.FileTree

/-!
# Finding the heap of a process

A process directory lists the memory mappings of the process, one on a line: the address range in
hexadecimal, four more fields, and the name of what is mapped. The heap is the mapping with the
name `[heap]`.
-/

namespace HeapSampler

namespace MemoryMap

/-- The name of the heap's mapping. -/
def heapName : String := "[heap]"

/-- The words of a line. -/
def words (line : List Char) : List (List Char) :=
  ((line.splitOnP (· == ' ')).filter (!·.isEmpty))

/-- A 64-bit address in hexadecimal. -/
def address? (cs : List Char) : Option UInt64 := do
  let n ← Decimal.ofDigits? 16 cs
  if n < UInt64.size then some (UInt64.ofNat n) else none

/-- The address range of a mapping and its name, if it has one. -/
def mapping? (line : List Char) : Option (HeapRange × Option (List Char)) :=
  match words line with
  | range :: _permissions :: _offset :: _device :: _inode :: name => do
    let start ← address? (range.takeWhile (· != '-'))
    let stop ← address? ((range.dropWhile (· != '-')).drop 1)
    return (⟨start, stop⟩, name.head?)
  | _ => none

/-- The heap among the mappings of a process. -/
def heap? (text : String) : Option HeapRange :=
  let lines := (text.toList.splitOnP (· == '\n')).filter (!·.isEmpty)
  (lines.filterMap mapping?).findSome? fun (range, name) =>
    if name = some heapName.toList then some range else none

/-- The heap of a process. A process that is gone has none. -/
def heapOf (processes : Path) (t : FileTree) (pid : UInt32) :
    Except MonitorError (Option HeapRange) :=
  match t.readText (processes / Decimal.text pid.toNat / "maps") with
  | .ok text => .ok (heap? text)
  | .error (.system errno) =>
    if errno = .noEntry then .ok none else .error (.processNotRead .unreadable)
  | .error _ => .error (.processNotRead .unreadable)

end MemoryMap

end HeapSampler

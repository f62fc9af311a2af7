import HeapSampler.Error

/-!
# The address range of a heap

Addresses are 64-bit words. The end of a range is exclusive, and a range that ends before it
starts is empty.
-/

namespace HeapSampler

/-- The virtual addresses of a heap, the last one excluded. -/
structure HeapRange where
  start : UInt64
  stop : UInt64
  deriving DecidableEq, Repr

namespace HeapRange

/-- The number of bytes in the range. -/
def size (r : HeapRange) : UInt64 :=
  if r.start ≤ r.stop then r.stop - r.start else 0

/-- The range holds no byte. -/
def isEmpty (r : HeapRange) : Bool :=
  r.size == 0

/-- The number of whole pages in the range. There are no pages of size zero. -/
def pages (r : HeapRange) (pageSize : UInt64) : Except Fault UInt64 :=
  if pageSize = 0 then .error .divisionByZero else .ok (r.size / pageSize)

end HeapRange

end HeapSampler

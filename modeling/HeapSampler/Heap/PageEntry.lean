import HeapSampler.Text.Decimal

/-!
# The residency of one page

The kernel describes each page of a process by one 64-bit word. `PageEntry` keeps four of its
bits, and `PageEntry.line` is the line that a snapshot's artifact holds for the page.
-/

namespace HeapSampler

/-- Where a page is and what backs it. -/
structure PageEntry where
  present : Bool
  swapped : Bool
  fileOrShared : Bool
  softDirty : Bool
  deriving DecidableEq, Repr

namespace PageEntry

/-- The bit of a page word that says the page is in memory. -/
def presentBit : Nat := 63

/-- The bit of a page word that says the page is swapped out. -/
def swappedBit : Nat := 62

/-- The bit of a page word that says the page is a file's or shared. -/
def fileBit : Nat := 61

/-- The bit of a page word that says the page was written since the bit was last cleared. -/
def softDirtyBit : Nat := 55

/-- What a page word says. -/
def ofWord (word : UInt64) : PageEntry where
  present := word.toNat.testBit presentBit
  swapped := word.toNat.testBit swappedBit
  fileOrShared := word.toNat.testBit fileBit
  softDirty := word.toNat.testBit softDirtyBit

/-- A flag as a digit. -/
def flag (b : Bool) : Char :=
  if b then '1' else '0'

/-- The five fields of an artifact line: the iteration, the page's address in hexadecimal and in
decimal, present and swapped, file and soft-dirty. -/
def fields (e : PageEntry) (iteration : UInt32) (address : UInt64) : List (List Char) :=
  [ Decimal.digits iteration.toNat,
    '0' :: 'x' :: Decimal.hexDigits address.toNat,
    Decimal.digits address.toNat,
    [flag e.present, flag e.swapped],
    [flag e.fileOrShared, flag e.softDirty] ]

/-- The artifact line for the page at an address. -/
def line (e : PageEntry) (iteration : UInt32) (address : UInt64) : String :=
  String.ofList (List.intercalate ['\t'] (e.fields iteration address))

end PageEntry

end HeapSampler

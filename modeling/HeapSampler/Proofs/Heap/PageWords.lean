import HeapSampler.Heap.Pagemap
import HeapSampler.Proofs.Text.Decimal

/-!
# What a page map says, and how an artifact shows it

A page map is a row of words of eight bytes, least byte first. What it says of a page is said here bit by
bit of its bytes (`entryAt`), without words; reading the words gives the same (`ofWord_words`). The lines
of an artifact are the pages of consecutive addresses (`lines_getElem?`), and no line holds the end of
another.
-/

namespace HeapSampler.Pagemap

/-! ## Words -/

/-- A bit of what a page map says of a page. -/
def bitAt (content : Bytes) (page bit : Nat) : Bool :=
  (content.getD (8 * page + bit / 8) 0).toNat.testBit (bit % 8)

/-- What a page map says of a page: bits 63, 62, 61 and 55 of its word. -/
def entryAt (content : Bytes) (page : Nat) : PageEntry where
  present := bitAt content page 63
  swapped := bitAt content page 62
  fileOrShared := bitAt content page 61
  softDirty := bitAt content page 55

/-- The bits of bytes, least byte first, follow one another. -/
theorem testBit_foldr (bs : Bytes) (i : Nat) :
    (bs.foldr (fun (b : UInt8) n => b.toNat + 256 * n) 0).testBit i = (bs.getD (i / 8) 0).toNat.testBit (i % 8) := by
  induction bs generalizing i with
  | nil => simp
  | cons b bs ih =>
    have digit (n : Nat) : (256 * n + b.toNat).testBit i = if i < 8 then b.toNat.testBit i else n.testBit (i - 8) :=
      Nat.testBit_two_pow_mul_add n b.toNat_lt i
    rw [List.foldr_cons, Nat.add_comm, digit]
    by_cases first : i < 8
    · rw [if_pos first, Nat.div_eq_of_lt first, Nat.mod_eq_of_lt first]
      rfl
    · have next : i / 8 = (i - 8) / 8 + 1 := by omega
      have within : (i - 8) % 8 = i % 8 := by omega
      rw [if_neg first, ih, next, within]
      rfl

theorem testBit_wordOf (bs : Bytes) {i : Nat} (inside : i < 64) :
    (wordOf bs).toNat.testBit i = (bs.getD (i / 8) 0).toNat.testBit (i % 8) := by
  rw [wordOf, UInt64.toNat_ofNat', Nat.testBit_mod_two_pow, testBit_foldr]
  simp [inside]

/-- The word of a page says of it what its bytes say. -/
theorem testBit_page (content : Bytes) (page : Nat) {i : Nat} (inside : i < 64) :
    (wordOf ((content.drop (8 * page)).take wordSize)).toNat.testBit i = bitAt content page i := by
  have byte : i / 8 < wordSize := by
    show i / 8 < 8
    omega
  rw [testBit_wordOf _ inside, bitAt, List.getD_eq_getElem?_getD, List.getElem?_take_of_lt byte, List.getElem?_drop,
    ← List.getD_eq_getElem?_getD]

theorem words_getElem? (count : Nat) (bs : Bytes) (i : Nat) :
    (words count bs)[i]? = if i < count then some (wordOf ((bs.drop (8 * i)).take wordSize)) else none := by
  induction count generalizing bs i with
  | zero => simp [words]
  | succ count ih =>
    rw [words]
    cases i with
    | zero => simp
    | succ i =>
      have behind : wordSize + 8 * i = 8 * (i + 1) := by
        show 8 + 8 * i = 8 * (i + 1)
        omega
      rw [List.getElem?_cons_succ, ih, List.drop_drop, behind]
      simp only [Nat.add_lt_add_iff_right]

theorem words_length (count : Nat) (bs : Bytes) : (words count bs).length = count := by
  induction count generalizing bs with
  | zero => rfl
  | succ count ih => rw [words, List.length_cons, ih]

/-- The words of some pages say of each of them what the page map says. -/
theorem ofWord_words {count i : Nat} (inside : i < count) (content : Bytes) (first : Nat) :
    (words count (content.drop (wordSize * first)))[i]?.map PageEntry.ofWord = some (entryAt content (first + i)) := by
  have place : wordSize * first + 8 * i = 8 * (first + i) := by
    show 8 * first + 8 * i = 8 * (first + i)
    omega
  rw [words_getElem?, if_pos inside, List.drop_drop, place]
  simp only [Option.map_some, PageEntry.ofWord, entryAt]
  congr 2 <;> exact testBit_page content (first + i) (by decide)

/-! ## Lines -/

theorem lines_length (pageSize : UInt64) (iteration : UInt32) (page : UInt64) (pageWords : List UInt64) :
    (lines pageSize iteration page pageWords).length = pageWords.length := by
  induction pageWords generalizing page with
  | nil => rfl
  | cons word rest ih => rw [lines, List.length_cons, List.length_cons, ih]

/-- Each line is for the page after that of the line before. -/
theorem lines_getElem? (pageSize : UInt64) (iteration : UInt32) (page : UInt64) (pageWords : List UInt64) (i : Nat) :
    (lines pageSize iteration page pageWords)[i]? = pageWords[i]?.map fun word =>
      (PageEntry.ofWord word).line iteration ((page + UInt64.ofNat i) * pageSize) := by
  induction pageWords generalizing page i with
  | nil => rfl
  | cons word rest ih =>
    rw [lines]
    cases i with
    | zero => simp
    | succ i =>
      have next : page + 1 + UInt64.ofNat i = page + UInt64.ofNat (i + 1) := by
        rw [UInt64.ofNat_add, UInt64.add_assoc, UInt64.add_comm 1]
        rfl
      rw [List.getElem?_cons_succ, List.getElem?_cons_succ, ih, next]

/-- The line ends where its text ends. -/
def OneLine (text : String) : Prop :=
  '\n' ∉ text.toList

theorem digits_oneLine {b n : Nat} (base : 1 < b) (small : b ≤ 16) : '\n' ∉ Nat.toDigits b n :=
  Decimal.not_mem_toDigits (by decide) base small n

theorem line_oneLine (e : PageEntry) (iteration : UInt32) (address : UInt64) : OneLine (e.line iteration address) := by
  have flag (b : Bool) : '\n' ≠ PageEntry.flag b := by cases b <;> decide
  have decimal (n : Nat) : '\n' ∉ Decimal.digits n := digits_oneLine (by decide) (by decide)
  have hexadecimal (n : Nat) : '\n' ∉ Decimal.hexDigits n := digits_oneLine (by decide) (by decide)
  rw [OneLine, PageEntry.line, String.toList_ofList]
  simp [PageEntry.fields, List.intercalate, List.intersperse, flag, decimal, hexadecimal]

theorem timestamp_oneLine (now : Instant) : OneLine (timestamp now) := by
  have decimal (n : Nat) : '\n' ∉ Decimal.digits n := digits_oneLine (by decide) (by decide)
  have zeros (k : Nat) : '\n' ∉ List.replicate k '0' := fun found => absurd (List.eq_of_mem_replicate found) (by decide)
  rw [OneLine, timestamp, Decimal.text, Decimal.padded, Decimal.padZero, String.toList_append, String.toList_append,
    String.toList_ofList, String.toList_ofList]
  simp [decimal, zeros]

end HeapSampler.Pagemap

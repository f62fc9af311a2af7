import HeapSampler.Proofs.Heap.Classification

/-!
# Page numbers as words

A classification numbers the pages of a heap, seeks their words in the page map and shows their addresses, all in
64-bit words. The number of the first page and that of whole pages are rounded down separately, so together they reach
no further than the heap does (`reach_le`); and a page is no smaller than the word that describes it. So every number
that is computed is the one that it would be without a bound, up to the page behind the last (`pages_stay_in_words`).
-/

namespace HeapSampler.Pagemap

variable {m : Pagemap} {heap : HeapRange} {first pages : UInt64}

/-- Whole pages, from the one in which a heap starts, reach no further than the heap does. -/
theorem reach_le (start stop size : Nat) : (start / size + (stop - start) / size) * size ≤ max start stop := by
  have front : start / size * size ≤ start := Nat.div_mul_le_self start size
  have length : (stop - start) / size * size ≤ stop - start := Nat.div_mul_le_self (stop - start) size
  rw [Nat.add_mul]
  omega

theorem pages_reach (m : Pagemap) (heap : HeapRange) :
    ((heap.start / m.pageSize).toNat + (heap.size / m.pageSize).toNat) * m.pageSize.toNat ≤
      max heap.start.toNat heap.stop.toNat := by
  rw [HeapRange.toNat_pages, UInt64.toNat_div]
  exact reach_le _ _ _

/-- No page, the one behind the last included, starts where there is no address. -/
theorem pages_reach_lt (m : Pagemap) (heap : HeapRange) :
    ((heap.start / m.pageSize).toNat + (heap.size / m.pageSize).toNat) * m.pageSize.toNat < UInt64.size := by
  have reach := pages_reach m heap
  have start : heap.start.toNat < UInt64.size := heap.start.toNat_lt
  have stop : heap.stop.toNat < UInt64.size := heap.stop.toNat_lt
  omega

/-- Nor is there a page whose word lies where there is no offset. -/
theorem offsets_lt (size : 8 ≤ m.pageSize.toNat) (heap : HeapRange) :
    ((heap.start / m.pageSize).toNat + (heap.size / m.pageSize).toNat) * 8 < UInt64.size :=
  Nat.lt_of_le_of_lt (Nat.mul_le_mul_left _ size) (pages_reach_lt m heap)

/-- A page number times a size is the exact product, if that of a later page has room in a word. -/
theorem toNat_page_mul_of_le {size : UInt64} {i : Nat} (among : i ≤ pages.toNat)
    (fits : (first.toNat + pages.toNat) * size.toNat < UInt64.size) :
    ((first + UInt64.ofNat i) * size).toNat = (first.toNat + i) * size.toNat :=
  toNat_page_mul (Nat.lt_of_le_of_lt (Nat.mul_le_mul_right _ (Nat.add_le_add_left among _)) fits)

/-- The artifact shows a heap's pages at the addresses that they have: `first` is the number of the first one. -/
def ShowsAddresses (t : FileTree) (artifact : Path) (now : Instant) (iteration : UInt32) (pageSize first count : Nat) :
    Prop :=
  ∃ shown : List String, shown.length = count ∧
    t.read artifact = .ok (Bytes.ofString (String.join ((timestamp now :: shown).map (· ++ "\n")))) ∧
    ∀ i < count, ∃ (entry : PageEntry) (address : UInt64),
      address.toNat = (first + i) * pageSize ∧ shown[i]? = some (entry.line iteration address)

/-- All that a classification computes with is what it would be without a bound: `first` is the number of the heap's
first page and `pages` that of its whole pages. -/
structure Exact (m : Pagemap) (heap : HeapRange) (first pages : UInt64) : Prop where
  /-- The page behind the last has a number. -/
  behind : (first + pages).toNat = first.toNat + pages.toNat
  /-- So has every page before it, and the one after it, to which is counted on from there. -/
  number : ∀ i ≤ pages.toNat + 1, (first + UInt64.ofNat i).toNat = first.toNat + i
  /-- The offset of every page's word, and the one at which the last word ends. -/
  offset : ∀ i ≤ pages.toNat, ((first + UInt64.ofNat i) * 8).toNat = (first.toNat + i) * 8
  /-- The address of every page, and the one at which the last page ends. -/
  address : ∀ i ≤ pages.toNat, ((first + UInt64.ofNat i) * m.pageSize).toNat = (first.toNat + i) * m.pageSize.toNat
  /-- The pages of a range that does not end before it starts end within it. -/
  inside : heap.start ≤ heap.stop → (first.toNat + pages.toNat) * m.pageSize.toNat ≤ heap.stop.toNat
  /-- They are as many as have room in the range. -/
  whole : pages.toNat * m.pageSize.toNat ≤ heap.size.toNat ∧ heap.size.toNat < (pages.toNat + 1) * m.pageSize.toNat
  /-- So a classification that succeeds counts them and shows them at their addresses. -/
  recorded : ∀ now t pid iteration artifact counted t',
    m.classify now t pid iteration artifact heap = (.ok counted, t') →
      counted = pages ∧ ShowsAddresses t' artifact now iteration m.pageSize.toNat first.toNat pages.toNat

theorem recorded_exactly {now : Instant} {t t' : FileTree} {pid iteration : UInt32} {artifact : Path}
    (some : 0 < m.pageSize.toNat) (classified : m.classify now t pid iteration artifact heap = (.ok pages, t')) :
    ShowsAddresses t' artifact now iteration m.pageSize.toNat (heap.start / m.pageSize).toNat pages.toNat := by
  obtain ⟨rfl, pageWords, length, wrote⟩ := classify_eq_ok some classified
  refine ⟨lines m.pageSize iteration (heap.start / m.pageSize) pageWords, ?_, FileTree.read_write wrote, ?_⟩
  · rw [lines_length, length]
  · intro i among
    have read : pageWords[i]? = Option.some pageWords[i] := List.getElem?_eq_getElem (length ▸ among)
    refine ⟨PageEntry.ofWord pageWords[i], _, toNat_page_mul_of_le (Nat.le_of_lt among) (pages_reach_lt m heap), ?_⟩
    rw [lines_getElem?, read, Option.map_some]

/-- **Page numbers stay in words.** With pages of eight bytes or more, no number that a classification computes is cut
off, wherever the heap starts and ends. -/
theorem pages_stay_in_words (m : Pagemap) (heap : HeapRange) (size : 8 ≤ m.pageSize.toNat) :
    ∃ pages, heap.pages m.pageSize = .ok pages ∧ Exact m heap (heap.start / m.pageSize) pages := by
  have some : 0 < m.pageSize.toNat := by omega
  have behind : (heap.start / m.pageSize).toNat + (heap.size / m.pageSize).toNat + 1 < UInt64.size := by
    have offsets := offsets_lt size heap
    rw [UInt64.size] at offsets ⊢
    omega
  refine ⟨heap.size / m.pageSize, HeapRange.pages_eq some heap, ?_⟩
  constructor
  case behind =>
    rw [UInt64.toNat_add]
    exact Nat.mod_eq_of_lt (Nat.lt_of_succ_lt behind)
  case number =>
    intro i among
    rw [UInt64.toNat_add, UInt64.toNat_ofNat', Nat.add_mod_mod]
    exact Nat.mod_eq_of_lt (Nat.lt_of_le_of_lt (Nat.add_le_add_left among _) behind)
  case offset =>
    intro i among
    exact toNat_page_mul_of_le among (offsets_lt size heap)
  case address =>
    intro i among
    exact toNat_page_mul_of_le among (pages_reach_lt m heap)
  case inside =>
    intro order
    have reach := pages_reach m heap
    rwa [Nat.max_eq_right (UInt64.le_iff_toNat_le.1 order)] at reach
  case whole =>
    rw [UInt64.toNat_div]
    exact ⟨Nat.div_mul_le_self _ _, (Nat.div_lt_iff_lt_mul some).1 (Nat.lt_succ_self _)⟩
  case recorded =>
    intro now t pid iteration artifact counted t' classified
    obtain rfl := (classify_eq_ok some classified).1
    exact ⟨rfl, recorded_exactly some classified⟩

/-- Pages of eight bytes, in a heap that starts within one and ends at the last address. -/
theorem pages_stay_in_words_topmost :
    8 ≤ (⟨Sample.pagemap.processes, 8⟩ : Pagemap).pageSize.toNat ∧
      Exact ⟨Sample.pagemap.processes, 8⟩ ⟨13, 0xFFFFFFFFFFFFFFFF⟩ 1 0x1FFFFFFFFFFFFFFE := by
  obtain ⟨pages, counted, exact⟩ :=
    pages_stay_in_words ⟨Sample.pagemap.processes, 8⟩ ⟨13, 0xFFFFFFFFFFFFFFFF⟩ (by decide)
  cases counted
  exact ⟨by decide, exact⟩

/-- Of smaller pages there would be too many. -/
example : ((0xFFFFFFFFFFFFFFFF / 7 : UInt64) * 8).toNat ≠ 0xFFFFFFFFFFFFFFFF / 7 * 8 := by
  decide

end HeapSampler.Pagemap

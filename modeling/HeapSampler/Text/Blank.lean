/-!
# White space

The characters with the Unicode property `White_Space`, and texts without them at either end.
-/

namespace HeapSampler

/-- The character has the Unicode property `White_Space`. -/
def isBlank (c : Char) : Bool :=
  let n := c.toNat
  (0x09 ≤ n && n ≤ 0x0D) || n == 0x20 || n == 0x85 || n == 0xA0 || n == 0x1680 ||
    (0x2000 ≤ n && n ≤ 0x200A) || n == 0x2028 || n == 0x2029 || n == 0x202F || n == 0x205F ||
    n == 0x3000

/-- The text without the white space at its two ends. -/
def trimBlank (cs : List Char) : List Char :=
  ((cs.dropWhile isBlank).reverse.dropWhile isBlank).reverse

/-- White space at either end is all that is left out. -/
theorem exists_trimBlank (cs : List Char) : ∃ before after, cs = before ++ trimBlank cs ++ after ∧
    (∀ c ∈ before, isBlank c = true) ∧ ∀ c ∈ after, isBlank c = true := by
  let behind := ((cs.dropWhile isBlank).reverse.takeWhile isBlank).reverse
  refine ⟨cs.takeWhile isBlank, behind, ?_, ?_, ?_⟩
  · rw [trimBlank, List.append_assoc, ← List.reverse_append, List.takeWhile_append_dropWhile,
      List.reverse_reverse, List.takeWhile_append_dropWhile]
  · exact List.all_eq_true.1 List.all_takeWhile
  · intro c found
    exact List.all_eq_true.1 List.all_takeWhile c (List.mem_reverse.1 found)

/-- White space around a text that neither begins nor ends with it is left out. -/
theorem trimBlank_append {before after cs : List Char}
    (blankBefore : ∀ c ∈ before, isBlank c = true) (blankAfter : ∀ c ∈ after, isBlank c = true)
    (nonempty : cs ≠ []) (first : isBlank (cs.head nonempty) = false)
    (last : isBlank (cs.getLast nonempty) = false) : trimBlank (before ++ cs ++ after) = cs := by
  obtain ⟨c, rest, rfl⟩ := List.exists_cons_of_ne_nil nonempty
  have front : (before ++ (c :: rest) ++ after).dropWhile isBlank = (c :: rest) ++ after := by
    rw [List.append_assoc, List.dropWhile_append_of_pos blankBefore]
    exact List.dropWhile_cons_of_neg (by simpa using first)
  have back : ((c :: rest) ++ after).reverse.dropWhile isBlank = (c :: rest).reverse := by
    have blank : ∀ d ∈ after.reverse, isBlank d = true := fun d found =>
      blankAfter d (List.mem_reverse.1 found)
    rw [List.reverse_append, List.dropWhile_append_of_pos blank]
    obtain ⟨d, behind, reversed⟩ := List.exists_cons_of_ne_nil (List.reverse_ne_nil_iff.2 nonempty)
    have same : (c :: rest).getLast nonempty = d := by
      rw [← List.head_reverse (List.reverse_ne_nil_iff.2 nonempty)]
      simp only [reversed, List.head_cons]
    rw [same] at last
    rw [reversed]
    exact List.dropWhile_cons_of_neg (by simpa using last)
  rw [trimBlank, front, back, List.reverse_reverse]

end HeapSampler

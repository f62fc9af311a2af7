import HeapSampler.CommandLine
import HeapSampler.Proofs.Text.Decimal
import HeapSampler.Proofs.Text.Utf8

/-!
# Memory limits as they are given

A memory limit is a number of bytes, with at most one suffix behind it and white space around both (`Written`).
Such texts are accepted, with exactly the number of bytes that they name, and no others (`parseLimit_reads`). The
suffix is looked for in the bytes of the text, where the last byte may be the end of a longer character.
-/

namespace HeapSampler.CommandLine

open Decimal

/-! ## The grammar -/

/-- A suffix of a memory limit and the power of two that it stands for. -/
inductive Suffix : List Char → Nat → Prop where
  | none : Suffix [] 0
  | kilo {c : Char} (letter : c = 'k' ∨ c = 'K') : Suffix [c] 10
  | mega {c : Char} (letter : c = 'm' ∨ c = 'M') : Suffix [c] 20
  | giga {c : Char} (letter : c = 'g' ∨ c = 'G') : Suffix [c] 30

/-- The text is the number `n` with a suffix for `shift` behind it, and white space around them. -/
inductive Written (n shift : Nat) : List Char → Prop where
  | of {before number suffix after : List Char} (blankBefore : ∀ c ∈ before, isBlank c = true)
      (signed : Signed n number) (behind : Suffix suffix shift) (blankAfter : ∀ c ∈ after, isBlank c = true) :
      Written n shift (before ++ (number ++ suffix) ++ after)

/-- What becomes of a text that is given as a memory limit. -/
structure ReadAsLimit (text : String) : Prop where
  /-- Accepted is what is written as a positive number of bytes that fits, and it is that number. -/
  accepted (limit : UInt64) : parseLimit text = .ok limit ↔
    ∃ n shift, Written n shift text.toList ∧ 0 < n ∧ limit.toNat = n * Nat.pow 2 shift
  /-- Zero is refused as such, whatever its suffix. -/
  zero : (∃ shift, Written 0 shift text.toList) → parseLimit text = .error "Memory limit must be positive"
  /-- Whatever else is refused is shown as it was given. -/
  invalid (reason : Refusal) : parseLimit text = .error reason → (¬∃ shift, Written 0 shift text.toList) →
    reason = "`" ++ text ++ "` is not a valid memory limit"
  /-- Cutting off the suffix leaves whole characters. -/
  whole : ∃ number suffix shift, trimBlank text.toList = number ++ suffix ∧ Suffix suffix shift ∧
    splitLimit (Bytes.ofChars (trimBlank text.toList)) = (Bytes.ofChars number, Nat.pow 2 shift)

/-! ## The suffix -/

theorem suffixUnit?_of_suffix {c : Char} {shift : Nat} (letter : Suffix [c] shift) :
    suffixUnit? c = some (Nat.pow 2 shift) := by
  cases letter with
  | kilo letter => rcases letter with rfl | rfl <;> rfl
  | mega letter => rcases letter with rfl | rfl <;> rfl
  | giga letter => rcases letter with rfl | rfl <;> rfl

theorem suffix_of_suffixUnit? {c : Char} {unit : Nat} (known : suffixUnit? c = some unit) :
    ∃ shift, Suffix [c] shift ∧ unit = Nat.pow 2 shift := by
  unfold suffixUnit? at known
  split at known <;> cases known
  · exact ⟨10, .kilo (.inl rfl), rfl⟩
  · exact ⟨10, .kilo (.inr rfl), rfl⟩
  · exact ⟨20, .mega (.inl rfl), rfl⟩
  · exact ⟨20, .mega (.inr rfl), rfl⟩
  · exact ⟨30, .giga (.inl rfl), rfl⟩
  · exact ⟨30, .giga (.inr rfl), rfl⟩

/-- Suffixes are plain letters: one byte each, and no white space. -/
theorem Suffix.plain {suffix : List Char} {shift : Nat} (written : Suffix suffix shift) :
    ∀ c ∈ suffix, c.toNat < 128 ∧ isBlank c = false := by
  intro c found
  cases written with
  | none => cases found
  | kilo letter =>
    obtain rfl := List.mem_singleton.1 found
    rcases letter with rfl | rfl <;> decide
  | mega letter =>
    obtain rfl := List.mem_singleton.1 found
    rcases letter with rfl | rfl <;> decide
  | giga letter =>
    obtain rfl := List.mem_singleton.1 found
    rcases letter with rfl | rfl <;> decide

theorem splitLimit_letter {c : Char} {shift : Nat} (letter : Suffix [c] shift) (front : List Char) :
    splitLimit (Bytes.ofChars (front ++ [c])) = (Bytes.ofChars front, Nat.pow 2 shift) := by
  obtain ⟨b, -, encoded, char⟩ := Bytes.encode_ascii (letter.plain c List.mem_cons_self).1
  have bytes : Bytes.ofChars (front ++ [c]) = Bytes.ofChars front ++ [b] := by
    rw [Bytes.ofChars, List.flatMap_append, List.flatMap_singleton, encoded, ← Bytes.ofChars]
  rw [splitLimit, bytes, List.getLast?_concat, Option.bind_some, char, suffixUnit?_of_suffix letter]
  rw [List.dropLast_concat]

/-- The last byte of a text is a suffix only if the last character is. -/
theorem splitLimit_other {c : Char} (other : suffixUnit? c = none) (front : List Char) :
    splitLimit (Bytes.ofChars (front ++ [c])) = (Bytes.ofChars (front ++ [c]), 1) := by
  have bytes : Bytes.ofChars (front ++ [c]) = Bytes.ofChars front ++ String.utf8EncodeChar c := by
    rw [Bytes.ofChars, List.flatMap_append, List.flatMap_singleton, ← Bytes.ofChars]
  have unknown : ((Bytes.ofChars (front ++ [c])).getLast?.bind fun b => suffixUnit? (Char.ofUInt8 b)) = none := by
    refine Option.bind_eq_none_iff.2 fun b last => Option.eq_none_iff_forall_ne_some.2 fun unit known => ?_
    obtain ⟨shift, letter, -⟩ := suffix_of_suffixUnit? known
    have ascii : b.toNat < 128 := by
      rw [← Bytes.toNat_ofUInt8]
      exact (letter.plain _ List.mem_cons_self).1
    have nonempty : String.utf8EncodeChar c ≠ [] := by
      intro empty
      have length := Bytes.encode_length c
      rw [empty] at length
      exact absurd length (Nat.ne_of_lt c.utf8Size_pos)
    have inside : b ∈ String.utf8EncodeChar c := by
      rw [bytes, List.getLast?_append, List.getLast?_eq_some_getLast nonempty, Option.some_or] at last
      exact Option.some.inj last ▸ List.getLast_mem nonempty
    rw [(Bytes.encode_of_mem ascii inside).2, other] at known
    cases known
  rw [splitLimit, unknown]

/-- Whatever the text, what is cut off is a suffix and nothing else. -/
theorem exists_splitLimit (cs : List Char) : ∃ number suffix shift, cs = number ++ suffix ∧ Suffix suffix shift ∧
    splitLimit (Bytes.ofChars cs) = (Bytes.ofChars number, Nat.pow 2 shift) := by
  obtain rfl | ⟨front, c, rfl⟩ := List.eq_nil_or_concat cs
  · exact ⟨[], [], 0, rfl, .none, rfl⟩
  rw [List.concat_eq_append]
  cases known : suffixUnit? c with
  | none => exact ⟨front ++ [c], [], 0, (List.append_nil _).symm, .none, splitLimit_other known front⟩
  | some unit =>
    obtain ⟨shift, letter, -⟩ := suffix_of_suffixUnit? known
    exact ⟨front, [c], shift, rfl, letter, splitLimit_letter letter front⟩

/-- The suffix of a number is found: the number ends with a digit, which is no suffix. -/
theorem splitLimit_signed {n shift : Nat} {number suffix : List Char} (signed : Signed n number)
    (written : Suffix suffix shift) :
    splitLimit (Bytes.ofChars (number ++ suffix)) = (Bytes.ofChars number, Nat.pow 2 shift) := by
  have letters {c : Char} {shift : Nat} (letter : Suffix [c] shift) := splitLimit_letter letter number
  cases written with
  | none =>
    obtain ⟨front, d, small, rfl⟩ := signed.last
    have other : ∀ d < 10, suffixUnit? (Nat.digitChar d) = none := by decide
    rw [List.append_nil]
    exact splitLimit_other (other d small) front
  | kilo letter => exact letters (.kilo letter)
  | mega letter => exact letters (.mega letter)
  | giga letter => exact letters (.giga letter)

/-! ## The number -/

/-- The white space around a limit is all that is trimmed. -/
theorem trimBlank_written {n shift : Nat} {before number suffix after : List Char}
    (blankBefore : ∀ c ∈ before, isBlank c = true) (signed : Signed n number) (written : Suffix suffix shift)
    (blankAfter : ∀ c ∈ after, isBlank c = true) :
    trimBlank (before ++ (number ++ suffix) ++ after) = number ++ suffix := by
  have solid : ∀ c ∈ number ++ suffix, isBlank c = false := by
    intro c found
    rcases List.mem_append.1 found with found | found
    · rcases signed.plus_or_digit found with rfl | ⟨d, small, rfl⟩
      · decide
      · have digits : ∀ d < 10, isBlank (Nat.digitChar d) = false := by decide
        exact digits d small
    · exact (written.plain c found).2
  have nonempty : number ++ suffix ≠ [] := List.append_ne_nil_of_left_ne_nil signed.ne_nil suffix
  exact trimBlank_append blankBefore blankAfter nonempty (solid _ (List.head_mem _)) (solid _ (List.getLast_mem _))

theorem parseLimit_eq {text : String} {number : List Char} {unit : Nat}
    (split : splitLimit (Bytes.ofChars (trimBlank text.toList)) = (Bytes.ofChars number, unit)) :
    parseLimit text = match parseWord64? number with
      | none => .error ("`" ++ text ++ "` is not a valid memory limit")
      | some 0 => .error "Memory limit must be positive"
      | some n =>
        if n * unit < UInt64.size then .ok (UInt64.ofNat (n * unit))
        else .error ("`" ++ text ++ "` is not a valid memory limit") := by
  have digits : ((Bytes.ofChars number).chars? >>= parseWord64?) = parseWord64? number := by
    rw [Bytes.chars?_ofChars]
    rfl
  unfold parseLimit
  rw [split]
  cases read : parseWord64? number with
  | none => simp only [digits, read]
  | some n => cases n <;> simp only [digits, read]

/-- What is written as a limit is accepted unless it is zero or does not fit. -/
theorem parseLimit_of_written {text : String} {n shift : Nat} (written : Written n shift text.toList) :
    parseLimit text =
      if n = 0 then .error "Memory limit must be positive"
      else if n * Nat.pow 2 shift < UInt64.size then .ok (UInt64.ofNat (n * Nat.pow 2 shift))
      else .error ("`" ++ text ++ "` is not a valid memory limit") := by
  generalize chars : text.toList = cs at written
  cases written with
  | of blankBefore signed behind blankAfter =>
    have trimmed := trimBlank_written blankBefore signed behind blankAfter
    have split := splitLimit_signed signed behind
    rw [← trimmed, ← chars] at split
    rw [parseLimit_eq split]
    rw [parseWord64?_of_signed signed]
    by_cases fits : n < UInt64.size
    · rw [if_pos fits]
      cases n with
      | zero => rfl
      | succ n => rfl
    · -- a number that is too large by itself is too large with its suffix
      have positive : n ≠ 0 := by
        rintro rfl
        exact fits (by decide)
      have large : ¬n * Nat.pow 2 shift < UInt64.size := by
        have grows : n * 1 ≤ n * Nat.pow 2 shift := Nat.mul_le_mul_left n (Nat.pow_pos (by decide))
        omega
      rw [if_neg fits, if_neg positive, if_neg large]

/-- Whatever is not written as a limit is refused. -/
theorem written_or_invalid (text : String) : (∃ n shift, Written n shift text.toList) ∨
    parseLimit text = .error ("`" ++ text ++ "` is not a valid memory limit") := by
  obtain ⟨number, suffix, shift, chars, behind, split⟩ := exists_splitLimit (trimBlank text.toList)
  obtain ⟨before, after, whole, blankBefore, blankAfter⟩ := exists_trimBlank text.toList
  cases read : parseWord64? number with
  | none =>
    right
    rw [parseLimit_eq split, read]
  | some n =>
    left
    refine ⟨n, shift, ?_⟩
    rw [whole, chars]
    exact .of blankBefore (signed_of_parseWord64? read) behind blankAfter

/-! ## All texts -/

theorem parseLimit_eq_ok {text : String} {limit : UInt64} : parseLimit text = .ok limit ↔
    ∃ n shift, Written n shift text.toList ∧ 0 < n ∧ limit.toNat = n * Nat.pow 2 shift := by
  constructor
  · intro ok
    obtain ⟨n, shift, written⟩ | invalid := written_or_invalid text
    · refine ⟨n, shift, written, ?_⟩
      rw [parseLimit_of_written written] at ok
      split at ok
      · cases ok
      next positive =>
      split at ok
      next fits =>
        cases ok
        exact ⟨Nat.pos_of_ne_zero positive, UInt64.toNat_ofNat_of_lt' fits⟩
      · cases ok
    · rw [invalid] at ok
      cases ok
  · rintro ⟨n, shift, written, positive, value⟩
    have fits : n * Nat.pow 2 shift < UInt64.size := value ▸ limit.toNat_lt
    rw [parseLimit_of_written written, if_neg (Nat.ne_of_gt positive), if_pos fits, ← value, UInt64.ofNat_toNat]

/-- Only zero is refused for another reason. -/
theorem refused_invalid {text : String} {reason : Refusal} (refused : parseLimit text = .error reason)
    (nonzero : ¬∃ shift, Written 0 shift text.toList) : reason = "`" ++ text ++ "` is not a valid memory limit" := by
  obtain ⟨n, shift, written⟩ | invalid := written_or_invalid text
  · have positive : n ≠ 0 := by
      rintro rfl
      exact nonzero ⟨shift, written⟩
    rw [parseLimit_of_written written, if_neg positive] at refused
    split at refused
    · cases refused
    · exact (Except.error.inj refused).symm
  · rw [invalid] at refused
    exact (Except.error.inj refused).symm

/-- **A text is accepted as a memory limit if and only if it is written as one that fits.** -/
theorem parseLimit_reads (text : String) : ReadAsLimit text := by
  constructor
  case accepted => exact fun limit => parseLimit_eq_ok
  case zero =>
    rintro ⟨shift, written⟩
    rw [parseLimit_of_written written, if_pos rfl]
  case invalid => exact fun reason => refused_invalid
  case whole => exact exists_splitLimit (trimBlank text.toList)

end HeapSampler.CommandLine

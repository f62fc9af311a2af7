import HeapSampler.Host.Path

/-!
# UTF-8 and back

The pieces of a text's UTF-8 form are the text's characters, and a byte string whose pieces are all characters
is the UTF-8 form of their text. So texts and the byte strings that are UTF-8 stand for each other.
-/

namespace HeapSampler

namespace Bytes

theorem encode_length (c : Char) : (String.utf8EncodeChar c).length = c.utf8Size :=
  String.length_utf8EncodeChar c

theorem firstChar?_encode (c : Char) (rest : Bytes) : firstChar? (String.utf8EncodeChar c ++ rest) = some c := by
  have short : (String.utf8EncodeChar c).length ≤ 4 := encode_length c ▸ c.utf8Size_le_four
  rw [firstChar?, List.take_append, List.take_of_length_le short, List.toByteArray_append]
  exact ByteArray.utf8DecodeChar?_utf8EncodeChar_append

/-- A byte string that begins with a character begins with its UTF-8 form. -/
theorem eq_of_firstChar? {bs : Bytes} {c : Char} (first : firstChar? bs = some c) :
    bs = String.utf8EncodeChar c ++ bs.drop c.utf8Size := by
  obtain ⟨more, split⟩ := ByteArray.exists_of_utf8DecodeChar?_eq_some first
  have front : bs.take 4 = String.utf8EncodeChar c ++ more.data.toList := by
    have lists := congrArg (fun b : ByteArray => b.data.toList) split
    simpa using lists
  have all : bs = String.utf8EncodeChar c ++ (more.data.toList ++ bs.drop 4) := by
    rw [← List.append_assoc, ← front, List.take_append_drop]
  have rest : bs.drop c.utf8Size = more.data.toList ++ bs.drop 4 := by
    conv => lhs; rw [all, ← encode_length c]
    exact List.drop_left
  rw [rest]
  exact all

theorem pieces_encode (c : Char) (rest : Bytes) :
    pieces (String.utf8EncodeChar c ++ rest) = .char c :: pieces rest := by
  cases encoded : String.utf8EncodeChar c with
  | nil =>
    have := c.utf8Size_pos
    have := encode_length c
    simp [encoded] at this
    omega
  | cons lead more =>
    have first := firstChar?_encode c rest
    have length := encode_length c
    rw [encoded] at first length
    rw [List.cons_append] at first ⊢
    rw [pieces, firstPiece, first]
    have behind : (more ++ rest).drop (c.utf8Size - 1) = rest := by
      rw [← length, List.length_cons, Nat.add_sub_cancel]
      exact List.drop_left
    simp only [behind]

theorem chars?_ofChars (cs : List Char) : (ofChars cs).chars? = some cs := by
  induction cs with
  | nil => simp [ofChars, chars?, pieces]
  | cons c cs ih =>
    rw [chars?] at ih ⊢
    rw [ofChars, List.flatMap_cons, pieces_encode, List.mapM_cons]
    change (do let rest ← (ofChars cs).pieces.mapM _; some (c :: rest)) = some (c :: cs)
    rw [ih]
    rfl

/-- A text is read back from its UTF-8 form. -/
theorem text?_ofString (s : String) : (ofString s).text? = some s := by
  rw [text?, ofString, chars?_ofChars, Option.map_some, String.ofList_toList]

/-- A first piece that is a character is the character whose form comes first. -/
theorem firstChar?_of_piece {lead : UInt8} {rest : Bytes} {c : Char} {n : Nat}
    (taken : firstPiece lead rest = (.char c, n)) : firstChar? (lead :: rest) = some c ∧ n + 1 = c.utf8Size := by
  unfold firstPiece at taken
  cases first : firstChar? (lead :: rest) with
  | none =>
    rw [first] at taken
    cases taken
  | some d =>
    rw [first] at taken
    cases taken
    exact ⟨rfl, Nat.sub_add_cancel c.utf8Size_pos⟩

theorem ofChars_of_chars? {bs : Bytes} {cs : List Char} (read : bs.chars? = some cs) : ofChars cs = bs := by
  induction bs using pieces.induct generalizing cs with
  | case1 =>
    simp [chars?, pieces] at read
    subst read
    rfl
  | case2 lead rest piece n taken ih =>
    rw [chars?, pieces, taken, List.mapM_cons] at read
    cases piece with
    | illFormed bytes => cases read
    | char c =>
      obtain ⟨cs', behind, same⟩ : ∃ cs', chars? (rest.drop n) = some cs' ∧ c :: cs' = cs := by
        simpa [chars?, Option.bind_eq_some_iff] using read
      subst same
      obtain ⟨first, size⟩ := firstChar?_of_piece taken
      have whole := eq_of_firstChar? first
      rw [← size, List.drop_succ_cons] at whole
      rw [ofChars, List.flatMap_cons, ← ofChars, ih behind]
      exact whole.symm

/-- A byte string that is UTF-8 is the UTF-8 form of its text. -/
theorem ofString_of_text? {bs : Bytes} {s : String} (read : bs.text? = some s) : ofString s = bs := by
  obtain ⟨cs, chars, rfl⟩ := Option.map_eq_some_iff.1 read
  rw [ofString, String.toList_ofList]
  exact ofChars_of_chars? chars

theorem ofString_injective : Function.Injective ofString := by
  intro s s' same
  have text := text?_ofString s
  rw [same, text?_ofString s'] at text
  exact (Option.some.inj text).symm

/-- A byte below 128 stands for a character by itself. -/
theorem val_of_mem_encode {c : Char} {b : UInt8} (ascii : b.toNat < 128) (found : b ∈ String.utf8EncodeChar c) :
    c.val.toNat = b.toNat := by
  -- every byte of a longer form has its highest bit set
  have longer (ns : List Nat) (high : ∀ n ∈ ns, 128 ≤ n ∧ n < 256) : b ∉ ns.map UInt8.ofNat := by
    intro found
    obtain ⟨n, listed, rfl⟩ := List.mem_map.1 found
    obtain ⟨above, below⟩ := high n listed
    rw [UInt8.toNat_ofNat_of_lt' below] at ascii
    omega
  simp only [String.utf8EncodeChar] at found
  by_cases one : c.val.toNat ≤ 127
  · rw [if_pos one] at found
    rw [List.mem_singleton.1 found, UInt8.toNat_ofNat_of_lt']
    exact Nat.lt_of_le_of_lt one (by decide)
  rw [if_neg one] at found
  by_cases two : c.val.toNat ≤ 2047
  · rw [if_pos two] at found
    exact absurd found (longer [_, _] (by simp; omega))
  rw [if_neg two] at found
  by_cases three : c.val.toNat ≤ 65535
  · rw [if_pos three] at found
    exact absurd found (longer [_, _, _] (by simp; omega))
  · rw [if_neg three] at found
    exact absurd found (longer [_, _, _, _] (by simp; omega))

theorem toNat_ofUInt8 (b : UInt8) : (Char.ofUInt8 b).toNat = b.toNat := by
  show b.toUInt32.toNat = b.toNat
  exact UInt8.toNat_toUInt32 b

/-- A byte below 128 is the whole form of a character that it occurs in. -/
theorem encode_of_mem {c : Char} {b : UInt8} (ascii : b.toNat < 128) (found : b ∈ String.utf8EncodeChar c) :
    String.utf8EncodeChar c = [b] ∧ Char.ofUInt8 b = c := by
  have same : c.val.toNat = b.toNat := val_of_mem_encode ascii found
  constructor
  · have one : c.val.toNat ≤ 127 := by omega
    rw [String.utf8EncodeChar, if_pos one] at found ⊢
    rw [List.mem_singleton.1 found]
  · refine Char.toNat_inj.1 ?_
    rw [toNat_ofUInt8, ← same, Char.toNat]

/-- A character of the first 128 is one byte, which stands for it. -/
theorem encode_ascii {c : Char} (ascii : c.toNat < 128) :
    ∃ b, b.toNat < 128 ∧ String.utf8EncodeChar c = [b] ∧ Char.ofUInt8 b = c := by
  have one : c.val.toNat ≤ 127 := Nat.le_of_lt_succ ascii
  have encoded : String.utf8EncodeChar c = [UInt8.ofNat c.val.toNat] := by rw [String.utf8EncodeChar, if_pos one]
  have byte : (UInt8.ofNat c.val.toNat).toNat < 128 := by
    rw [UInt8.toNat_ofNat_of_lt' (Nat.lt_of_le_of_lt one (by decide))]
    exact ascii
  exact ⟨_, byte, encode_of_mem byte (encoded ▸ List.mem_singleton_self _)⟩

/-- There is a slash in the form of a text only if there is one in the text. -/
theorem slash_not_mem_ofString {s : String} (plain : '/' ∉ s.toList) : Path.slash ∉ ofString s := by
  intro found
  obtain ⟨c, listed, inside⟩ := List.mem_flatMap.1 found
  have same : c = '/' := Char.ext (UInt32.toNat_inj.1 (val_of_mem_encode (by decide) inside))
  exact plain (same ▸ listed)

end Bytes

theorem Path.ofString_of_text? {p : Path} {s : String} (read : p.text? = some s) : Path.ofString s = p :=
  congrArg Path.mk (Bytes.ofString_of_text? read)

end HeapSampler

import HeapSampler.Toml.Scalar

/-!
# Numbers and back

The digits of a number denote it, in decimal as in a document, where a run of digits is nothing else than a
whole number. What is read as a number are runs of digits (`Numeral`) and nothing else.
-/

namespace HeapSampler

namespace Decimal

/-- A digit has the same value in every base that it is a digit of. -/
theorem digitValue?_digitChar {b d : Nat} (known : b ≤ 16) (small : d < b) :
    digitValue? b (Nat.digitChar d) = some d := by
  have sixteen : ∀ d < 16, digitValue? 16 (Nat.digitChar d) = some d := by decide
  have value := (Option.filter_eq_some_iff.1 (sixteen d (by omega))).1
  exact Option.filter_eq_some_iff.2 ⟨value, decide_eq_true small⟩

/-- Digits in a base are read one by one. -/
theorem foldlM_toDigits {b : Nat} (base : 1 < b) (known : b ≤ 16) (n : Nat) :
    (Nat.toDigits b n).foldlM (fun m c => (digitValue? b c).map (m * b + ·)) 0 = some n := by
  induction n using Nat.strongRecOn with
  | ind n ih =>
    by_cases small : n < b
    · rw [Nat.toDigits_of_lt_base small]
      simp [digitValue?_digitChar known small]
    · have last := digitValue?_digitChar known (Nat.mod_lt n (Nat.zero_lt_of_lt base))
      rw [Nat.toDigits_of_base_le base (Nat.le_of_not_lt small), List.foldlM_append,
        ih (n / b) (Nat.div_lt_self (by omega) base)]
      simp only [Option.bind_eq_bind, Option.bind_some, List.foldlM_cons, List.foldlM_nil, last, Option.map_some]
      exact congrArg some (Nat.div_add_mod' n b)

/-- The digits of a number in a base denote it. -/
theorem ofDigits?_toDigits {b : Nat} (base : 1 < b) (known : b ≤ 16) (n : Nat) :
    ofDigits? b (Nat.toDigits b n) = some n := by
  have written : (Nat.toDigits b n).isEmpty = false := by simp
  rw [ofDigits?, written]
  exact foldlM_toDigits base known n

theorem digits_of_lt {n : Nat} (small : n < 10) : digits n = [Nat.digitChar n] :=
  Nat.toDigits_of_lt_base small

theorem digits_of_le {n : Nat} (large : 10 ≤ n) : digits n = digits (n / 10) ++ [Nat.digitChar (n % 10)] :=
  Nat.toDigits_of_base_le (by decide) large

theorem digits_ne_nil (n : Nat) : digits n ≠ [] :=
  Nat.toDigits_ne_nil

/-- Every digit of a number in a base is the digit of a number below the base. -/
theorem digit_of_mem_toDigits {b : Nat} (base : 1 < b) {n : Nat} {c : Char} (found : c ∈ Nat.toDigits b n) :
    ∃ d < b, c = Nat.digitChar d := by
  induction n using Nat.strongRecOn with
  | ind n ih =>
    by_cases small : n < b
    · rw [Nat.toDigits_of_lt_base small] at found
      exact ⟨n, small, List.mem_singleton.1 found⟩
    · have large : b ≤ n := Nat.le_of_not_lt small
      rw [Nat.toDigits_of_base_le base large] at found
      rcases List.mem_append.1 found with found | found
      · exact ih (n / b) (Nat.div_lt_self (by omega) base) found
      · exact ⟨n % b, Nat.mod_lt n (by omega), List.mem_singleton.1 found⟩

/-- A character that is no digit is in no number. -/
theorem not_mem_toDigits {b : Nat} {c : Char} (other : ∀ d < 16, c ≠ Nat.digitChar d) (base : 1 < b) (known : b ≤ 16)
    (n : Nat) : c ∉ Nat.toDigits b n := by
  intro found
  obtain ⟨d, small, same⟩ := digit_of_mem_toDigits base found
  exact other d (by omega) same

theorem digit_of_mem {n : Nat} {c : Char} (found : c ∈ digits n) : ∃ d < 10, c = Nat.digitChar d :=
  digit_of_mem_toDigits (by decide) found

/-- What holds of every digit holds of every digit of a number. -/
theorem forall_digit {P : Char → Prop} (all : ∀ d < 10, P (Nat.digitChar d)) {n : Nat} : ∀ c ∈ digits n, P c := by
  intro c found
  obtain ⟨d, small, rfl⟩ := digit_of_mem found
  exact all d small

/-- The digits of a number denote it. -/
theorem ofDigits?_digits (n : Nat) : ofDigits? 10 (digits n) = some n :=
  ofDigits?_toDigits (by decide) (by decide) n

theorem ofDigits?_hexDigits (n : Nat) : ofDigits? 16 (hexDigits n) = some n :=
  ofDigits?_toDigits (by decide) (by decide) n

/-- Different numbers have different digits. -/
theorem digits_injective : Function.Injective digits := by
  intro m n same
  have value := ofDigits?_digits m
  rw [same, ofDigits?_digits] at value
  exact (Option.some.inj value).symm

/-- A number is not written with a zero in front. -/
theorem digits_head {n : Nat} {more : List Char} (split : digits n = '0' :: more) : more = [] := by
  induction n using Nat.strongRecOn generalizing more with
  | ind n ih =>
    by_cases small : n < 10
    · rw [digits_of_lt small] at split
      exact (List.cons.inj split).2.symm
    · rw [digits_of_le (Nat.le_of_not_lt small)] at split
      cases front : digits (n / 10) with
      | nil => exact absurd front (digits_ne_nil _)
      | cons c cs =>
        rw [front] at split
        cases split
        obtain rfl := ih (n / 10) (by omega) front
        -- the number before the last digit would be zero, but it is not
        have value := ofDigits?_digits (n / 10)
        rw [front] at value
        have zero : n / 10 = 0 := (Option.some.inj value).symm
        omega

/-! ### Zeros in front -/

theorem foldlM_zeros (k : Nat) :
    (List.replicate k '0').foldlM (fun m c => (digitValue? 10 c).map (m * 10 + ·)) 0 = some 0 := by
  induction k with
  | zero => rfl
  | succ k ih =>
    rw [List.replicate_succ, List.foldlM_cons]
    exact ih

/-- A number is what its digits denote, whatever zeros stand in front of them. -/
theorem ofDigits?_padZero (width n : Nat) : ofDigits? 10 (padZero width (digits n)) = some n := by
  have written : (padZero width (digits n)).isEmpty = false := by simp [padZero, digits_ne_nil]
  rw [ofDigits?, written, padZero, if_neg Bool.false_ne_true, List.foldlM_append, foldlM_zeros]
  exact foldlM_toDigits (by decide) (by decide) n

theorem digit_of_mem_padZero {width n : Nat} {c : Char} (found : c ∈ padZero width (digits n)) :
    ∃ d < 10, c = Nat.digitChar d := by
  rcases List.mem_append.1 found with zero | digit
  · exact ⟨0, by decide, List.eq_of_mem_replicate zero⟩
  · exact digit_of_mem digit

/-- Different numbers are written differently, also where they are longer than the width. -/
theorem padZero_injective (width : Nat) : Function.Injective fun n => padZero width (digits n) := by
  intro m n same
  have value := ofDigits?_padZero width m
  rw [show padZero width (digits m) = padZero width (digits n) from same, ofDigits?_padZero] at value
  exact (Option.some.inj value).symm

/-! ### Digits as they are read -/

/-- A nonempty run of decimal digits and the number that it denotes, whatever zeros stand in front. -/
inductive Numeral : List Char → Nat → Prop where
  | digit (d : Nat) (small : d < 10) : Numeral [Nat.digitChar d] d
  | snoc {cs : List Char} {n : Nat} (front : Numeral cs n) (d : Nat) (small : d < 10) :
      Numeral (cs ++ [Nat.digitChar d]) (n * 10 + d)

/-- A number as it may be given: digits, with a plus sign in front or without. -/
inductive Signed (n : Nat) : List Char → Prop where
  | bare {cs : List Char} (digits : Numeral cs n) : Signed n cs
  | plus {cs : List Char} (digits : Numeral cs n) : Signed n ('+' :: cs)

theorem digitValue?_eq_some_iff {c : Char} {d : Nat} : digitValue? 10 c = some d ↔ d < 10 ∧ c = Nat.digitChar d := by
  constructor
  · intro value
    obtain ⟨value, small⟩ := Option.filter_eq_some_iff.1 value
    have small : d < 10 := of_decide_eq_true small
    refine ⟨small, ?_⟩
    split at value
    · next digit =>
      -- only the digits from 0 to 9 have a value below ten
      have low : 48 ≤ c.toNat := digit.1
      have code : c.toNat - 48 = d := Option.some.inj value
      refine Char.toNat_inj.1 ?_
      rw [Nat.toNat_digitChar_of_lt_ten small]
      omega
    · split at value
      · have code : c.toNat - 97 + 10 = d := Option.some.inj value
        omega
      · split at value
        · have code : c.toNat - 65 + 10 = d := Option.some.inj value
          omega
        · cases value
  · rintro ⟨small, rfl⟩
    exact digitValue?_digitChar (by decide) small

theorem ofDigits?_snoc {cs : List Char} (nonempty : cs ≠ []) (c : Char) : ofDigits? 10 (cs ++ [c]) =
    (ofDigits? 10 cs).bind fun n => (digitValue? 10 c).map (n * 10 + ·) := by
  have front : cs.isEmpty = false := by simpa using nonempty
  have whole : (cs ++ [c]).isEmpty = false := by simp
  rw [ofDigits?, ofDigits?, front, whole, if_neg Bool.false_ne_true, if_neg Bool.false_ne_true, List.foldlM_append]
  simp only [List.foldlM_cons, List.foldlM_nil, Option.bind_eq_bind, Option.pure_def, Option.bind_fun_some]

theorem ofDigits?_single (c : Char) : ofDigits? 10 [c] = digitValue? 10 c := by
  simp [ofDigits?]

theorem Numeral.ne_nil {cs : List Char} {n : Nat} (numeral : Numeral cs n) : cs ≠ [] := by
  cases numeral <;> simp

/-- The number that a run of digits denotes is the one that is read. -/
theorem ofDigits?_eq_some_iff {cs : List Char} {n : Nat} : ofDigits? 10 cs = some n ↔ Numeral cs n := by
  constructor
  · intro read
    induction length : cs.length generalizing cs n with
    | zero =>
      rw [List.eq_nil_of_length_eq_zero length] at read
      cases read
    | succ k ih =>
      obtain rfl | ⟨front, c, rfl⟩ := List.eq_nil_or_concat cs
      · cases length
      rw [List.concat_eq_append] at read length ⊢
      by_cases single : front = []
      · subst single
        rw [List.nil_append, ofDigits?_single] at read
        obtain ⟨small, rfl⟩ := digitValue?_eq_some_iff.1 read
        exact .digit n small
      · rw [ofDigits?_snoc single] at read
        obtain ⟨m, before, value⟩ := Option.bind_eq_some_iff.1 read
        obtain ⟨d, last, rfl⟩ := Option.map_eq_some_iff.1 value
        obtain ⟨small, rfl⟩ := digitValue?_eq_some_iff.1 last
        exact .snoc (ih before (by simpa using length)) d small
  · intro numeral
    induction numeral with
    | digit d small => rw [ofDigits?_single, digitValue?_digitChar (by decide) small]
    | snoc front d small ih =>
      rw [ofDigits?_snoc front.ne_nil, ih, digitValue?_digitChar (by decide) small]
      rfl

theorem Numeral.digit_of_mem {cs : List Char} {n : Nat} (numeral : Numeral cs n) {c : Char} (found : c ∈ cs) :
    ∃ d < 10, c = Nat.digitChar d := by
  induction numeral with
  | digit d small => exact ⟨d, small, List.mem_singleton.1 found⟩
  | snoc front d small ih =>
    rcases List.mem_append.1 found with found | found
    · exact ih found
    · exact ⟨d, small, List.mem_singleton.1 found⟩

theorem Numeral.last {cs : List Char} {n : Nat} (numeral : Numeral cs n) :
    ∃ front d, d < 10 ∧ cs = front ++ [Nat.digitChar d] := by
  cases numeral with
  | digit _ small => exact ⟨[], n, small, rfl⟩
  | snoc _ d small => exact ⟨_, d, small, rfl⟩

theorem Signed.ne_nil {cs : List Char} {n : Nat} (signed : Signed n cs) : cs ≠ [] := by
  cases signed with
  | bare digits => exact digits.ne_nil
  | plus digits => exact List.cons_ne_nil _ _

theorem Signed.plus_or_digit {cs : List Char} {n : Nat} (signed : Signed n cs) {c : Char} (found : c ∈ cs) :
    c = '+' ∨ ∃ d < 10, c = Nat.digitChar d := by
  cases signed with
  | bare digits => exact .inr (digits.digit_of_mem found)
  | plus digits => exact (List.mem_cons.1 found).imp_right digits.digit_of_mem

theorem Signed.last {cs : List Char} {n : Nat} (signed : Signed n cs) :
    ∃ front d, d < 10 ∧ cs = front ++ [Nat.digitChar d] := by
  cases signed with
  | bare digits => exact digits.last
  | plus digits =>
    obtain ⟨front, d, small, rfl⟩ := digits.last
    exact ⟨'+' :: front, d, small, rfl⟩

/-- What is read as an unsigned 64-bit number is digits, with a plus sign or without. -/
theorem signed_of_parseWord64? {cs : List Char} {n : Nat} (read : parseWord64? cs = some n) : Signed n cs := by
  unfold parseWord64? at read
  have digits := ofDigits?_eq_some_iff.1 (Option.filter_eq_some_iff.1 read).1
  split at digits
  · exact .plus digits
  · exact .bare digits

/-- A number that fits is read, and one that does not fit is not. -/
theorem parseWord64?_of_signed {cs : List Char} {n : Nat} (signed : Signed n cs) :
    parseWord64? cs = if n < UInt64.size then some n else none := by
  unfold parseWord64?
  cases signed with
  | @plus cs digits =>
    show (ofDigits? 10 cs).filter _ = _
    rw [ofDigits?_eq_some_iff.2 digits, Option.filter_some]
    simp only [decide_eq_true_eq]
  | bare digits =>
    split
    · next rest =>
      obtain ⟨d, small, same⟩ := digits.digit_of_mem List.mem_cons_self
      have plain : ∀ d < 10, '+' ≠ Nat.digitChar d := by decide
      exact absurd same (plain d small)
    · show (ofDigits? 10 cs).filter _ = _
      rw [ofDigits?_eq_some_iff.2 digits, Option.filter_some]
      simp only [decide_eq_true_eq]

end Decimal

namespace Toml.Scalar

open Decimal

theorem digitRun?_go {cs : List Char} (digit : ∀ c ∈ cs, ∃ d < 10, c = Nat.digitChar d) (after : Bool)
    (nonempty : after = true ∨ cs ≠ []) : digitRun?.go 10 after cs = some cs := by
  induction cs generalizing after with
  | nil =>
    obtain rfl : after = true := by simpa using nonempty
    rfl
  | cons c cs ih =>
    obtain ⟨d, small, rfl⟩ := digit c List.mem_cons_self
    have plain : ∀ d < 10, Nat.digitChar d ≠ '_' ∧ (digitValue? 10 (Nat.digitChar d)).isSome = true := by decide
    rw [digitRun?.go, if_neg (plain d small).1, if_pos (plain d small).2]
    rw [ih (fun c found => digit c (List.mem_cons_of_mem _ found)) true (.inl rfl)]
    rfl

theorem digitRun?_digits (n : Nat) : digitRun? 10 (digits n) = some (digits n) :=
  digitRun?_go (fun _ => digit_of_mem) false (.inr (digits_ne_nil n))

theorem fixed?_rest {n v : Nat} {cs rest : List Char} (read : fixed? n cs = some (v, rest)) : rest = cs.drop n := by
  unfold fixed? at read
  by_cases long : (cs.take n).length = n
  · simp only [if_pos long, Option.bind_eq_bind, Option.bind_eq_some_iff] at read
    obtain ⟨_, -, read⟩ := read
    cases read
    rfl
  · simp only [if_neg long] at read
    cases read

/-- A number is neither a date nor a time. -/
theorem isDateTime_digits (n : Nat) : isDateTime (digits n) = false := by
  have plain : ∀ c ∈ digits n, c ≠ '-' ∧ c ≠ ':' := forall_digit (by decide)
  have date : date? (digits n) = none := by
    unfold date?
    cases read : fixed? 4 (digits n) with
    | none => rfl
    | some p =>
      obtain ⟨v, rest⟩ := p
      obtain rfl := fixed?_rest read
      simp only [Option.bind_eq_bind, Option.bind_some]
      split
      · next rest behind =>
        have found : '-' ∈ digits n := List.mem_of_mem_drop (behind ▸ List.mem_cons_self)
        exact absurd rfl (plain '-' found).1
      · rfl
  have time : time? (digits n) = none := by
    unfold time?
    cases read : fixed? 2 (digits n) with
    | none => rfl
    | some p =>
      obtain ⟨v, rest⟩ := p
      obtain rfl := fixed?_rest read
      simp only [Option.bind_eq_bind, Option.bind_some]
      split
      · next rest behind =>
        have found : ':' ∈ digits n := List.mem_of_mem_drop (behind ▸ List.mem_cons_self)
        exact absurd rfl (plain ':' found).2
      · rfl
  rw [isDateTime, date]
  simp only [time]
  rfl

theorem sign_digits (n : Nat) : sign (digits n) = (false, digits n) := by
  have plain : ∀ c ∈ digits n, c ≠ '-' ∧ c ≠ '+' := forall_digit (by decide)
  unfold sign
  split
  · next rest split => exact absurd rfl (plain '-' (split ▸ List.mem_cons_self)).1
  · next rest split => exact absurd rfl (plain '+' (split ▸ List.mem_cons_self)).2
  · rfl

theorem noLeadingZero_digits (n : Nat) : noLeadingZero (digits n) = true := by
  unfold noLeadingZero
  split
  · next c more split => cases digits_head split
  · rfl

/-- Digits without a prefix are read whatever range is asked for: the bounds of `inRange` are too large to compute
with. -/
theorem unprefixed_digits {n : Nat} {inside : Int → Bool} (fits : inside n = true) :
    (do
      let (negative, unsigned) := sign (digits n)
      let digits ← digitRun? 10 unsigned
      let n ← ofDigits? 10 digits
      let value : Int := if negative then -n else n
      if noLeadingZero digits && inside value then some value else none : Option Int) = some n := by
  simp only [sign_digits, digitRun?_digits, ofDigits?_digits, noLeadingZero_digits, fits, Option.bind_eq_bind,
    Option.bind_some, Bool.and_self, Bool.false_eq_true, if_true, if_false]
  rfl

theorem integer?_digits {n : Nat} (fits : inRange n = true) : integer? (digits n) = some n := by
  unfold integer?
  split
  · next split => cases digits_head split
  · next split => cases digits_head split
  · next split => cases digits_head split
  · exact unprefixed_digits fits

/-- A run of digits is the number that it denotes. -/
theorem parse_digits {n : Nat} (fits : inRange n = true) : parse (digits n) = some (.integer n) := by
  have plain : ∀ c ∈ digits n, c ≠ 't' ∧ c ≠ 'f' := forall_digit (by decide)
  have notTrue : String.ofList (digits n) ≠ "true" := by
    intro same
    have chars : digits n = "true".toList := by rw [← same, String.toList_ofList]
    exact (plain 't' (chars ▸ by decide)).1 rfl
  have notFalse : String.ofList (digits n) ≠ "false" := by
    intro same
    have chars : digits n = "false".toList := by rw [← same, String.toList_ofList]
    exact (plain 'f' (chars ▸ by decide)).2 rfl
  rw [parse, if_neg notTrue, if_neg notFalse, isDateTime_digits, integer?_digits fits]
  rfl

end Toml.Scalar

end HeapSampler

import HeapSampler.Json.Reader
import HeapSampler.Json.Writer
import HeapSampler.Proofs.Text.Decimal

/-!
# JSON and back

Every value is read back from its indented form (`parse?_line`), whatever characters are in its strings and however
deep it is nested. The induction is on the value. The reader allows for as much nesting, and as many items, as the
text is long, so the length of what is written bounds both.
-/

namespace HeapSampler.Json

namespace Reader

/-! ## White space -/

theorem skipSpace_blank {blank : List Char} (blanks : ∀ c ∈ blank, isSpace c = true) (cs : List Char) :
    skipSpace (blank ++ cs) = skipSpace cs :=
  List.dropWhile_append_of_pos blanks

theorem newLine_blank (depth : Nat) : ∀ c ∈ newLine depth, isSpace c = true := by
  intro c found
  rcases List.mem_cons.1 found with rfl | space
  · rfl
  · rw [List.eq_of_mem_replicate space]
    rfl

theorem skipSpace_newLine (depth : Nat) (cs : List Char) : skipSpace (newLine depth ++ cs) = skipSpace cs :=
  skipSpace_blank (newLine_blank depth) cs

/-- A value is read behind white space. -/
theorem value_of_skipSpace {cs cs' : List Char} (same : skipSpace cs = skipSpace cs') (bound : Nat) :
    value bound cs = value bound cs' := by
  unfold value
  simp only [same]

theorem value_newLine (depth bound : Nat) (cs : List Char) : value bound (newLine depth ++ cs) = value bound cs :=
  value_of_skipSpace (skipSpace_newLine depth cs) bound

theorem value_space (bound : Nat) (cs : List Char) : value bound (' ' :: cs) = value bound cs :=
  value_of_skipSpace (show skipSpace (' ' :: cs) = skipSpace cs from rfl) bound

/-- Something else than white space or a closing bracket stands at the front of a text. -/
def Begins (cs : List Char) : Prop :=
  ∃ c rest, cs = c :: rest ∧ isSpace c = false ∧ c ≠ ']'

theorem Begins.append {cs : List Char} (begins : Begins cs) (rest : List Char) : Begins (cs ++ rest) := by
  obtain ⟨c, cs, rfl, plain⟩ := begins
  exact ⟨c, cs ++ rest, rfl, plain⟩

theorem Begins.skipSpace {cs : List Char} (begins : Begins cs) : skipSpace cs = cs := by
  obtain ⟨c, cs, rfl, solid, -⟩ := begins
  exact List.dropWhile_cons_of_neg (by simp [solid])

/-! ## Strings -/

/-- A control character without a short escape is written with four digits, of which the first two are zeros. -/
theorem padZero_hexDigits : ∀ n < 32, Decimal.padZero 4 (Decimal.hexDigits n) =
    ['0', '0', Nat.digitChar (n / 16), Nat.digitChar (n % 16)] := by
  decide

/-- A numbered escape of a control character stands for it. -/
theorem stringBody_code {c : Char} (control : c.toNat < 0x20) (rest : List Char) :
    stringBody .plain (['\\', 'u'] ++ Decimal.padZero 4 (Decimal.hexDigits c.toNat) ++ rest) =
      (stringBody .plain rest).map fun (s, r) => (c :: s, r) := by
  have digit {d : Nat} (small : d < 16) : Decimal.digitValue? 16 (Nat.digitChar d) = some d :=
    Decimal.digitValue?_digitChar (by decide) small
  have high := @digit (c.toNat / 16) (by omega)
  have low := @digit (c.toNat % 16) (by omega)
  have zero : Decimal.digitValue? 16 '0' = some 0 := by decide
  have number : c.toNat / 16 * 16 + c.toNat % 16 = c.toNat := Nat.div_add_mod' c.toNat 16
  have unit : unit? none c.toNat = some (.inl c) := by
    rw [unit?, if_neg (by omega), if_neg (by omega), Char.ofNat_toNat]
  rw [padZero_hexDigits c.toNat control]
  simp [stringBody, zero, high, low, number, unit]

/-- A character is read back from what is written for it. -/
theorem stringBody_escape (c : Char) (rest : List Char) :
    stringBody .plain (escapeChar c ++ rest) = (stringBody .plain rest).map fun (s, r) => (c :: s, r) := by
  unfold escapeChar
  split
  case h_8 quote backslash _ _ _ _ _ =>
    by_cases control : c.toNat < 0x20
    · rw [if_pos control]
      exact stringBody_code control rest
    · rw [if_neg control, List.singleton_append, stringBody, if_neg quote, if_neg backslash, if_neg control]
  all_goals rfl

theorem string_back (s : String) (rest : List Char) :
    string (s.toList.flatMap escapeChar ++ '"' :: rest) = some (s, rest) := by
  have body (cs : List Char) : stringBody .plain (cs.flatMap escapeChar ++ '"' :: rest) = some (cs, rest) := by
    induction cs with
    | nil => rfl
    | cons c cs ih =>
      rw [List.flatMap_cons, List.append_assoc, stringBody_escape, ih]
      rfl
  rw [string, body]
  exact congrArg (fun s => some (s, rest)) String.ofList_toList

/-! ## Numbers -/

/-- What may stand behind a value in an indented text: nothing, a comma or a new line. -/
inductive Ends : List Char → Prop where
  | nothing : Ends []
  | comma (rest : List Char) : Ends (',' :: rest)
  | newLine (rest : List Char) : Ends ('\n' :: rest)

/-- What follows a number does not belong to it. -/
theorem Ends.apart {rest : List Char} (ends : Ends rest) :
    rest.takeWhile Char.isDigit = [] ∧ (rest.head?.any fun c => c == '.' || c == 'e' || c == 'E') = false := by
  cases ends <;> exact ⟨rfl, rfl⟩

/-- Digits are taken up to what follows them. -/
theorem takeWhile_digits (n : Nat) {rest : List Char} (ends : Ends rest) :
    (Decimal.digits n ++ rest).takeWhile Char.isDigit = Decimal.digits n := by
  have digit : ∀ c ∈ Decimal.digits n, c.isDigit = true := Decimal.forall_digit (by decide)
  rw [List.takeWhile_append_of_pos digit, ends.apart.1, List.append_nil]

theorem no_leading_zero (n : Nat) : ¬((Decimal.digits n).length > 1 ∧ (Decimal.digits n).head? = some '0') := by
  rintro ⟨long, zero⟩
  obtain ⟨more, split⟩ := List.head?_eq_some_iff.1 zero
  obtain rfl := Decimal.digits_head split
  rw [split] at long
  exact absurd long (by decide)

theorem number_back (n : Int) {rest : List Char} (ends : Ends rest) :
    number (numberChars n ++ rest) = some (n, rest) := by
  have value := Decimal.ofDigits?_digits n.natAbs
  unfold numberChars
  by_cases negative : n < 0
  · have magnitude : -(n.natAbs : Int) = n := by omega
    rw [if_pos negative, List.cons_append, number]
    simp only [takeWhile_digits _ ends, List.drop_left, value, if_neg (no_leading_zero _), ends.apart.2]
    show some (-(n.natAbs : Int), rest) = some (n, rest)
    rw [magnitude]
  · have magnitude : (n.natAbs : Int) = n := by omega
    have unsigned (behind : List Char) : Decimal.digits n.natAbs ++ rest ≠ '-' :: behind := by
      obtain ⟨c, cs, split⟩ := List.exists_cons_of_ne_nil (Decimal.digits_ne_nil n.natAbs)
      have plain : ∀ c ∈ Decimal.digits n.natAbs, c ≠ '-' := Decimal.forall_digit (by decide)
      rw [split, List.cons_append]
      intro minus
      exact plain c (split ▸ List.mem_cons_self) (List.cons.inj minus).1
    rw [if_neg negative, number]
    · simp only [takeWhile_digits _ ends, List.drop_left, value, if_neg (no_leading_zero _), ends.apart.2]
      show some ((n.natAbs : Int), rest) = some (n, rest)
      rw [magnitude]
    · exact unsigned

/-! ## Values by what stands at their front -/

theorem value_array (bound : Nat) (cs : List Char) :
    value (bound + 1) ('[' :: cs) = (items (value bound) cs).map fun (vs, r) => (.array vs, r) := by
  rw [value]
  rfl

theorem value_object (bound : Nat) (cs : List Char) :
    value (bound + 1) ('\x7b' :: cs) = (members (value bound) cs).map fun (ms, r) => (.object ms, r) := by
  rw [value]
  rfl

theorem value_string (bound : Nat) (cs : List Char) :
    value bound ('"' :: cs) = (string cs).map fun (s, r) => (.string s, r) := by
  rw [value.eq_def]
  rfl

theorem value_number (bound : Nat) {c : Char} (plain : c ∉ ['[', '\x7b', '"', 'n', 't', 'f'])
    (solid : isSpace c = false) (cs : List Char) : value bound (c :: cs) = (number (c :: cs)).map fun (n, r) => (.number n, r) := by
  have here : skipSpace (c :: cs) = c :: cs := List.dropWhile_cons_of_neg (by simp [solid])
  simp only [List.mem_cons, List.not_mem_nil, or_false, not_or] at plain
  unfold value
  simp only [here]
  split <;> simp_all

/-- What holds of the sign and of every digit holds of the first character of a number. -/
theorem numberChars_head {P : Char → Prop} (minus : P '-') (digit : ∀ d < 10, P (Nat.digitChar d)) (n : Int) :
    ∃ c cs, numberChars n = c :: cs ∧ P c := by
  unfold numberChars
  by_cases negative : n < 0
  · rw [if_pos negative]
    exact ⟨_, _, rfl, minus⟩
  · rw [if_neg negative]
    obtain ⟨c, cs, split⟩ := List.exists_cons_of_ne_nil (Decimal.digits_ne_nil n.natAbs)
    exact ⟨c, cs, split, Decimal.forall_digit digit c (split ▸ List.mem_cons_self)⟩

/-- A value does not begin with white space, and is not mistaken for the end of an array. -/
theorem chars_begins (depth : Nat) (j : Json) : Begins (chars depth j) := by
  unfold chars
  split
  case h_4 n => exact numberChars_head (by decide) (by decide) n
  all_goals exact ⟨_, _, rfl, by decide⟩

/-! ## Items and members -/

section Items

variable {item : Reader Json} {v : Json} {vs : List Json} {cs tail rest : List Char}

theorem items_of_first (begins : Begins cs) (first : item cs = some (v, tail))
    (others : moreItems item tail.length tail = some (vs, rest)) (depth : Nat) :
    items item (newLine depth ++ cs) = some (v :: vs, rest) := by
  rw [items, skipSpace_newLine, begins.skipSpace]
  split
  · obtain ⟨c, cs', split, -, other⟩ := begins
    cases split
    exact absurd rfl other
  · simp only [first, Option.bind_eq_bind, Option.bind_some, others]
    rfl

theorem moreItems_comma (next : item cs = some (v, tail)) {fuel : Nat}
    (others : moreItems item fuel tail = some (vs, rest)) : moreItems item (fuel + 1) (',' :: cs) = some (v :: vs, rest) := by
  rw [moreItems]
  show (item cs >>= _) = _
  simp only [next, Option.bind_eq_bind, Option.bind_some, others]
  rfl

theorem moreItems_close (fuel depth : Nat) :
    moreItems item (fuel + 1) (newLine depth ++ ']' :: rest) = some ([], rest) := by
  rw [moreItems, skipSpace_newLine]
  rfl

end Items

section Members

variable {item : Reader Json} {name : String} {v : Json} {m : String × Json} {ms : List (String × Json)}
  {cs tail rest : List Char}

theorem stringChars_append (name : String) (cs : List Char) :
    stringChars name ++ cs = '"' :: (name.toList.flatMap escapeChar ++ '"' :: cs) := by
  rw [stringChars, List.append_assoc]
  rfl

theorem skipSpace_stringChars (name : String) (cs : List Char) :
    skipSpace (stringChars name ++ cs) = stringChars name ++ cs := by
  rw [stringChars_append]
  rfl

theorem member_back {lead : List Char} (begins : skipSpace lead = stringChars name ++ (':' :: ' ' :: cs))
    (read : item (' ' :: cs) = some (v, tail)) : member item lead = some ((name, v), tail) := by
  rw [member, begins, stringChars_append]
  show (string _ >>= _) = _
  simp only [string_back, Option.bind_eq_bind, Option.bind_some]
  show (item (' ' :: cs) >>= _) = _
  rw [read]
  rfl

theorem members_of_first (first : member item (stringChars name ++ cs) = some (m, tail))
    (others : moreMembers item tail.length tail = some (ms, rest)) (depth : Nat) :
    members item (newLine depth ++ (stringChars name ++ cs)) = some (m :: ms, rest) := by
  rw [members, skipSpace_newLine, skipSpace_stringChars]
  split
  · next split =>
    rw [stringChars_append] at split
    cases split
  · simp only [first, Option.bind_eq_bind, Option.bind_some, others]
    rfl

theorem moreMembers_comma (next : member item cs = some (m, tail)) {fuel : Nat}
    (others : moreMembers item fuel tail = some (ms, rest)) :
    moreMembers item (fuel + 1) (',' :: cs) = some (m :: ms, rest) := by
  rw [moreMembers]
  show (member item cs >>= _) = _
  simp only [next, Option.bind_eq_bind, Option.bind_some, others]
  rfl

theorem moreMembers_close (fuel depth : Nat) :
    moreMembers item (fuel + 1) (newLine depth ++ '\x7d' :: rest) = some ([], rest) := by
  rw [moreMembers, skipSpace_newLine]
  rfl

end Members

theorem ends_items (depth outer : Nat) (items : List Json) (cs : List Char) :
    Ends (itemsChars depth items ++ (Json.newLine outer ++ cs)) := by
  cases items with
  | nil => exact .newLine _
  | cons item items => exact .comma _

theorem ends_members (depth outer : Nat) (members : List (String × Json)) (cs : List Char) :
    Ends (membersChars depth members ++ (Json.newLine outer ++ cs)) := by
  cases members with
  | nil => exact .newLine _
  | cons member members => exact .comma _

theorem array_back {depth bound : Nat} {item : Json} {items : List Json} {tail rest : List Char}
    (behind : tail = itemsChars (depth + 1) items ++ (newLine depth ++ ']' :: rest))
    (first : value bound (chars (depth + 1) item ++ tail) = some (item, tail))
    (others : moreItems (value bound) tail.length tail = some (items, rest)) :
    value (bound + 1) (chars depth (.array (item :: items)) ++ rest) = some (.array (item :: items), rest) := by
  have split : chars depth (.array (item :: items)) ++ rest =
      '[' :: (newLine (depth + 1) ++ (chars (depth + 1) item ++ tail)) := by
    simp [chars, behind]
  rw [split, value_array, items_of_first ((chars_begins (depth + 1) item).append tail) first others]
  rfl

theorem object_back {depth bound : Nat} {name : String} {v : Json} {members : List (String × Json)}
    {tail rest : List Char} (behind : tail = membersChars (depth + 1) members ++ (newLine depth ++ '\x7d' :: rest))
    (first : value bound (chars (depth + 1) v ++ tail) = some (v, tail))
    (others : moreMembers (value bound) tail.length tail = some (members, rest)) :
    value (bound + 1) (chars depth (.object ((name, v) :: members)) ++ rest) =
      some (.object ((name, v) :: members), rest) := by
  have split : chars depth (.object ((name, v) :: members)) ++ rest =
      '\x7b' :: (newLine (depth + 1) ++ (stringChars name ++ (':' :: ' ' :: (chars (depth + 1) v ++ tail)))) := by
    simp [chars, behind]
  rw [← value_space] at first
  rw [split, value_object, members_of_first (member_back (skipSpace_stringChars name _) first) others]
  rfl

end Reader

/-! ## Whole values -/

open Reader

mutual

/-- A value is read back from its indented form, with whatever may follow it. -/
theorem value_back : ∀ (j : Json) (depth bound : Nat) (rest : List Char), (chars depth j).length ≤ bound → Ends rest →
    value bound (chars depth j ++ rest) = some (j, rest)
  | .null, depth, bound, rest, _, _ => by
    rw [value.eq_def]
    rfl
  | .bool true, depth, bound, rest, _, _ => by
    rw [value.eq_def]
    rfl
  | .bool false, depth, bound, rest, _, _ => by
    rw [value.eq_def]
    rfl
  | .number n, depth, bound, rest, _, ends => by
    obtain ⟨c, cs, split, plain, solid⟩ : ∃ c cs, numberChars n = c :: cs ∧
        c ∉ ['[', '\x7b', '"', 'n', 't', 'f'] ∧ isSpace c = false := numberChars_head (by decide) (by decide) n
    have back := number_back n ends
    rw [split, List.cons_append] at back
    rw [chars, split, List.cons_append, value_number bound plain solid, back]
    rfl
  | .string s, depth, bound, rest, _, _ => by
    rw [chars, stringChars_append, value_string, string_back]
    rfl
  | .array [], depth, bound, rest, short, _ => by
    simp only [chars, List.length_cons] at short
    obtain ⟨bound, rfl⟩ : ∃ b, bound = b + 1 := ⟨bound - 1, by omega⟩
    rw [chars, List.cons_append, value_array]
    rfl
  | .array (item :: items), depth, bound, rest, short, _ => by
    simp only [chars, List.length_append, List.length_cons, List.length_nil] at short
    obtain ⟨bound, rfl⟩ : ∃ b, bound = b + 1 := ⟨bound - 1, by omega⟩
    -- the brackets are what one level of nesting costs, and they leave room for the items
    apply array_back rfl
    · exact value_back item (depth + 1) bound _ (by omega) (ends_items _ _ items _)
    · apply moreItems_back items (depth + 1) bound depth _ rest (by omega)
      simp only [List.length_append, List.length_cons]
      omega
  | .object [], depth, bound, rest, short, _ => by
    simp only [chars, List.length_cons] at short
    obtain ⟨bound, rfl⟩ : ∃ b, bound = b + 1 := ⟨bound - 1, by omega⟩
    rw [chars, List.cons_append, value_object]
    rfl
  | .object ((name, v) :: members), depth, bound, rest, short, _ => by
    simp only [chars, List.length_append, List.length_cons, List.length_nil] at short
    obtain ⟨bound, rfl⟩ : ∃ b, bound = b + 1 := ⟨bound - 1, by omega⟩
    apply object_back rfl
    · exact value_back v (depth + 1) bound _ (by omega) (ends_members _ _ members _)
    · apply moreMembers_back members (depth + 1) bound depth _ rest (by omega)
      simp only [List.length_append, List.length_cons]
      omega

/-- The items of an array behind its first are read back. -/
theorem moreItems_back : ∀ (items : List Json) (depth bound outer fuel : Nat) (rest : List Char),
    (itemsChars depth items).length ≤ bound → (itemsChars depth items).length < fuel →
    moreItems (value bound) fuel (itemsChars depth items ++ (newLine outer ++ ']' :: rest)) = some (items, rest)
  | [], depth, bound, outer, fuel, rest, _, enough => by
    obtain ⟨fuel, rfl⟩ : ∃ n, fuel = n + 1 := ⟨fuel - 1, by omega⟩
    exact moreItems_close fuel outer
  | item :: items, depth, bound, outer, fuel, rest, short, enough => by
    simp only [itemsChars, List.length_append, List.length_cons] at short enough
    obtain ⟨fuel, rfl⟩ : ∃ n, fuel = n + 1 := ⟨fuel - 1, by omega⟩
    have next := value_back item depth bound (itemsChars depth items ++ (newLine outer ++ ']' :: rest)) (by omega)
      (ends_items depth outer items _)
    rw [← value_newLine depth] at next
    have split : itemsChars depth (item :: items) ++ (newLine outer ++ ']' :: rest) = ',' :: (newLine depth ++
        (chars depth item ++ (itemsChars depth items ++ (newLine outer ++ ']' :: rest)))) := by
      simp [itemsChars]
    rw [split]
    have others := moreItems_back items depth bound outer fuel rest (by omega) (by omega)
    exact moreItems_comma next others

/-- The members of an object behind its first are read back. -/
theorem moreMembers_back : ∀ (members : List (String × Json)) (depth bound outer fuel : Nat) (rest : List Char),
    (membersChars depth members).length ≤ bound → (membersChars depth members).length < fuel →
    moreMembers (value bound) fuel (membersChars depth members ++ (newLine outer ++ '\x7d' :: rest)) =
      some (members, rest)
  | [], depth, bound, outer, fuel, rest, _, enough => by
    obtain ⟨fuel, rfl⟩ : ∃ n, fuel = n + 1 := ⟨fuel - 1, by omega⟩
    exact moreMembers_close fuel outer
  | (name, v) :: members, depth, bound, outer, fuel, rest, short, enough => by
    simp only [membersChars, List.length_append, List.length_cons] at short enough
    obtain ⟨fuel, rfl⟩ : ∃ n, fuel = n + 1 := ⟨fuel - 1, by omega⟩
    have next := value_back v depth bound (membersChars depth members ++ (newLine outer ++ '\x7d' :: rest)) (by omega)
      (ends_members depth outer members _)
    rw [← value_space] at next
    have split : membersChars depth ((name, v) :: members) ++ (newLine outer ++ '\x7d' :: rest) =
        ',' :: (newLine depth ++ (stringChars name ++ (':' :: ' ' :: (chars depth v ++
          (membersChars depth members ++ (newLine outer ++ '\x7d' :: rest)))))) := by
      simp [membersChars]
    have begins := (skipSpace_newLine depth _).trans (skipSpace_stringChars name (':' :: ' ' :: (chars depth v ++
      (membersChars depth members ++ (newLine outer ++ '\x7d' :: rest)))))
    rw [split]
    have others := moreMembers_back members depth bound outer fuel rest (by omega) (by omega)
    exact moreMembers_comma (member_back begins next) others

end

/-- Every value is read back from its indented form on lines of its own. -/
theorem parse?_line (j : Json) : parse? (j.pretty ++ "\n") = some j := by
  have chars : (j.pretty ++ "\n").toList = j.chars 0 ++ ['\n'] := by
    rw [String.toList_append, pretty, String.toList_ofList]
    rfl
  have long : (j.chars 0).length ≤ (j.chars 0 ++ ['\n']).length := by
    rw [List.length_append]
    omega
  rw [parse?, chars]
  simp only [value_back j 0 _ ['\n'] long (.newLine [])]
  rfl

end HeapSampler.Json

import HeapSampler.Toml.Writer

/-!
# Strings and back

A string is read back from whatever form it is written in. `read_string` says so of every string and of every
text behind it that does not go on with a quote: a quote too many would be taken for one of the closing ones.
The two readers of strings on several lines stop at the first run of three quotes, so what is written between
the delimiters must have none (`Tame`), whether the quotes are escaped or there are not that many.
-/

namespace HeapSampler.Toml.Quoted

open Writer (escape basicBody linesBody longestRun needsCode)

/-! ## Escapes -/

/-- A character that is written as an escape in a basic string on one line. -/
def isEscaped (c : Char) : Bool :=
  isControl c || c == '\t' || c == '"' || c == '\\'

/-- The character that is written behind a backslash as one letter, or as four hexadecimal digits. -/
def unescape? : List Char → Option Char
  | [l] => escaped? l
  | ['u', a, b, c, d] => do
    let a ← Decimal.digitValue? 16 a
    let b ← Decimal.digitValue? 16 b
    let c ← Decimal.digitValue? 16 c
    let d ← Decimal.digitValue? 16 d
    scalar? (((a * 16 + b) * 16 + c) * 16 + d)
  | _ => none

/-- The characters that are escaped are among the first 128. -/
theorem isEscaped_lt {c : Char} (needed : isEscaped c = true) : c.toNat < 128 := by
  simp only [isEscaped, isControl, Bool.or_eq_true, Bool.and_eq_true, decide_eq_true_eq, beq_iff_eq] at needed
  rcases needed with (((⟨low, -⟩ | high) | rfl) | rfl) | rfl
  · omega
  · omega
  all_goals decide

/-- An escape is a backslash and what stands for the character behind it. -/
theorem escape_eq {c : Char} (needed : isEscaped c = true) :
    ∃ code, escape c = '\\' :: code ∧ unescape? code = some c := by
  have all : ∀ n < 128, isEscaped (Char.ofNat n) = true →
      (escape (Char.ofNat n)).head? = some '\\' ∧ unescape? (escape (Char.ofNat n)).tail = some (Char.ofNat n) := by
    decide +kernel
  have here := all c.toNat (isEscaped_lt needed)
  rw [Char.ofNat_toNat] at here
  obtain ⟨head, tail⟩ := here needed
  obtain ⟨code, split⟩ := List.head?_eq_some_iff.1 head
  rw [split] at tail
  exact ⟨code, split, tail⟩

/-- What stands behind a backslash is one letter, or the letter `u` and four digits of a number. -/
theorem unescape?_cases {code : List Char} {c : Char} (stands : unescape? code = some c) :
    (∃ l, code = [l] ∧ escaped? l = some c) ∨
      ∃ p q r s a b d e, code = ['u', p, q, r, s] ∧ Decimal.digitValue? 16 p = some a ∧
        Decimal.digitValue? 16 q = some b ∧ Decimal.digitValue? 16 r = some d ∧ Decimal.digitValue? 16 s = some e ∧
        scalar? (((a * 16 + b) * 16 + d) * 16 + e) = some c := by
  unfold unescape? at stands
  split at stands
  · next l => exact .inl ⟨l, rfl, stands⟩
  · next p q r s =>
    simp only [Option.bind_eq_bind, Option.bind_eq_some_iff] at stands
    obtain ⟨a, first, b, second, d, third, e, fourth, number⟩ := stands
    exact .inr ⟨p, q, r, s, a, b, d, e, rfl, first, second, third, fourth, number⟩
  · cases stands

theorem readBasic_code {code : List Char} {c : Char} (stands : unescape? code = some c) (rest : List Char) :
    readBasic .plain ('\\' :: (code ++ rest)) = (readBasic .plain rest).map fun (s, r) => (c :: s, r) := by
  obtain ⟨l, rfl, letter⟩ | ⟨p, q, r, s, a, b, d, e, rfl, first, second, third, fourth, number⟩ :=
    unescape?_cases stands
  · simp [readBasic, letter]
  · simp [readBasic, escaped?, hexCount?, first, second, third, fourth, number]

theorem closing?_of_ne {quote c : Char} (differs : c ≠ quote) (rest : List Char) :
    closing? quote (c :: rest) = none := by
  simp [closing?, differs]

theorem readBasicLines_code {code : List Char} {c : Char} (stands : unescape? code = some c) (rest : List Char) :
    readBasicLines .plain ('\\' :: (code ++ rest)) = (readBasicLines .plain rest).map fun (s, r) => (c :: s, r) := by
  obtain ⟨l, rfl, letter⟩ | ⟨p, q, r, s, a, b, d, e, rfl, first, second, third, fourth, number⟩ :=
    unescape?_cases stands
  · simp [readBasicLines, closing?_of_ne, letter]
  · simp [readBasicLines, closing?_of_ne, escaped?, hexCount?, first, second, third, fourth, number]

/-! ## Strings on one line -/

theorem basicBody_cons (c : Char) (cs : List Char) :
    basicBody (c :: cs) = (if isEscaped c = true then escape c else [c]) ++ basicBody cs :=
  List.flatMap_cons

/-- A basic string is read back, whatever its characters. -/
theorem readBasic_body (cs rest : List Char) : readBasic .plain (basicBody cs ++ '"' :: rest) = some (cs, rest) := by
  induction cs with
  | nil => rfl
  | cons c cs ih =>
    rw [basicBody_cons, List.append_assoc]
    by_cases needed : isEscaped c = true
    · obtain ⟨code, split, stands⟩ := escape_eq needed
      rw [if_pos needed, split, List.cons_append, readBasic_code stands, ih]
      rfl
    · rw [if_neg needed, List.singleton_append]
      simp only [isEscaped, Bool.or_eq_true, beq_iff_eq, not_or, Bool.not_eq_true] at needed
      obtain ⟨⟨⟨control, -⟩, quote⟩, backslash⟩ := needed
      rw [readBasic, if_neg quote, if_neg backslash, control, ih]
      rfl

/-- A literal string is read back if its characters may stand in one. -/
theorem readLiteral_body {cs : List Char} (plain : ∀ c ∈ cs, c ≠ '\'' ∧ isControl c = false) (rest : List Char) :
    readLiteral (cs ++ '\'' :: rest) = some (cs, rest) := by
  induction cs with
  | nil => rfl
  | cons c cs ih =>
    obtain ⟨⟨quote, control⟩, behind⟩ := List.forall_mem_cons.1 plain
    rw [List.cons_append, readLiteral, if_neg quote, control, ih behind]
    rfl

/-! ## Strings on several lines -/

/-- Behind so many quotes in a row, a text never makes three in a row. -/
def Tame (quote : Char) : Nat → List Char → Prop
  | _, [] => True
  | n, c :: cs => if c = quote then n < 2 ∧ Tame quote (n + 1) cs else Tame quote 0 cs

/-- A tame text is nothing but quotes, or the quotes at its front are followed by something else: whatever
stands behind the text, they are not taken for a closing delimiter. -/
theorem Tame.quotes_or_none {quote : Char} {n : Nat} {cs : List Char} (tame : Tame quote n cs) (few : n ≤ 2) :
    (∃ j, j + n ≤ 2 ∧ cs = List.replicate j quote) ∨
      ∀ tail, ((cs ++ tail).takeWhile (· == quote)).length + n ≤ 2 := by
  induction cs generalizing n with
  | nil => exact .inl ⟨0, by omega, rfl⟩
  | cons c cs ih =>
    by_cases same : c = quote
    · subst same
      rw [Tame, if_pos rfl] at tame
      rcases ih tame.2 (by omega) with ⟨j, small, rfl⟩ | short
      · exact .inl ⟨j + 1, by omega, rfl⟩
      · refine .inr fun tail => ?_
        have := short tail
        simp only [List.cons_append, List.takeWhile_cons, beq_self_eq_true, if_true, List.length_cons]
        omega
    · exact .inr fun tail => by simp [same, few]

theorem closing?_of_short {quote : Char} {cs : List Char} (short : (cs.takeWhile (· == quote)).length ≤ 2) :
    closing? quote cs = none := by
  rw [closing?, if_pos (by omega)]

/-- Up to two quotes in front of the closing delimiter belong to the string. -/
theorem closing?_quotes {quote : Char} {j : Nat} (few : j ≤ 2) {rest : List Char} (clear : rest.head? ≠ some quote) :
    closing? quote (List.replicate j quote ++ quote :: quote :: quote :: rest) = some (j, rest) := by
  have run : (rest.takeWhile (· == quote)) = [] := by
    cases rest with
    | nil => rfl
    | cons c rest =>
      have : c ≠ quote := fun same => clear (congrArg some same)
      simp [this]
  have all : List.replicate j quote ++ quote :: quote :: quote :: rest = List.replicate (j + 3) quote ++ rest := by
    rw [← List.replicate_append_replicate, List.append_assoc]
    rfl
  have length : ((List.replicate (j + 3) quote ++ rest).takeWhile (· == quote)).length = j + 3 := by
    rw [List.takeWhile_append_of_pos (by simp), run]
    simp
  rw [all, closing?, length, if_neg (by omega)]
  simp [Nat.min_eq_left few]

theorem Tame.tail {quote c : Char} {n : Nat} {cs : List Char} (tame : Tame quote n (c :: cs)) :
    ∃ m ≤ 2, Tame quote m cs := by
  rw [Tame] at tame
  by_cases same : c = quote
  · rw [if_pos same] at tame
    exact ⟨n + 1, by omega, tame.2⟩
  · rw [if_neg same] at tame
    exact ⟨0, by omega, tame⟩

/-- A character may stand in a string on several lines, whatever follows it. -/
def Stands (c : Char) : Prop :=
  c = '\n' ∨ isControl c = false

theorem Stands.ne_return {c : Char} (stands : Stands c) : c ≠ '\r' := by
  rintro rfl
  exact absurd stands (by simp [Stands, isControl])

theorem Stands.mayStand {c : Char} (stands : Stands c) (rest : List Char) : mayStand c rest = true := by
  rw [Quoted.mayStand, if_neg stands.ne_return]
  rcases stands with rfl | plain
  · rfl
  · rw [plain, Bool.not_false, Bool.or_true]

theorem readLiteralLines_of_closing {cs behind : List Char} {extra : Nat}
    (closing : closing? '\'' cs = some (extra, behind)) :
    readLiteralLines cs = some (List.replicate extra '\'', behind) := by
  cases cs with
  | nil => cases closing
  | cons c cs => rw [readLiteralLines, closing]

theorem readBasicLines_of_closing {cs behind : List Char} {extra : Nat}
    (closing : closing? '"' cs = some (extra, behind)) :
    readBasicLines .plain cs = some (List.replicate extra '"', behind) := by
  cases cs with
  | nil => cases closing
  | cons c cs => simp [readBasicLines, closing]

/-- A literal string on several lines is read back if its characters may stand in one and it has no three quotes
in a row. -/
theorem readLiteralLines_body {n : Nat} {cs rest : List Char} (few : n ≤ 2) (tame : Tame '\'' n cs)
    (stand : ∀ c ∈ cs, Stands c) (clear : rest.head? ≠ some '\'') :
    readLiteralLines (cs ++ '\'' :: '\'' :: '\'' :: rest) = some (cs, rest) := by
  induction cs generalizing n with
  | nil => exact readLiteralLines_of_closing (closing?_quotes (Nat.zero_le 2) clear)
  | cons c cs ih =>
    obtain ⟨j, small, all⟩ | short := tame.quotes_or_none few
    · rw [all]
      exact readLiteralLines_of_closing (closing?_quotes (by omega) clear)
    · obtain ⟨m, fewer, tamer⟩ := tame.tail
      obtain ⟨stands, behind⟩ := List.forall_mem_cons.1 stand
      have here := short ('\'' :: '\'' :: '\'' :: rest)
      rw [List.cons_append] at here ⊢
      rw [readLiteralLines, closing?_of_short (by omega), stands.mayStand, ih fewer tamer behind]
      rfl

/-- A string without three quotes in a row is tame. -/
theorem tame_of_longestRun {quote : Char} {current longest : Nat} {cs : List Char}
    (short : longestRun.go quote current longest cs ≤ 2) : longest ≤ 2 ∧ Tame quote current cs := by
  induction cs generalizing current longest with
  | nil => exact ⟨short, trivial⟩
  | cons c cs ih =>
    rw [longestRun.go] at short
    rw [Tame]
    by_cases same : c = quote
    · rw [if_pos same] at short ⊢
      obtain ⟨small, tame⟩ := ih short
      exact ⟨by omega, by omega, tame⟩
    · rw [if_neg same] at short ⊢
      exact ih short

/-! ### Basic strings on several lines -/

/-- A character that is written as an escape in a basic string on several lines, but for a third quote. -/
def isEscapedLines (c : Char) : Bool :=
  needsCode c || c == '\t' || c == '\\'

theorem isEscaped_of_lines {c : Char} (needed : isEscapedLines c = true) : isEscaped c = true := by
  simp only [isEscapedLines, needsCode, isEscaped, Bool.or_eq_true, Bool.and_eq_true] at needed ⊢
  rcases needed with (⟨control, -⟩ | tab) | backslash
  · exact .inl (.inl (.inl control))
  · exact .inl (.inl (.inr tab))
  · exact .inr backslash

/-- What is written of a character and those behind it: a quote as it is, an escape, or the character itself. -/
theorem linesBody_cons (quotes : Nat) (c : Char) (cs : List Char) :
    (c = '"' ∧ quotes < 2 ∧ linesBody quotes (c :: cs) = c :: linesBody (quotes + 1) cs) ∨
      (isEscaped c = true ∧ linesBody quotes (c :: cs) = escape c ++ linesBody 0 cs) ∨
        c ≠ '"' ∧ c ≠ '\\' ∧ Stands c ∧ linesBody quotes (c :: cs) = c :: linesBody 0 cs := by
  rw [linesBody]
  by_cases quote : c = '"'
  · rw [if_pos quote]
    by_cases free : quotes < 2
    · exact .inl ⟨quote, free, if_pos free⟩
    · exact .inr (.inl ⟨by rw [quote]; decide, if_neg free⟩)
  · rw [if_neg quote]
    by_cases needed : isEscapedLines c = true
    · exact .inr (.inl ⟨isEscaped_of_lines needed, if_pos needed⟩)
    · refine .inr (.inr ⟨quote, ?_, ?_, if_neg needed⟩)
      · rintro rfl
        exact needed rfl
      · simp only [isEscapedLines, needsCode, Bool.or_eq_true, Bool.and_eq_true, not_or, not_and, bne_iff_ne] at needed
        rw [Stands]
        by_cases control : isControl c = true
        · exact .inl (by simpa using needed.1.1 control)
        · exact .inr (by simpa using control)

/-- What is written is nothing but quotes, as the string is, or no more than two quotes come first. -/
theorem linesBody_quotes_or_none {quotes : Nat} (few : quotes ≤ 2) (cs : List Char) :
    (∃ j, j + quotes ≤ 2 ∧ cs = List.replicate j '"' ∧ linesBody quotes cs = List.replicate j '"') ∨
      ∀ tail, ((linesBody quotes cs ++ tail).takeWhile (· == '"')).length + quotes ≤ 2 := by
  induction cs generalizing quotes with
  | nil => exact .inl ⟨0, by omega, rfl, rfl⟩
  | cons c cs ih =>
    obtain ⟨rfl, free, body⟩ | ⟨needed, body⟩ | ⟨quote, -, -, body⟩ := linesBody_cons quotes c cs
    · rcases ih (show quotes + 1 ≤ 2 by omega) with ⟨j, small, rfl, all⟩ | short
      · exact .inl ⟨j + 1, by omega, rfl, by rw [body, all]; rfl⟩
      · refine .inr fun tail => ?_
        have := short tail
        simp only [body, List.cons_append, List.takeWhile_cons, beq_self_eq_true, if_true, List.length_cons]
        omega
    · obtain ⟨code, split, -⟩ := escape_eq needed
      exact .inr fun tail => by simp [body, split, few]
    · exact .inr fun tail => by simp [body, quote, few]

theorem readBasicLines_char {c : Char} {rest : List Char} (opens : closing? '"' (c :: rest) = none)
    (backslash : c ≠ '\\') (stands : Stands c) :
    readBasicLines .plain (c :: rest) = (readBasicLines .plain rest).map fun (s, r) => (c :: s, r) := by
  simp [readBasicLines, opens, backslash, stands.mayStand]

/-- A basic string on several lines is read back, whatever its characters. -/
theorem readBasicLines_body {quotes : Nat} (few : quotes ≤ 2) {cs rest : List Char} (clear : rest.head? ≠ some '"') :
    readBasicLines .plain (linesBody quotes cs ++ '"' :: '"' :: '"' :: rest) = some (cs, rest) := by
  induction cs generalizing quotes with
  | nil => exact readBasicLines_of_closing (closing?_quotes (Nat.zero_le 2) clear)
  | cons c cs ih =>
    obtain ⟨j, small, all, body⟩ | short := linesBody_quotes_or_none few (c :: cs)
    · rw [body, all]
      exact readBasicLines_of_closing (closing?_quotes (by omega) clear)
    · have here := short ('"' :: '"' :: '"' :: rest)
      obtain ⟨rfl, free, body⟩ | ⟨needed, body⟩ | ⟨quote, backslash, stands, body⟩ := linesBody_cons quotes c cs
      · rw [body, List.cons_append] at here ⊢
        rw [readBasicLines_char (closing?_of_short (by omega)) (by decide) (.inr rfl), ih (by omega)]
        rfl
      · obtain ⟨code, split, stands⟩ := escape_eq needed
        rw [body, split, List.append_assoc, List.cons_append, readBasicLines_code stands, ih (by omega)]
        rfl
      · rw [body, List.cons_append, readBasicLines_char (closing?_of_ne quote _) backslash stands, ih (by omega)]
        rfl

/-! ## Any string -/

/-- A text does not go on with a quote. -/
def Clear (rest : List Char) : Prop :=
  rest.head? ≠ some '"' ∧ rest.head? ≠ some '\''

/-- The line end behind an opening delimiter. -/
def lead (cs : List Char) : List Char :=
  if cs.contains '\n' then ['\n'] else []

/-- A string is written between single delimiters or between triple ones. -/
theorem string_toList (s : String) : (Writer.string s).toList =
    match Writer.style s.toList with
    | .basic => '"' :: basicBody s.toList ++ ['"']
    | .literal => '\'' :: s.toList ++ ['\'']
    | .basicLines => '"' :: '"' :: '"' :: (lead s.toList ++ linesBody 0 s.toList) ++ ['"', '"', '"']
    | .literalLines => '\'' :: '\'' :: '\'' :: (lead s.toList ++ s.toList) ++ ['\'', '\'', '\''] := by
  rw [Writer.string, lead]
  by_cases newline : s.toList.contains '\n' = true
  all_goals
    simp only [newline]
    cases Writer.style s.toList <;> simp

theorem dropLineEnd_of_head {cs : List Char} (head : ∀ c, cs.head? = some c → c ≠ '\n' ∧ c ≠ '\r') :
    dropLineEnd cs = cs := by
  unfold dropLineEnd
  split
  · exact absurd rfl (head '\n' rfl).1
  · exact absurd rfl (head '\r' rfl).2
  · rfl

/-- Only the line end that was written for it is dropped behind an opening delimiter. -/
theorem dropLineEnd_lead {cs body : List Char}
    (head : ∀ c, body.head? = some c → (c = '\n' → '\n' ∈ cs) ∧ c ≠ '\r') : dropLineEnd (lead cs ++ body) = body := by
  by_cases newline : '\n' ∈ cs
  · rw [lead, if_pos (by simpa using newline)]
    rfl
  · rw [lead, if_neg (by simpa using newline)]
    exact dropLineEnd_of_head fun c first => ⟨fun same => newline ((head c first).1 same), (head c first).2⟩

theorem linesBody_head {cs tail : List Char} {c : Char}
    (first : (linesBody 0 cs ++ '"' :: tail).head? = some c) : (c = '\n' → '\n' ∈ cs) ∧ c ≠ '\r' := by
  cases cs with
  | nil =>
    cases first
    decide
  | cons d cs =>
    obtain ⟨rfl, -, body⟩ | ⟨needed, body⟩ | ⟨-, -, stands, body⟩ := linesBody_cons 0 d cs
    · rw [body] at first
      cases first
      exact ⟨fun same => absurd same (by decide), by decide⟩
    · obtain ⟨code, split, -⟩ := escape_eq needed
      rw [body, split] at first
      cases first
      exact ⟨fun same => absurd same (by decide), by decide⟩
    · rw [body] at first
      cases first
      exact ⟨fun same => same ▸ List.mem_cons_self, stands.ne_return⟩

theorem literal_head {cs tail : List Char} (stand : ∀ c ∈ cs, Stands c) {c : Char}
    (first : (cs ++ '\'' :: tail).head? = some c) : (c = '\n' → '\n' ∈ cs) ∧ c ≠ '\r' := by
  cases cs with
  | nil =>
    cases first
    decide
  | cons d cs =>
    cases first
    exact ⟨fun same => same ▸ List.mem_cons_self, (stand c List.mem_cons_self).ne_return⟩

/-- Behind its delimiter, a basic string on one line does not go on with two quotes. -/
theorem basicBody_single {cs rest : List Char} (clear : rest.head? ≠ some '"') (r : List Char) :
    basicBody cs ++ '"' :: rest ≠ '"' :: '"' :: r := by
  intro same
  cases cs with
  | nil =>
    obtain rfl : rest = '"' :: r := (List.cons.inj same).2
    exact clear rfl
  | cons c cs =>
    rw [basicBody_cons] at same
    by_cases needed : isEscaped c = true
    · obtain ⟨code, split, -⟩ := escape_eq needed
      rw [if_pos needed, split] at same
      cases same
    · rw [if_neg needed] at same
      obtain rfl : c = '"' := (List.cons.inj same).1
      exact needed rfl

theorem read_basic {cs : List Char} (single : ∀ r, cs ≠ '"' :: '"' :: r) :
    read ('"' :: cs) = (readBasic .plain cs).map fun p => (String.ofList p.1, p.2) := by
  unfold read
  split <;> simp_all

theorem read_literal {cs : List Char} (single : ∀ r, cs ≠ '\'' :: '\'' :: r) :
    read ('\'' :: cs) = (readLiteral cs).map fun p => (String.ofList p.1, p.2) := by
  unfold read
  split <;> simp_all

theorem stands_of_noCodes {cs : List Char} (noCodes : cs.any needsCode = false) : ∀ c ∈ cs, Stands c := by
  intro c found
  have plain : needsCode c = false := by
    simpa using List.any_eq_false.1 noCodes c found
  by_cases newline : c = '\n'
  · exact .inl newline
  · exact .inr (by simpa [needsCode, newline] using plain)

/-- A string is literal on one line only if its characters may stand there. -/
theorem style_literal {cs : List Char} (chosen : Writer.style cs = .literal) :
    ∀ c ∈ cs, c ≠ '\'' ∧ isControl c = false := by
  have plain : cs.any needsCode = false ∧ '\'' ∉ cs ∧ '\n' ∉ cs := by
    grind [Writer.style]
  intro c found
  refine ⟨fun same => plain.2.1 (same ▸ found), ?_⟩
  rcases stands_of_noCodes plain.1 c found with rfl | control
  · exact absurd found plain.2.2
  · exact control

/-- A string is literal on several lines only if its characters may stand there and it has no three quotes in a row. -/
theorem style_literalLines {cs : List Char} (chosen : Writer.style cs = .literalLines) :
    (∀ c ∈ cs, Stands c) ∧ Tame '\'' 0 cs := by
  have plain : cs.any needsCode = false ∧ longestRun '\'' cs ≤ 2 := by
    grind [Writer.style]
  exact ⟨stands_of_noCodes plain.1, (tame_of_longestRun plain.2).2⟩

/-- **A string is read back from the form it is written in**, if the text does not go on with a quote. -/
theorem read_string (s : String) {rest : List Char} (clear : Clear rest) :
    read ((Writer.string s).toList ++ rest) = some (s, rest) := by
  rw [string_toList]
  cases chosen : Writer.style s.toList with
  | basic =>
    dsimp only
    rw [List.append_assoc, List.cons_append, List.singleton_append, read_basic (basicBody_single clear.1),
      readBasic_body, Option.map_some, String.ofList_toList]
  | literal =>
    have plain := style_literal chosen
    have single (r : List Char) : s.toList ++ '\'' :: rest ≠ '\'' :: '\'' :: r := by
      intro same
      cases chars : s.toList with
      | nil =>
        rw [chars] at same
        obtain rfl : rest = '\'' :: r := (List.cons.inj same).2
        exact clear.2 rfl
      | cons c cs =>
        rw [chars] at same plain
        obtain rfl : c = '\'' := (List.cons.inj same).1
        exact (plain '\'' List.mem_cons_self).1 rfl
    dsimp only
    rw [List.append_assoc, List.cons_append, List.singleton_append, read_literal single, readLiteral_body plain,
      Option.map_some, String.ofList_toList]
  | basicLines =>
    simp only [List.append_assoc, List.cons_append, List.nil_append]
    rw [read, dropLineEnd_lead fun _ => linesBody_head, readBasicLines_body (Nat.zero_le 2) clear.1, Option.map_some,
      String.ofList_toList]
  | literalLines =>
    obtain ⟨stand, tame⟩ := style_literalLines chosen
    simp only [List.append_assoc, List.cons_append, List.nil_append]
    rw [read, dropLineEnd_lead fun _ => literal_head stand, readLiteralLines_body (Nat.zero_le 2) tame stand clear.2,
      Option.map_some, String.ofList_toList]

end HeapSampler.Toml.Quoted

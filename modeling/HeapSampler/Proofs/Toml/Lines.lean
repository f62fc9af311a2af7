import HeapSampler.Proofs.Text.Decimal
import HeapSampler.Proofs.Toml.Quoted
import HeapSampler.Toml.Reader

/-!
# Documents line by line

What is written of strings, lists of strings and numbers is read back as the values (`value_string`,
`value_strings`, `value_digits`), and a document is read line by line: `Says` is what the reader makes of a text
with as many rounds as it may need, and each kind of line adds its statement to what the lines behind it say.
-/

namespace HeapSampler.Toml.Reader

open Toml.Quoted (Clear)

/-! ## Blanks -/

/-- Something else than a blank or a comment stands at the front of a text. -/
def Begins (cs : List Char) : Prop :=
  ∃ c rest, cs = c :: rest ∧ c ∉ [' ', '\t', '\n', '\r', '#']

theorem Begins.append {cs : List Char} (begins : Begins cs) (rest : List Char) : Begins (cs ++ rest) := by
  obtain ⟨c, cs, rfl, plain⟩ := begins
  exact ⟨c, cs ++ rest, rfl, plain⟩

theorem Begins.skipSpace {cs : List Char} (begins : Begins cs) : skipSpace cs = cs := by
  obtain ⟨c, cs, rfl, plain⟩ := begins
  have space : isSpace c = false := by
    simp only [List.mem_cons, not_or] at plain
    simp [isSpace, plain]
  rw [Reader.skipSpace, List.dropWhile_cons_of_neg (by simp [space])]

theorem Begins.skipLines {cs : List Char} (begins : Begins cs) (fuel : Nat) : skipLines fuel cs = some cs := by
  cases fuel with
  | zero => rfl
  | succ fuel =>
    rw [Reader.skipLines, begins.skipSpace]
    obtain ⟨c, cs, rfl, plain⟩ := begins
    simp only [List.mem_cons, not_or] at plain
    have line : lineEnd? (c :: cs) = none := by
      unfold lineEnd?
      split <;> simp_all
    split
    · simp_all
    · rw [line]

theorem skipLines_space (fuel : Nat) (cs : List Char) : skipLines (fuel + 1) (' ' :: cs) = skipLines (fuel + 1) cs :=
  rfl

theorem skipLines_newline (fuel : Nat) (cs : List Char) : skipLines (fuel + 1) ('\n' :: cs) = skipLines fuel cs :=
  rfl

/-- Spaces and line ends are skipped up to what begins behind them. -/
theorem skipLines_blank {blank cs : List Char} (blanks : ∀ c ∈ blank, c = ' ' ∨ c = '\n') (begins : Begins cs)
    {fuel : Nat} (enough : blank.length < fuel) : skipLines fuel (blank ++ cs) = some cs := by
  induction blank generalizing fuel with
  | nil => exact begins.skipLines fuel
  | cons c blank ih =>
    obtain ⟨here, behind⟩ := List.forall_mem_cons.1 blanks
    rw [List.length_cons] at enough
    obtain ⟨fuel, rfl⟩ : ∃ n, fuel = n + 1 := ⟨fuel - 1, by omega⟩
    rw [List.cons_append]
    rcases here with rfl | rfl
    · rw [skipLines_space]
      exact ih behind (by omega)
    · rw [skipLines_newline]
      exact ih behind (by omega)

theorem skipTrivia_blank {blank cs : List Char} (blanks : ∀ c ∈ blank, c = ' ' ∨ c = '\n') (begins : Begins cs) :
    skipTrivia (blank ++ cs) = some cs := by
  refine skipLines_blank blanks begins ?_
  obtain ⟨c, cs, rfl, -⟩ := begins
  simp

theorem Begins.skipTrivia {cs : List Char} (begins : Begins cs) : skipTrivia cs = some cs :=
  begins.skipLines cs.length

/-! ## Values -/

theorem string_head (s : String) :
    ∃ quote body, (Writer.string s).toList = quote :: body ∧ (quote = '"' ∨ quote = '\'') := by
  rw [Quoted.string_toList]
  cases Writer.style s.toList
  · exact ⟨_, _, rfl, .inl rfl⟩
  · exact ⟨_, _, rfl, .inr rfl⟩
  · exact ⟨_, _, rfl, .inl rfl⟩
  · exact ⟨_, _, rfl, .inr rfl⟩

theorem string_begins (s : String) : Begins (Writer.string s).toList := by
  obtain ⟨quote, body, split, rfl | rfl⟩ := string_head s
  · exact ⟨_, _, split, by decide⟩
  · exact ⟨_, _, split, by decide⟩

theorem value_quote (depth : Nat) {quote : Char} (quotes : quote = '"' ∨ quote = '\'') (cs : List Char) :
    value depth (quote :: cs) = (Quoted.read (quote :: cs)).map fun (s, r) => (.string s, r) := by
  rcases quotes with rfl | rfl
  all_goals
    rw [value.eq_def]
    simp

theorem value_string (depth : Nat) (s : String) {rest : List Char} (clear : Clear rest) :
    value depth ((Writer.string s).toList ++ rest) = some (.string s, rest) := by
  have read := Quoted.read_string s clear
  obtain ⟨quote, body, split, quotes⟩ := string_head s
  rw [split, List.cons_append] at read ⊢
  rw [value_quote depth quotes, read]
  rfl

theorem value_scalar (depth : Nat) {c : Char} (plain : c ∉ ['[', '\x7b', '"', '\'']) (cs : List Char) :
    value depth (c :: cs) = (Scalar.parse (Scalar.run (c :: cs)).1).map fun v => (v, (Scalar.run (c :: cs)).2) := by
  simp only [List.mem_cons, List.not_mem_nil, or_false, not_or] at plain
  rw [value.eq_def]
  simp [plain]

/-- Digits at the end of a line are the number that they denote. -/
theorem value_digits (depth : Nat) {n : Nat} (fits : Scalar.inRange n = true) (rest : List Char) :
    value depth (Decimal.digits n ++ '\n' :: rest) = some (.integer n, '\n' :: rest) := by
  have run : Scalar.run (Decimal.digits n ++ '\n' :: rest) = (Decimal.digits n, '\n' :: rest) := by
    have scalar : ∀ c ∈ Decimal.digits n, Scalar.isScalarChar c = true := Decimal.forall_digit (by decide)
    have first : (Decimal.digits n ++ '\n' :: rest).takeWhile Scalar.isScalarChar = Decimal.digits n := by
      rw [List.takeWhile_append_of_pos scalar, List.takeWhile_cons_of_neg (by decide), List.append_nil]
    rw [Scalar.run, first, List.drop_left]
    -- only behind a space could a date go on with a time
    split
    · next space => cases space
    · rfl
  have parse := Scalar.parse_digits fits
  have plain : ∀ c ∈ Decimal.digits n, c ∉ ['[', '\x7b', '"', '\''] := Decimal.forall_digit (by decide)
  cases split : Decimal.digits n with
  | nil => exact absurd split (Decimal.digits_ne_nil n)
  | cons c cs =>
    rw [split] at run parse plain
    rw [List.cons_append] at run ⊢
    rw [value_scalar depth (plain c List.mem_cons_self), run, parse]
    rfl

theorem digits_begins (n : Nat) : Begins (Decimal.digits n) := by
  have plain : ∀ c ∈ Decimal.digits n, c ∉ [' ', '\t', '\n', '\r', '#'] := Decimal.forall_digit (by decide)
  cases split : Decimal.digits n with
  | nil => exact absurd split (Decimal.digits_ne_nil n)
  | cons c cs => exact ⟨c, cs, rfl, plain c (split ▸ List.mem_cons_self)⟩

/-! ### Lists -/

/-- Nothing but a bracket behind blanks: the list ends. -/
theorem items_close (item : Reader Value) (fuel : Nat) {blank : List Char} (blanks : ∀ c ∈ blank, c = ' ' ∨ c = '\n')
    (rest : List Char) : items item (fuel + 1) (blank ++ ']' :: rest) = some ([], rest) := by
  have begins : Begins (']' :: rest) := ⟨_, _, rfl, by decide⟩
  rw [items, skipTrivia_blank blanks begins]
  rfl

/-- An item stands at the front of a text, behind blanks, and is read up to the rest. -/
def Item (item : Reader Value) (cs : List Char) (v : Value) (rest : List Char) : Prop :=
  ∃ c more, skipTrivia cs = some (c :: more) ∧ c ≠ ']' ∧ item (c :: more) = some (v, rest)

/-- With a comma right behind an item, the list goes on. -/
theorem Item.comma {item : Reader Value} {cs rest : List Char} {v : Value} (stands : Item item cs v (',' :: rest))
    (fuel : Nat) : items item (fuel + 1) cs = (items item fuel rest).map fun (vs, r) => (v :: vs, r) := by
  obtain ⟨c, more, skipped, goesOn, read⟩ := stands
  have comma : Begins (',' :: rest) := ⟨_, _, rfl, by decide⟩
  rw [items, skipped]
  simp only [Option.bind_eq_bind, Option.bind_some]
  split
  · next same => exact absurd (List.cons.inj same).1 goesOn
  · rw [read, Option.bind_some, comma.skipTrivia, Option.bind_some, Option.map_eq_bind]
    rfl

/-- With a bracket right behind an item, it is the last one. -/
theorem Item.last {item : Reader Value} {cs rest : List Char} {v : Value} (stands : Item item cs v (']' :: rest))
    (fuel : Nat) : items item (fuel + 1) cs = some ([v], rest) := by
  obtain ⟨c, more, skipped, goesOn, read⟩ := stands
  have bracket : Begins (']' :: rest) := ⟨_, _, rfl, by decide⟩
  rw [items, skipped]
  simp only [Option.bind_eq_bind, Option.bind_some]
  split
  · next same => exact absurd (List.cons.inj same).1 goesOn
  · rw [read, Option.bind_some, bracket.skipTrivia]
    rfl

/-- A string is an item. -/
theorem item_string (depth : Nat) {blank : List Char} (blanks : ∀ c ∈ blank, c = ' ' ∨ c = '\n') (s : String)
    {rest : List Char} (clear : Clear rest) :
    Item (value depth) (blank ++ ((Writer.string s).toList ++ rest)) (.string s) rest := by
  have read := value_string depth s clear
  have skipped := skipTrivia_blank blanks ((string_begins s).append rest)
  obtain ⟨quote, body, split, quotes⟩ := string_head s
  rw [split, List.cons_append] at read skipped ⊢
  refine ⟨quote, body ++ rest, skipped, ?_, read⟩
  rcases quotes with rfl | rfl <;> decide

/-- A string of a list as it stands on a line of its own, behind the end of the line before. -/
def itemLine (s : String) : List Char :=
  "    ".toList ++ (Writer.string s).toList ++ [',', '\n']

/-- The strings of a list, each on a line of its own. -/
theorem items_lines (depth : Nat) (ss : List String) (rest : List Char) {fuel : Nat} (enough : ss.length < fuel) :
    items (value depth) fuel ('\n' :: (ss.flatMap itemLine ++ ']' :: rest)) = some (ss.map .string, rest) := by
  induction ss generalizing fuel with
  | nil =>
    obtain ⟨fuel, rfl⟩ : ∃ n, fuel = n + 1 := ⟨fuel - 1, by omega⟩
    exact items_close (value depth) fuel (show ∀ c ∈ ['\n'], c = ' ' ∨ c = '\n' by simp) rest
  | cons s ss ih =>
    rw [List.length_cons] at enough
    obtain ⟨fuel, rfl⟩ : ∃ n, fuel = n + 1 := ⟨fuel - 1, by omega⟩
    have behind : Clear (',' :: '\n' :: (ss.flatMap itemLine ++ ']' :: rest)) := by simp [Clear]
    have stands := item_string depth (show ∀ c ∈ '\n' :: "    ".toList, c = ' ' ∨ c = '\n' by simp) s behind
    have layout : '\n' :: ((s :: ss).flatMap itemLine ++ ']' :: rest) =
        '\n' :: "    ".toList ++ ((Writer.string s).toList ++ ',' :: '\n' :: (ss.flatMap itemLine ++ ']' :: rest)) := by
      simp [itemLine]
    rw [layout, stands.comma, ih (by omega)]
    rfl

theorem strings_toList (s t : String) (ss : List String) : (Writer.strings (s :: t :: ss)).toList =
    '[' :: '\n' :: ((s :: t :: ss).flatMap itemLine ++ [']']) := by
  have line (s : String) : ("    " ++ Writer.string s ++ ",\n").toList = itemLine s := by
    simp [itemLine]
  have lines (ss : List String) :
      (String.join (ss.map fun s => "    " ++ Writer.string s ++ ",\n")).toList = ss.flatMap itemLine := by
    rw [String.toList_join, List.flatMap_map]
    simp only [line]
  have written : Writer.strings (s :: t :: ss) =
      "[\n" ++ String.join ((s :: t :: ss).map fun s => "    " ++ Writer.string s ++ ",\n") ++ "]" := rfl
  rw [written, String.toList_append, String.toList_append, lines]
  rfl

theorem strings_head (ss : List String) : ∃ more, (Writer.strings ss).toList = '[' :: more := by
  match ss with
  | [] => exact ⟨_, rfl⟩
  | [s] => exact ⟨(Writer.string s).toList ++ [']'], by simp [Writer.strings]⟩
  | s :: t :: ss => exact ⟨_, strings_toList s t ss⟩

theorem length_le_flatMap_itemLine (ss : List String) : ss.length ≤ (ss.flatMap itemLine).length := by
  induction ss with
  | nil => simp
  | cons s ss ih =>
    rw [List.flatMap_cons, List.length_append, List.length_cons]
    have line : 1 ≤ (itemLine s).length := by simp [itemLine]
    omega

/-- A list of strings is read back from the form it is written in. -/
theorem value_strings (depth : Nat) (ss : List String) (rest : List Char) :
    value (depth + 1) ((Writer.strings ss).toList ++ rest) = some (.array (ss.map .string), rest) := by
  have opened (cs : List Char) : value (depth + 1) ('[' :: cs) =
      (items (value depth) (cs.length + 1) cs).map fun (vs, r) => (.array vs, r) := by
    rw [value.eq_def]
    rfl
  match ss with
  | [] =>
    have close (fuel : Nat) := items_close (value depth) fuel (show ∀ c ∈ [], c = ' ' ∨ c = '\n' by simp) rest
    have layout : (Writer.strings []).toList ++ rest = '[' :: ([] ++ ']' :: rest) := rfl
    rw [layout, opened, close]
    rfl
  | [s] =>
    have layout : (Writer.strings [s]).toList ++ rest = '[' :: ([] ++ ((Writer.string s).toList ++ ']' :: rest)) := by
      simp [Writer.strings]
    have behind : Clear (']' :: rest) := by simp [Clear]
    have stands := item_string depth (show ∀ c ∈ [], c = ' ' ∨ c = '\n' by simp) s behind
    rw [layout, opened, stands.last]
    rfl
  | s :: t :: ss =>
    have enough := length_le_flatMap_itemLine (s :: t :: ss)
    rw [strings_toList, List.cons_append, List.cons_append, List.append_assoc, opened, List.singleton_append,
      items_lines depth]
    · rfl
    · simp only [List.length_cons, List.length_append] at enough ⊢
      omega

/-! ## Keys -/

/-- A name that may stand as a key without quotes. -/
def Bare (n : String) : Prop :=
  n.toList ≠ [] ∧ n.toList.all isBare = true

instance (n : String) : Decidable (Bare n) :=
  inferInstanceAs (Decidable (_ ∧ _))

theorem Bare.head {n : String} (bare : Bare n) : ∃ c more, n.toList = c :: more ∧ isBare c = true := by
  obtain ⟨nonempty, all⟩ := bare
  obtain ⟨c, more, split⟩ := List.exists_cons_of_ne_nil nonempty
  exact ⟨c, more, split, List.all_eq_true.1 all c (split ▸ List.mem_cons_self)⟩

/-- A character of a bare key is no blank, and opens neither a comment, a string nor a header. -/
theorem isBare_plain {c : Char} (bare : isBare c = true) :
    c ∉ [' ', '\t', '\n', '\r', '#'] ∧ c ∉ ['"', '\'', '['] := by
  constructor <;> intro found <;> simp only [List.mem_cons, List.not_mem_nil, or_false] at found
  · rcases found with rfl | rfl | rfl | rfl | rfl <;> exact absurd bare (by decide)
  · rcases found with rfl | rfl | rfl <;> exact absurd bare (by decide)

theorem Bare.begins {n : String} (bare : Bare n) (rest : List Char) : Begins (n.toList ++ rest) := by
  obtain ⟨c, more, split, here⟩ := bare.head
  exact ⟨c, more ++ rest, by rw [split]; rfl, (isBare_plain here).1⟩

/-- A bare name is read up to what cannot belong to it. -/
theorem name_bare {n : String} (bare : Bare n) {rest : List Char} (stop : ∀ c, rest.head? = some c → isBare c = false) :
    name (n.toList ++ rest) = some (n, rest) := by
  have run : (n.toList ++ rest).takeWhile isBare = n.toList := by
    rw [List.takeWhile_append_of_pos (List.all_eq_true.1 bare.2)]
    cases rest with
    | nil => simp
    | cons c rest => rw [List.takeWhile_cons_of_neg (by simp [stop c rfl]), List.append_nil]
  have unquoted : Quoted.readKey (n.toList ++ rest) = none := by
    obtain ⟨c, more, split, here⟩ := bare.head
    have plain := (isBare_plain here).2
    rw [split, List.cons_append]
    unfold Quoted.readKey
    split <;> simp_all
  have nonempty : n.toList.isEmpty = false := by simpa using bare.1
  rw [name, unquoted]
  dsimp only
  rw [run, nonempty, List.drop_left, String.ofList_toList]
  rfl

/-- A bare name is a key, if no dot follows it. -/
theorem key_bare {n : String} (bare : Bare n) {rest behind : List Char}
    (stop : ∀ c, rest.head? = some c → isBare c = false) (skipped : skipSpace rest = behind) (begins : Begins behind)
    (dotless : behind.head? ≠ some '.') : key (n.toList ++ rest) = some (([], n), behind) := by
  have more : moreNames rest.length rest = some ([], behind) := by
    cases rest with
    | nil =>
      cases skipped
      rfl
    | cons c rest =>
      rw [List.length_cons, moreNames, skipped]
      split
      · next dot => exact absurd rfl dotless
      · rfl
  rw [key, (bare.begins rest).skipSpace]
  simp only [name_bare bare stop, more, Option.bind_eq_bind, Option.bind_some]
  rw [if_neg (by simp [maxDepth]), begins.skipSpace]
  rfl

/-! ## Lines -/

theorem header_bare {n : String} (bare : Bare n) (rest : List Char) :
    header (n.toList ++ ']' :: rest) = some (.table [] n, rest) := by
  have bracket : Begins (']' :: rest) := ⟨_, _, rfl, by decide⟩
  have read := key_bare bare (by simp [isBare]) bracket.skipSpace bracket (by simp)
  obtain ⟨c, more, split, here⟩ := bare.head
  have plain := (isBare_plain here).2
  rw [split, List.cons_append] at read ⊢
  unfold header
  split
  · simp_all
  · rw [read]
    rfl

/-- A text is read as a value at the end of a line. -/
structure Reads (text : String) (v : Value) : Prop where
  begins : Begins text.toList
  value : ∀ rest, value maxDepth (text.toList ++ '\n' :: rest) = some (v, '\n' :: rest)

theorem reads_string (s : String) : Reads (Writer.string s) (.string s) where
  begins := string_begins s
  value rest := value_string maxDepth s (by simp [Clear])

theorem reads_strings (ss : List String) : Reads (Writer.strings ss) (.array (ss.map .string)) where
  begins := by
    obtain ⟨more, split⟩ := strings_head ss
    exact ⟨'[', more, split, by decide⟩
  value rest := value_strings 79 ss ('\n' :: rest)

theorem reads_number {n : Nat} (fits : Scalar.inRange n = true) : Reads (Decimal.text n) (.integer n) where
  begins := by
    rw [Decimal.text, String.toList_ofList]
    exact digits_begins n
  value rest := by
    rw [Decimal.text, String.toList_ofList]
    exact value_digits maxDepth fits rest

theorem assignment_bare {n text : String} {v : Value} (bare : Bare n) (reads : Reads text v) (rest : List Char) :
    assignment (n.toList ++ ' ' :: '=' :: ' ' :: (text.toList ++ '\n' :: rest)) =
      some (.assign [] n v, '\n' :: rest) := by
  have equals : Begins ('=' :: ' ' :: (text.toList ++ '\n' :: rest)) := ⟨_, _, rfl, by decide⟩
  have gap : skipSpace (' ' :: '=' :: ' ' :: (text.toList ++ '\n' :: rest)) =
      '=' :: ' ' :: (text.toList ++ '\n' :: rest) :=
    rfl
  have read := key_bare bare (by simp [isBare]) gap equals (by simp)
  have skipped : skipSpace (' ' :: (text.toList ++ '\n' :: rest)) = text.toList ++ '\n' :: rest :=
    (reads.begins.append ('\n' :: rest)).skipSpace
  simp only [assignment, read, Option.bind_eq_bind, Option.bind_some, skipped, reads.value, Option.pure_def]

/-- A text is read as statements, with as many rounds as there may be lines. -/
def Says (cs : List Char) (statements : List Statement) : Prop :=
  ∀ fuel, cs.length < fuel → document fuel cs = some statements

theorem Says.nil : Says [] [] := by
  intro fuel enough
  obtain ⟨fuel, rfl⟩ : ∃ n, fuel = n + 1 := ⟨fuel - 1, by simp at enough; omega⟩
  rfl

/-- An empty line says nothing. -/
theorem Says.emptyLine {cs : List Char} {statements : List Statement} (behind : Says cs statements) :
    Says ('\n' :: cs) statements := by
  intro fuel enough
  rw [List.length_cons] at enough
  have same : document fuel ('\n' :: cs) = document fuel cs := by
    cases fuel with
    | zero => omega
    | succ fuel => rfl
  rw [same]
  exact behind fuel (by omega)

/-- A line in brackets is read as a header. -/
theorem document_header {more cs : List Char} {statement : Statement}
    (read : header more = some (statement, '\n' :: cs)) (fuel : Nat) :
    document (fuel + 1) ('[' :: more) = (document fuel cs).map (statement :: ·) := by
  have begins : Begins ('[' :: more) := ⟨_, _, rfl, by decide⟩
  have finish : finishLine ('\n' :: cs) = some cs := rfl
  rw [document, begins.skipTrivia]
  simp only [Option.bind_eq_bind, Option.bind_some, read, finish, Option.map_eq_bind]
  rfl

/-- Any other line is read as an assignment. -/
theorem document_assignment {c : Char} {more cs : List Char} {statement : Statement} (begins : Begins (c :: more))
    (bracket : c ≠ '[') (read : assignment (c :: more) = some (statement, '\n' :: cs)) (fuel : Nat) :
    document (fuel + 1) (c :: more) = (document fuel cs).map (statement :: ·) := by
  have finish : finishLine ('\n' :: cs) = some cs := rfl
  rw [document, begins.skipTrivia]
  simp only [Option.bind_eq_bind, Option.bind_some, Option.map_eq_bind]
  split
  · next same => exact absurd (List.cons.inj same).1 bracket
  · rw [read, Option.bind_some, finish]
    rfl

theorem Says.table {n : String} (bare : Bare n) {cs : List Char} {statements : List Statement}
    (behind : Says cs statements) : Says ('[' :: (n.toList ++ ']' :: '\n' :: cs)) (.table [] n :: statements) := by
  intro fuel enough
  simp only [List.length_cons, List.length_append] at enough
  obtain ⟨fuel, rfl⟩ : ∃ n, fuel = n + 1 := ⟨fuel - 1, by omega⟩
  rw [document_header (header_bare bare ('\n' :: cs)), behind fuel (by omega)]
  rfl

theorem Says.assign {n text : String} {v : Value} (bare : Bare n) (reads : Reads text v) {cs : List Char}
    {statements : List Statement} (behind : Says cs statements) :
    Says (n.toList ++ ' ' :: '=' :: ' ' :: (text.toList ++ '\n' :: cs)) (.assign [] n v :: statements) := by
  intro fuel enough
  have read := assignment_bare bare reads cs
  have begins := bare.begins (' ' :: '=' :: ' ' :: (text.toList ++ '\n' :: cs))
  simp only [List.length_cons, List.length_append] at enough
  obtain ⟨c, more, split, here⟩ := bare.head
  obtain ⟨fuel, rfl⟩ : ∃ n, fuel = n + 1 := ⟨fuel - 1, by omega⟩
  rw [split, List.cons_append] at read begins ⊢
  have bracket : c ≠ '[' := fun same => (isBare_plain here).2 (by simp [same])
  rw [document_assignment begins bracket read, behind fuel (by omega)]
  rfl

/-- A document that says so is read so, unless it begins with a byte order mark. -/
theorem Says.statements? {text : String} {statements : List Statement} (all : Says text.toList statements)
    (unmarked : text.toList.head? ≠ some '\uFEFF') : statements? text = some statements := by
  unfold Toml.statements?
  split
  · next mark => exact absurd (by rw [mark]; rfl) unmarked
  · exact all _ (Nat.lt_succ_self _)

end HeapSampler.Toml.Reader

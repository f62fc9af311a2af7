import HeapSampler.Proofs.Toml.Lines
import HeapSampler.Proofs.Toml.Merge

/-!
# Tables written out and read again

A document of tables whose values are strings, lists of strings and numbers is read as those tables, in their
order, if no heading and no key of a table stands twice (`parse?_texts`).
-/

namespace HeapSampler.Toml

open Reader (Bare Reads Says)

/-- A value that is written on its own: a string, a list of strings or a number. -/
inductive Plain where
  | string (s : String)
  | strings (ss : List String)
  | number (n : Nat)

namespace Plain

/-- A value as it is written. -/
def text : Plain → String
  | .string s => Writer.string s
  | .strings ss => Writer.strings ss
  | .number n => Decimal.text n

/-- A value as it is read. -/
def value : Plain → Value
  | .string s => .string s
  | .strings ss => .array (ss.map .string)
  | .number n => .integer n

/-- A number is small enough to be read again. -/
def Fits : Plain → Prop
  | .number n => Scalar.inRange n = true
  | _ => True

theorem reads {v : Plain} (fits : v.Fits) : Reads v.text v.value := by
  cases v with
  | string s => exact Reader.reads_string s
  | strings ss => exact Reader.reads_strings ss
  | number n => exact Reader.reads_number fits

end Plain

/-- A table: its heading, and its keys with their values. -/
structure Table where
  heading : String
  fields : List (String × Plain)

namespace Table

/-- A key with its value as they are written on a line. -/
def line (field : String × Plain) : String :=
  field.1 ++ " = " ++ field.2.text ++ "\n"

/-- A table as it is written. -/
def text (t : Table) : String :=
  "[" ++ t.heading ++ "]\n" ++ String.join (t.fields.map line)

/-- Tables as they are written, with an empty line between two. -/
def texts : List Table → String
  | [] => ""
  | [t] => t.text
  | t :: ts => t.text ++ "\n" ++ texts ts

/-- The statements of a table. -/
def statements (t : Table) : List Statement :=
  .table [] t.heading :: t.fields.map fun field => .assign [] field.1 field.2.value

/-- What a table holds. -/
def entries (t : Table) : Entries :=
  t.fields.map fun field => (field.1, .value field.2.value)

/-- The document that tables make behind so many headers. -/
def document (headers : Nat) : List Table → Entries
  | [] => []
  | t :: ts => (t.heading, .table (.headed (headers + 1)) t.entries) :: document (headers + 1) ts

/-- A table can be written so that it is read again. -/
structure Sound (t : Table) : Prop where
  heading : Bare t.heading
  keys : ∀ field ∈ t.fields, Bare field.1
  fits : ∀ field ∈ t.fields, field.2.Fits
  distinct : (t.fields.map Prod.fst).Nodup

/-! ## Read as statements -/

theorem says_line {field : String × Plain} (bare : Bare field.1) (fits : field.2.Fits) {cs : List Char}
    {statements : List Statement} (behind : Says cs statements) :
    Says ((line field).toList ++ cs) (.assign [] field.1 field.2.value :: statements) := by
  have layout : (line field).toList ++ cs =
      field.1.toList ++ ' ' :: '=' :: ' ' :: (field.2.text.toList ++ '\n' :: cs) := by
    simp [line]
  rw [layout]
  exact behind.assign bare (Plain.reads fits)

theorem says_lines {fields : List (String × Plain)} (keys : ∀ field ∈ fields, Bare field.1)
    (fits : ∀ field ∈ fields, field.2.Fits) {cs : List Char} {statements : List Statement}
    (behind : Says cs statements) :
    Says ((String.join (fields.map line)).toList ++ cs)
      ((fields.map fun field => .assign [] field.1 field.2.value) ++ statements) := by
  induction fields with
  | nil => simpa using behind
  | cons field fields ih =>
    obtain ⟨bare, others⟩ := List.forall_mem_cons.1 keys
    obtain ⟨fit, fitting⟩ := List.forall_mem_cons.1 fits
    rw [List.map_cons, String.join_cons, String.toList_append, List.append_assoc]
    exact says_line bare fit (ih others fitting)

theorem Sound.says_text {t : Table} (sound : t.Sound) {cs : List Char} {statements : List Statement}
    (behind : Says cs statements) : Says (t.text.toList ++ cs) (t.statements ++ statements) := by
  have layout : t.text.toList ++ cs =
      '[' :: (t.heading.toList ++ ']' :: '\n' :: ((String.join (t.fields.map line)).toList ++ cs)) := by
    simp [text]
  rw [layout]
  exact (says_lines sound.keys sound.fits behind).table sound.heading

theorem says_texts {ts : List Table} (sound : ∀ t ∈ ts, t.Sound) : Says (texts ts).toList (ts.flatMap statements) := by
  match ts with
  | [] => exact .nil
  | [t] =>
    have all := (sound t List.mem_cons_self).says_text .nil
    simpa [texts] using all
  | t :: u :: ts =>
    obtain ⟨first, others⟩ := List.forall_mem_cons.1 sound
    rw [texts, String.toList_append, String.toList_append, List.append_assoc]
    · exact first.says_text (says_texts others).emptyLine
    · simp

end Table

/-! ## Made into a document -/

namespace Entries

variable {key : String} {item old : Item} {es before : Entries}

/-- A table of values only. -/
def OfValues (es : Entries) : Prop :=
  ∀ entry ∈ es, ∃ v, entry.2 = .value v

/-- The statements of a heading with a table of values. -/
def statements (t : String × Entries) : List Statement :=
  .table [] t.1 :: assignments [] t.2

/-- Headings with tables of values as they stand behind so many headers. -/
def numbered (headers : Nat) : List (String × Entries) → Entries
  | [] => []
  | t :: ts => (t.1, .table (.headed (headers + 1)) t.2) :: numbered (headers + 1) ts

theorem put_of_fresh (fresh : key ∉ es.map Prod.fst) : es.put key item = es ++ [(key, item)] := by
  induction es with
  | nil => rfl
  | cons entry es ih =>
    rw [List.map_cons, List.mem_cons, not_or] at fresh
    rw [put, if_neg (Ne.symm fresh.1), ih fresh.2]
    rfl

theorem lookup_last (fresh : key ∉ before.map Prod.fst) : (before ++ [(key, item)]).lookup key = some item := by
  rw [← put_of_fresh fresh, lookup_put, if_pos rfl]

theorem put_last (fresh : key ∉ before.map Prod.fst) :
    put (before ++ [(key, old)]) key item = before ++ [(key, item)] := by
  induction before with
  | nil => simp [put]
  | cons entry before ih =>
    rw [List.map_cons, List.mem_cons, not_or] at fresh
    rw [List.cons_append, put, if_neg (Ne.symm fresh.1), ih fresh.2]
    rfl

end Entries

namespace Table

theorem entries_keys (t : Table) : t.entries.map Prod.fst = t.fields.map Prod.fst := by
  rw [entries, List.map_map]
  rfl

theorem entries_ofValues (t : Table) : t.entries.OfValues := by
  intro entry found
  obtain ⟨field, -, rfl⟩ := List.mem_map.1 found
  exact ⟨_, rfl⟩

/-- The table as a heading with what it holds. -/
def headed (t : Table) : String × Entries :=
  (t.heading, t.entries)

theorem statements_eq (t : Table) : t.statements = Entries.statements t.headed := by
  rw [statements, Entries.statements, headed, entries]
  congr 1
  induction t.fields with
  | nil => rfl
  | cons field fields ih => exact congrArg (_ :: ·) ih

theorem document_eq (headers : Nat) (ts : List Table) :
    document headers ts = Entries.numbered headers (ts.map headed) := by
  induction ts generalizing headers with
  | nil => rfl
  | cons t ts ih => exact congrArg (_ :: ·) (ih (headers + 1))

end Table

namespace Builder

variable {before : Entries} {heading : String} {headers : Nat}

/-- A header that is new opens a table at the end. -/
theorem take_table (fresh : heading ∉ before.map Prod.fst) (current : List String) :
    take ⟨before, current, headers⟩ (.table [] heading) =
      some ⟨before ++ [(heading, .table (.headed (headers + 1)) [])], [heading], headers + 1⟩ := by
  simp [take, Entries.atPath, Entries.openTable, Entries.lookup_of_fresh fresh, Entries.put_of_fresh fresh]

/-- A key that is new adds its value at the end of the table that is open. -/
theorem take_assign {form : Form} {inner : Entries} {key : String} (here : heading ∉ before.map Prod.fst)
    (fresh : key ∉ inner.map Prod.fst) (v : Value) :
    take ⟨before ++ [(heading, .table form inner)], [heading], headers⟩ (.assign [] key v) =
      some ⟨before ++ [(heading, .table form (inner ++ [(key, .value v)]))], [heading], headers⟩ := by
  simp [take, Entries.atPath, Entries.assign, Entries.lookup_last here, Entries.put_last here,
    Entries.lookup_of_fresh fresh, Entries.put_of_fresh fresh]

theorem not_mem_of_nodup {names more : List String} {name : String} (distinct : (names ++ name :: more).Nodup) :
    name ∉ names :=
  fun found => (List.nodup_append.1 distinct).2.2 name found name List.mem_cons_self rfl

/-- Where one key that is new adds its value at the end of some table, so do several. -/
theorem takes_values {path current : List String} {whole : Entries → Entries}
    (one : ∀ (inner : Entries) (key : String) (v : Value), key ∉ inner.map Prod.fst →
      take ⟨whole inner, current, headers⟩ (.assign path key v) =
        some ⟨whole (inner ++ [(key, .value v)]), current, headers⟩)
    {inner more : Entries} (values : more.OfValues) (distinct : (inner.map Prod.fst ++ more.map Prod.fst).Nodup) :
    (Entries.assignments path more).foldlM take ⟨whole inner, current, headers⟩ =
      some ⟨whole (inner ++ more), current, headers⟩ := by
  induction more generalizing inner with
  | nil => simp [Entries.assignments]
  | cons entry more ih =>
    obtain ⟨key, item⟩ := entry
    obtain ⟨⟨v, rfl⟩, others⟩ := List.forall_mem_cons.1 values
    have rest : ((inner ++ [(key, Item.value v)]).map Prod.fst ++ more.map Prod.fst).Nodup := by
      rwa [List.map_append, List.append_assoc]
    rw [Entries.assignments, Item.assignments, List.singleton_append, List.foldlM_cons,
      one inner key v (not_mem_of_nodup distinct)]
    refine (ih others rest).trans ?_
    rw [List.append_assoc]
    rfl

/-- Keys fill the table that is open. -/
theorem fills_table {form : Form} {more : Entries} (here : heading ∉ before.map Prod.fst) (values : more.OfValues)
    (distinct : (more.map Prod.fst).Nodup) :
    (Entries.assignments [] more).foldlM take ⟨before ++ [(heading, .table form [])], [heading], headers⟩ =
      some ⟨before ++ [(heading, .table form more)], [heading], headers⟩ :=
  takes_values (fun _ _ v fresh => take_assign here fresh v) values distinct

/-- Headings that are new add their tables at the end. -/
theorem takes_headed {current : List String} {ts : List (String × Entries)} (values : ∀ t ∈ ts, t.2.OfValues)
    (keys : ∀ t ∈ ts, (t.2.map Prod.fst).Nodup) (distinct : (before.map Prod.fst ++ ts.map Prod.fst).Nodup) :
    ∃ b, (ts.flatMap Entries.statements).foldlM take ⟨before, current, headers⟩ = some b ∧
      b.root = before ++ Entries.numbered headers ts := by
  induction ts generalizing before current headers with
  | nil => exact ⟨_, rfl, (List.append_nil before).symm⟩
  | cons t ts ih =>
    rw [List.forall_mem_cons] at values keys
    rw [List.map_cons] at distinct
    have here := not_mem_of_nodup distinct
    have more : ((before ++ [(t.1, Item.table (.headed (headers + 1)) t.2)]).map Prod.fst ++
        ts.map Prod.fst).Nodup := by
      rwa [List.map_append, List.append_assoc]
    obtain ⟨b, taken, root⟩ := ih values.2 keys.2 more
    refine ⟨b, ?_, by rw [root, List.append_assoc]; rfl⟩
    rw [List.flatMap_cons, List.foldlM_append, Entries.statements, List.foldlM_cons, take_table here,
      Option.bind_eq_bind, Option.bind_some, fills_table here values.1 keys.1]
    exact taken

/-- Tables with new headings are added at the end. -/
theorem takes_tables {current : List String} {ts : List Table} (sound : ∀ t ∈ ts, t.Sound)
    (distinct : (before.map Prod.fst ++ ts.map Table.heading).Nodup) :
    ∃ b, (ts.flatMap Table.statements).foldlM take ⟨before, current, headers⟩ = some b ∧
      b.root = before ++ Table.document headers ts := by
  have keys : ∀ t ∈ ts.map Table.headed, (t.2.map Prod.fst).Nodup := by
    intro _ found
    obtain ⟨t, listed, rfl⟩ := List.mem_map.1 found
    exact t.entries_keys ▸ (sound t listed).distinct
  have values : ∀ t ∈ ts.map Table.headed, t.2.OfValues := by
    intro t found
    obtain ⟨t, -, rfl⟩ := List.mem_map.1 found
    exact t.entries_ofValues
  have headings : (before.map Prod.fst ++ (ts.map Table.headed).map Prod.fst).Nodup := by
    rwa [List.map_map]
  have written : ts.flatMap Table.statements = (ts.map Table.headed).flatMap Entries.statements := by
    rw [List.flatMap_map]
    exact congrArg (ts.flatMap ·) (funext Table.statements_eq)
  rw [written, Table.document_eq]
  exact takes_headed values keys headings

end Builder

/-- **Tables that are written out are read again**, in their order, if no heading stands twice. -/
theorem Table.parse?_texts {ts : List Table} (sound : ∀ t ∈ ts, t.Sound) (distinct : (ts.map Table.heading).Nodup) :
    Entries.parse? (texts ts) = some (document 0 ts) := by
  have unmarked : (texts ts).toList.head? ≠ some '\uFEFF' := by
    match ts with
    | [] => simp [texts]
    | [t] => simp [texts, text]
    | t :: u :: ts => simp [texts, text]
  have read := (says_texts sound).statements? unmarked
  have start : ((([] : Entries).map Prod.fst) ++ ts.map Table.heading).Nodup := distinct
  obtain ⟨b, taken, root⟩ := Builder.takes_tables sound start
  rw [Entries.parse?, read, Option.bind_eq_bind, Option.bind_some, Entries.ofStatements?, taken]
  exact congrArg some root

/-! ## What the document says -/

/-- What stands once in a table is found in it. -/
theorem Entries.lookup_of_mem {es : Entries} {key : String} {item : Item} (distinct : (es.map Prod.fst).Nodup)
    (found : (key, item) ∈ es) : es.lookup key = some item := by
  induction es with
  | nil => cases found
  | cons entry es ih =>
    obtain ⟨name, other⟩ := entry
    obtain ⟨fresh, distinct⟩ := List.nodup_cons.1 distinct
    rcases List.mem_cons.1 found with same | behind
    · cases same
      exact List.lookup_cons_self
    · have differs : key ≠ name := by
        rintro rfl
        exact fresh (List.mem_map.2 ⟨(key, item), behind, rfl⟩)
      rw [List.lookup_cons, beq_eq_false_iff_ne.2 differs]
      exact ih distinct behind

namespace Table

/-- The document says of a key in a table what the table has there. -/
theorem kindAt_document {ts : List Table} (distinct : (ts.map heading).Nodup) {t : Table} (found : t ∈ ts)
    (keys : (t.fields.map Prod.fst).Nodup) {field : String × Plain} (here : field ∈ t.fields) (headers : Nat) :
    Entries.kindAt [t.heading, field.1] (document headers ts) = some (.value field.2.value) := by
  induction ts generalizing headers with
  | nil => cases found
  | cons u ts ih =>
    obtain ⟨fresh, distinct⟩ := List.nodup_cons.1 distinct
    rw [document, Entries.kindAt_cons_table]
    rcases List.mem_cons.1 found with rfl | behind
    · have entry : (field.1, Item.value field.2.value) ∈ t.entries := List.mem_map_of_mem here
      have once : (t.entries.map Prod.fst).Nodup := t.entries_keys ▸ keys
      rw [if_pos rfl, Entries.kindAt_single, Entries.lookup_of_mem once entry]
      rfl
    · have differs : t.heading ≠ u.heading := fun same => fresh (same ▸ List.mem_map_of_mem behind)
      rw [if_neg differs]
      exact ih distinct behind (headers + 1)

/-- Under a heading there is a table or nothing. -/
theorem tableOrNone_document (name : String) (headers : Nat) (ts : List Table) :
    Entries.TableOrNone name (document headers ts) := by
  induction ts generalizing headers with
  | nil => exact .inl rfl
  | cons t ts ih =>
    rw [Entries.TableOrNone, document, List.lookup_cons]
    cases name == t.heading with
    | true => exact .inr ⟨_, _, rfl⟩
    | false => exact ih (headers + 1)

end Table

end HeapSampler.Toml

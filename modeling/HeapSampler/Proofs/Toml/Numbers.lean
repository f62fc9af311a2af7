import HeapSampler.Proofs.Toml.Building

/-!
# The numbers of a document

The whole numbers that a document can say are signed 64-bit numbers, however deep in arrays and inline tables they
stand: this holds of every value that is read (`Value.Sized`), of everything that dotted keys and headers make of
values (`Item.Sized`), and so of the whole document (`Entries.parse?_sized`).
-/

namespace HeapSampler.Toml

/-! ## Values -/

/-- All whole numbers in a value are signed 64-bit numbers. -/
inductive Value.Sized : Value → Prop where
  | string (text : String) : Sized (.string text)
  | integer {n : Int} (fits : Scalar.inRange n = true) : Sized (.integer n)
  | float (text : String) : Sized (.float text)
  | boolean (b : Bool) : Sized (.boolean b)
  | dateTime (text : String) : Sized (.dateTime text)
  | array {items : List Value} (all : ∀ v ∈ items, Sized v) : Sized (.array items)
  | inlineTable {fields : List (String × Value)} (all : ∀ p ∈ fields, Sized p.2) : Sized (.inlineTable fields)

theorem Scalar.inBase?_inRange {base : Nat} {cs : List Char} {n : Int} (read : inBase? base cs = some n) :
    inRange n = true := by
  obtain ⟨digits, -, read⟩ := Option.bind_eq_some_iff.1 read
  obtain ⟨m, -, read⟩ := Option.bind_eq_some_iff.1 read
  split at read
  next fits =>
    cases read
    exact fits
  next => cases read

theorem Scalar.integer?_inRange {cs : List Char} {n : Int} (read : integer? cs = some n) : inRange n = true := by
  unfold integer? at read
  split at read
  · exact inBase?_inRange read
  · exact inBase?_inRange read
  · exact inBase?_inRange read
  · rcases signed : sign cs with ⟨negative, unsigned⟩
    rw [signed] at read
    obtain ⟨digits, -, read⟩ := Option.bind_eq_some_iff.1 read
    obtain ⟨m, -, read⟩ := Option.bind_eq_some_iff.1 read
    dsimp only at read
    generalize (if negative = true then -(m : Int) else m) = value at read
    split at read
    next fits =>
      cases read
      exact (Bool.and_eq_true_iff.1 fits).2
    next => cases read

theorem Scalar.parse_sized {cs : List Char} {v : Value} (read : parse cs = some v) : v.Sized := by
  unfold parse at read
  split at read
  · cases read
    exact .boolean true
  split at read
  · cases read
    exact .boolean false
  split at read
  · cases read
    exact .dateTime _
  split at read
  next n number =>
    cases read
    exact .integer (integer?_inRange number)
  next =>
    split at read
    · cases read
      exact .float _
    · cases read

namespace Reader

/-- The reader reads sized values only. -/
def ReadsSized (item : Reader Value) : Prop :=
  ∀ cs v rest, item cs = some (v, rest) → v.Sized

theorem items_sized {item : Reader Value} (sized : ReadsSized item) {fuel : Nat} {cs rest : List Char} {vs : List Value}
    (read : items item fuel cs = some (vs, rest)) : ∀ v ∈ vs, v.Sized := by
  induction fuel generalizing cs rest vs with
  | zero => cases read
  | succ fuel ih =>
    rw [items] at read
    obtain ⟨cs', -, read⟩ := Option.bind_eq_some_iff.1 read
    split at read
    · cases read
      simp
    obtain ⟨⟨v, behind⟩, first, read⟩ := Option.bind_eq_some_iff.1 read
    obtain ⟨behind', -, read⟩ := Option.bind_eq_some_iff.1 read
    have here : v.Sized := sized _ _ _ first
    split at read
    · obtain ⟨⟨others, last⟩, more, read⟩ := Option.bind_eq_some_iff.1 read
      cases read
      intro other found
      rcases List.mem_cons.1 found with rfl | found
      · exact here
      · exact ih more other found
    · cases read
      intro other found
      exact List.mem_singleton.1 found ▸ here
    · cases read

/-! ### Inline tables -/

/-- All whole numbers in a field under construction are signed 64-bit numbers. -/
inductive Field.Sized : Field → Prop where
  | given {v : Value} (sized : v.Sized) : Sized (.given v)
  | filled {fields : List (String × Field)} (all : ∀ p ∈ fields, Sized p.2) : Sized (.filled fields)

theorem values_eq (fields : List (String × Field)) : values fields = fields.map fun p => (p.1, p.2.value) := by
  induction fields with
  | nil => rfl
  | cons p rest ih => rw [values, ih, List.map_cons]

theorem Field.Sized.value {f : Field} (sized : f.Sized) : f.value.Sized := by
  induction sized with
  | given sized => exact sized
  | filled all ih =>
    rw [Field.value, values_eq]
    refine .inlineTable fun p found => ?_
    obtain ⟨q, listed, rfl⟩ := List.mem_map.1 found
    exact ih q listed

theorem addField_sized {v : Value} (sized : v.Sized) {last : String} {path : List String}
    {fields fields' : List (String × Field)} (all : ∀ p ∈ fields, p.2.Sized)
    (added : addField v last path fields = some fields') : ∀ p ∈ fields', p.2.Sized := by
  induction path generalizing fields fields' with
  | nil =>
    rw [addField] at added
    split at added
    · cases added
    · cases added
      intro p found
      rcases List.mem_append.1 found with found | found
      · exact all p found
      · exact List.mem_singleton.1 found ▸ .given sized
  | cons name names ih =>
    rw [addField] at added
    split at added
    · obtain ⟨inner, made, same⟩ := Option.bind_eq_some_iff.1 added
      cases same
      intro p found
      rcases List.mem_append.1 found with found | found
      · exact all p found
      · exact List.mem_singleton.1 found ▸ .filled (ih (by simp) made)
    · cases added
    next inner looked =>
      obtain ⟨inner', made, same⟩ := Option.bind_eq_some_iff.1 added
      cases same
      have before : ∀ p ∈ inner, p.2.Sized := by
        cases all _ (mem_of_lookup looked) with
        | filled all => exact all
      intro p found
      obtain ⟨q, listed, rfl⟩ := List.mem_map.1 found
      dsimp only
      split
      · exact .filled (ih before made)
      · exact all q listed

theorem fields_sized {item : Reader Value} (sized : ReadsSized item) {fuel : Nat} {cs rest : List Char}
    {sofar fs : List (String × Field)} (all : ∀ p ∈ sofar, p.2.Sized)
    (read : fields item fuel sofar cs = some (fs, rest)) : ∀ p ∈ fs, p.2.Sized := by
  induction fuel generalizing cs rest sofar fs with
  | zero => cases read
  | succ fuel ih =>
    rw [fields] at read
    obtain ⟨cs', -, read⟩ := Option.bind_eq_some_iff.1 read
    split at read
    · cases read
      exact all
    obtain ⟨⟨⟨path, last⟩, behind⟩, -, read⟩ := Option.bind_eq_some_iff.1 read
    dsimp only at read
    split at read
    next rest' =>
      obtain ⟨⟨v, behind'⟩, first, read⟩ := Option.bind_eq_some_iff.1 read
      obtain ⟨sofar', added, read⟩ := Option.bind_eq_some_iff.1 read
      obtain ⟨behind'', -, read⟩ := Option.bind_eq_some_iff.1 read
      have now := addField_sized (sized _ _ _ first) all added
      split at read
      · exact ih now read
      · cases read
        exact now
      · cases read
    next => cases read

/-- Texts, and values that are written without quotes. -/
theorem scalar_sized {cs rest : List Char} {v : Value}
    (read : (if cs.head? = some '"' ∨ cs.head? = some '\'' then (Quoted.read cs).map fun (s, r) => (Value.string s, r)
      else
        let (run, rest) := Scalar.run cs
        (Scalar.parse run).map fun v => (v, rest)) = some (v, rest)) : v.Sized := by
  split at read
  · obtain ⟨p, -, same⟩ := Option.map_eq_some_iff.1 read
    cases same
    exact .string _
  · obtain ⟨v', parsed, same⟩ := Option.map_eq_some_iff.1 read
    cases same
    exact Scalar.parse_sized parsed

/-- Whatever is read as a value is sized, by induction on how deep it may be nested. -/
theorem value_sized (depth : Nat) : ReadsSized (value depth) := by
  induction depth with
  | zero =>
    intro cs v rest read
    unfold value at read
    simp only at read
    split at read
    · cases read
    · cases read
    · exact scalar_sized read
  | succ depth ih =>
    intro cs v rest read
    unfold value at read
    simp only at read
    split at read
    · obtain ⟨⟨vs, behind⟩, listed, same⟩ := Option.map_eq_some_iff.1 read
      cases same
      exact .array (items_sized ih listed)
    · obtain ⟨⟨fs, behind⟩, listed, same⟩ := Option.map_eq_some_iff.1 read
      cases same
      rw [values_eq]
      refine .inlineTable fun p found => ?_
      obtain ⟨q, made, rfl⟩ := List.mem_map.1 found
      exact (fields_sized ih (by simp) listed q made).value
    · exact scalar_sized read

end Reader

/-! ## Statements -/

/-- All whole numbers in a statement are signed 64-bit numbers. -/
def Statement.Sized : Statement → Prop
  | .assign _ _ v => v.Sized
  | .table _ _ | .element _ _ => True

namespace Reader

theorem header_sized {cs rest : List Char} {statement : Statement} (read : header cs = some (statement, rest)) :
    statement.Sized := by
  unfold header at read
  split at read
  all_goals
    obtain ⟨⟨⟨path, last⟩, behind⟩, -, read⟩ := Option.bind_eq_some_iff.1 read
    dsimp only at read
    split at read <;> cases read
    trivial

theorem assignment_sized {cs rest : List Char} {statement : Statement}
    (read : assignment cs = some (statement, rest)) : statement.Sized := by
  unfold assignment at read
  obtain ⟨⟨⟨path, last⟩, behind⟩, -, read⟩ := Option.bind_eq_some_iff.1 read
  dsimp only at read
  split at read
  · obtain ⟨⟨v, behind'⟩, valued, same⟩ := Option.bind_eq_some_iff.1 read
    cases same
    exact value_sized maxDepth _ _ _ valued
  · cases read

theorem document_sized {fuel : Nat} {cs : List Char} {statements : List Statement}
    (read : document fuel cs = some statements) : ∀ statement ∈ statements, statement.Sized := by
  induction fuel generalizing cs statements with
  | zero =>
    rw [document] at read
    split at read <;> cases read
    simp
  | succ fuel ih =>
    have followed {statement : Statement} {behind : List Char} (here : statement.Sized)
        (read : (do
          let rest ← finishLine behind
          let more ← document fuel rest
          return statement :: more) = some statements) : ∀ statement ∈ statements, statement.Sized := by
      obtain ⟨behind', -, read⟩ := Option.bind_eq_some_iff.1 read
      obtain ⟨others, more, same⟩ := Option.bind_eq_some_iff.1 read
      cases same
      exact List.forall_mem_cons.2 ⟨here, ih more⟩
    rw [document] at read
    obtain ⟨cs', -, read⟩ := Option.bind_eq_some_iff.1 read
    split at read
    · cases read
      simp
    dsimp only at read
    split at read
    · obtain ⟨⟨statement, behind⟩, first, read⟩ := Option.bind_eq_some_iff.1 read
      exact followed (header_sized first) read
    · obtain ⟨⟨statement, behind⟩, first, read⟩ := Option.bind_eq_some_iff.1 read
      exact followed (assignment_sized first) read

end Reader

/-! ## Documents -/

/-- All whole numbers in what a key stands for are signed 64-bit numbers. -/
inductive Item.Sized : Item → Prop where
  | value {v : Value} (sized : v.Sized) : Sized (.value v)
  | table (form : Form) {entries : Entries} (all : ∀ p ∈ entries, Sized p.2) : Sized (.table form entries)
  | tables {elements : List (Nat × Entries)} (all : ∀ e ∈ elements, ∀ p ∈ e.2, Sized p.2) : Sized (.tables elements)

namespace Entries

/-- All whole numbers in a table are signed 64-bit numbers. -/
def Sized (es : Entries) : Prop :=
  ∀ p ∈ es, p.2.Sized

variable {es : Entries} {key name : String} {item : Item}

theorem Sized.empty : Sized [] := by
  simp [Sized]

theorem Sized.put (sized : Sized es) (inner : item.Sized) : Sized (es.put key item) := by
  induction es with
  | nil =>
    intro p found
    exact List.mem_singleton.1 found ▸ inner
  | cons entry rest ih =>
    obtain ⟨first, others⟩ := List.forall_mem_cons.1 sized
    rw [Entries.put]
    split
    · exact List.forall_mem_cons.2 ⟨inner, others⟩
    · exact List.forall_mem_cons.2 ⟨first, ih others⟩

theorem Sized.remove (sized : Sized es) : Sized (es.remove key) :=
  fun p kept => sized p (List.mem_filter.1 kept).1

theorem Sized.lookup (sized : Sized es) (found : es.lookup name = some item) : item.Sized :=
  sized _ (mem_of_lookup found)

theorem Sized.hereditary : Hereditary Sized Item.Sized where
  empty := .empty
  put := .put
  remove := .remove
  lookup := Sized.lookup
  table := ⟨fun sized => by cases sized; assumption, .table _⟩
  first := .tables (List.forall_mem_singleton.2 Sized.empty)
  next sized := by
    cases sized with
    | tables all => exact .tables (List.forall_mem_append.2 ⟨all, List.forall_mem_singleton.2 Sized.empty⟩)
  last sized ends changes := by
    cases sized with
    | tables all =>
      have others := fun e listed => all e (List.dropLast_subset _ listed)
      have changed := changes (all _ (List.mem_of_getLast? ends))
      exact .tables (List.forall_mem_append.2 ⟨others, List.forall_mem_singleton.2 changed⟩)

/-- A document says signed 64-bit numbers only. -/
theorem parse?_sized {text : String} (parsed : parse? text = some es) : Sized es := by
  obtain ⟨statements, read, made⟩ := Option.bind_eq_some_iff.1 parsed
  refine Sized.hereditary.of_ofStatements? (fun path key v found => ?_) made
  have sized : v.Sized := Reader.document_sized read _ found
  exact .value sized

end Entries

end HeapSampler.Toml

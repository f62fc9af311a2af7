import HeapSampler.Proofs.Toml.Building

/-!
# What merged documents say

What a document says at a path of keys is a value, a table or an array of tables, or nothing. In a table
that statements have made no key stands twice (`parse?_distinct`), and so a table laid over another says
what it says itself, and what the other says where it says nothing (`kindAt_over`).
-/

namespace HeapSampler.Toml

/-- What a key stands for, without the contents of tables. -/
inductive Kind where
  | value (v : Value)
  | table
  | tables

def Item.kind : Item → Kind
  | .value v => .value v
  | .table _ _ => .table
  | .tables _ => .tables

namespace Entries

/-- What a table says at a path of keys. A path leads through tables only. -/
def kindAt : List String → Entries → Option Kind
  | [], _ => some .table
  | name :: names, es =>
    match es.lookup name with
    | none => none
    | some (.table _ inner) => kindAt names inner
    | some item => if names.isEmpty then some item.kind else none

variable {es lower upper : Entries} {key name : String} {item : Item}

theorem kindAt_of_none (none : es.lookup key = none) (path : List String) : kindAt (key :: path) es = Option.none := by
  rw [kindAt, none]

theorem kindAt_of_table {form : Form} {inner : Entries} (table : es.lookup key = some (.table form inner))
    (path : List String) : kindAt (key :: path) es = kindAt path inner := by
  rw [kindAt, table]

theorem kindAt_cons_table (key name : String) (path : List String) (form : Form) (inner rest : Entries) :
    kindAt (name :: path) ((key, .table form inner) :: rest) =
      if name = key then kindAt path inner else kindAt (name :: path) rest := by
  rw [kindAt, List.lookup_cons]
  by_cases same : name = key
  · rw [if_pos same, same, beq_self_eq_true]
  · rw [if_neg same, beq_eq_false_iff_ne.2 same, kindAt]

theorem kindAt_single : kindAt [name] es = (es.lookup name).map Item.kind := by
  unfold kindAt
  rcases es.lookup name with _ | (_ | _ | _) <;> rfl

theorem lookup_of_kindAt_none (none : kindAt [name] es = Option.none) : es.lookup name = Option.none := by
  rw [kindAt_single] at none
  exact Option.map_eq_none_iff.1 none

theorem lookup_of_kindAt_value {v : Value} (value : kindAt [name] es = some (.value v)) :
    es.lookup name = some (.value v) := by
  rw [kindAt_single] at value
  obtain ⟨item, found, kind⟩ := Option.map_eq_some_iff.1 value
  cases item <;> cases kind
  exact found

theorem lookup_of_kindAt_tables (tables : kindAt [name] es = some .tables) :
    ∃ elements, es.lookup name = some (.tables elements) := by
  rw [kindAt_single] at tables
  obtain ⟨item, found, kind⟩ := Option.map_eq_some_iff.1 tables
  cases item <;> cases kind
  exact ⟨_, found⟩

theorem exists_of_kindAt_table (table : kindAt [name] es = some .table) :
    ∃ form inner, es.lookup name = some (.table form inner) := by
  rw [kindAt_single] at table
  obtain ⟨item, found, kind⟩ := Option.map_eq_some_iff.1 table
  cases item <;> cases kind
  exact ⟨_, _, found⟩

/-! ## Keys that stand once -/

end Entries

mutual

/-- No key stands twice in the table, nor in a table below it. -/
def Item.Distinct : Item → Prop
  | .table _ entries => Entries.Distinct entries
  | _ => True

/-- No key stands twice, nor in a table below. -/
def Entries.Distinct : List (String × Item) → Prop
  | [] => True
  | (key, item) :: rest => key ∉ rest.map Prod.fst ∧ item.Distinct ∧ Entries.Distinct rest

end

namespace Entries

variable {es lower upper : Entries} {key name : String} {item : Item}

theorem lookup_put (es : Entries) (key : String) (item : Item) (name : String) :
    (es.put key item).lookup name = if name = key then some item else es.lookup name := by
  induction es with
  | nil =>
    rw [put, List.lookup_cons]
    by_cases same : name = key
    · simp [same]
    · simp [same, beq_eq_false_iff_ne.2 same]
  | cons entry rest ih =>
    obtain ⟨k, i⟩ := entry
    rw [put]
    by_cases here : k = key
    · subst here
      rw [if_pos rfl, List.lookup_cons, List.lookup_cons]
      by_cases same : name = k
      · simp [same]
      · simp [same, beq_eq_false_iff_ne.2 same]
    · rw [if_neg here, List.lookup_cons, List.lookup_cons, ih]
      by_cases first : name = k
      · simp [first, here]
      · simp [beq_eq_false_iff_ne.2 first]

theorem keys_put : name ∈ (es.put key item).map Prod.fst → name = key ∨ name ∈ es.map Prod.fst := by
  induction es with
  | nil => simp [put]
  | cons entry rest ih =>
    obtain ⟨k, i⟩ := entry
    rw [put]
    by_cases here : k = key
    · rw [if_pos here]
      exact .inr
    · intro found
      rw [if_neg here, List.map_cons, List.mem_cons] at found
      rcases found with rfl | found
      · simp
      · exact (ih found).imp_right (List.mem_cons_of_mem k)

theorem Distinct.empty : Distinct [] :=
  trivial

theorem Distinct.put (distinct : Distinct es) (inner : item.Distinct) : Distinct (es.put key item) := by
  induction es with
  | nil => exact ⟨List.not_mem_nil, inner, trivial⟩
  | cons entry rest ih =>
    obtain ⟨k, i⟩ := entry
    obtain ⟨fresh, first, others⟩ := distinct
    rw [Entries.put]
    by_cases here : k = key
    · rw [if_pos here]
      exact ⟨fresh, inner, others⟩
    · rw [if_neg here]
      refine ⟨fun found => ?_, first, ih others⟩
      exact (keys_put found).elim here fresh

theorem Distinct.remove (distinct : Distinct es) : Distinct (es.remove key) := by
  induction es with
  | nil => exact trivial
  | cons entry rest ih =>
    obtain ⟨fresh, first, others⟩ := distinct
    rw [Entries.remove, List.filter_cons]
    split
    · refine ⟨fun found => fresh ?_, first, ih others⟩
      obtain ⟨e, kept, same⟩ := List.mem_map.1 found
      exact List.mem_map.2 ⟨e, (List.mem_filter.1 kept).1, same⟩
    · exact ih others

theorem Distinct.lookup (distinct : Distinct es) (found : es.lookup name = some item) : item.Distinct := by
  induction es with
  | nil => cases found
  | cons entry rest ih =>
    obtain ⟨k, i⟩ := entry
    obtain ⟨-, first, others⟩ := distinct
    rw [List.lookup_cons] at found
    by_cases here : name = k
    · rw [here, beq_self_eq_true] at found
      cases found
      exact first
    · rw [beq_eq_false_iff_ne.2 here] at found
      exact ih others found

/-! ## Documents that were read -/

theorem Distinct.hereditary : Hereditary Distinct Item.Distinct where
  empty := .empty
  put := .put
  remove := .remove
  lookup := Distinct.lookup
  table := Iff.rfl
  first := trivial
  next _ := trivial
  last _ _ _ := trivial

/-- In a document that was read no key stands twice. -/
theorem parse?_distinct {text : String} (parsed : parse? text = some es) : Distinct es := by
  obtain ⟨statements, -, made⟩ := Option.bind_eq_some_iff.1 parsed
  exact Distinct.hereditary.of_ofStatements? (fun _ _ _ _ => trivial) made

/-! ## Merging -/

theorem lookup_of_fresh (fresh : key ∉ es.map Prod.fst) : es.lookup key = none := by
  refine List.lookup_eq_none_iff.2 fun p found => bne_iff_ne.2 fun same => ?_
  exact fresh (List.mem_map.2 ⟨p, found, same.symm⟩)

/-- A table laid over another says of a key what it says itself, and what the other says of a key that it
does not have. -/
theorem lookup_over (distinct : Distinct upper) (lower : Entries) (name : String) :
    (Entries.over lower upper).lookup name = match upper.lookup name with
      | none => lower.lookup name
      | some item => some (Item.over (lower.lookup name) item) := by
  induction upper generalizing lower with
  | nil => rfl
  | cons entry rest ih =>
    obtain ⟨key, item⟩ := entry
    obtain ⟨fresh, -, others⟩ := distinct
    -- the rest has no such key again, so what is put for it now stays
    rw [Entries.over, ih others, lookup_put, List.lookup_cons]
    by_cases here : name = key
    · subst here
      rw [lookup_of_fresh fresh, if_pos rfl, beq_self_eq_true]
    · rw [if_neg here, beq_eq_false_iff_ne.2 here]

end Entries

mutual

/-- No key stands twice in tables laid over each other if none does in either. -/
theorem Item.Distinct.over (below : Option Item) (under : ∀ i, below = some i → i.Distinct) :
    ∀ item : Item, item.Distinct → (Item.over below item).Distinct
  | .value _, _ => trivial
  | .table form entries, distinct => by
    unfold Item.over
    rcases below with _ | (_ | ⟨form', lower⟩ | _)
    · exact distinct
    · exact distinct
    · exact Entries.Distinct.over lower (under _ rfl) entries distinct
    · exact distinct
  | .tables elements, _ => by
    unfold Item.over
    rcases below with _ | (_ | _ | _) <;> trivial

theorem Entries.Distinct.over (lower : Entries) (under : Entries.Distinct lower) :
    ∀ upper : List (String × Item), Entries.Distinct upper → Entries.Distinct (Entries.over lower upper)
  | [], _ => under
  | (key, item) :: rest, distinct => by
    have put : Entries.Distinct (lower.put key (Item.over (lower.lookup key) item)) :=
      under.put (Item.Distinct.over _ (fun _ found => under.lookup found) item distinct.2.1)
    exact Entries.Distinct.over _ put rest distinct.2.2

end

theorem Item.kind_over (lower : Option Item) (item : Item) : (Item.over lower item).kind = item.kind := by
  rcases item with v | ⟨form, entries⟩ | elements <;> rcases lower with _ | _ | _ | _ <;> simp only [Item.over, Item.kind]

namespace Entries

variable {lower upper : Entries} {path : List String} {name : String}

/-- Under a key there is a table, or nothing. -/
def TableOrNone (name : String) (es : Entries) : Prop :=
  es.lookup name = none ∨ ∃ form inner, es.lookup name = some (.table form inner)

theorem tableOrNone_iff {es : Entries} :
    TableOrNone name es ↔ kindAt [name] es = none ∨ kindAt [name] es = some .table := by
  rw [TableOrNone, kindAt_single]
  rcases es.lookup name with _ | _ | _ | _ <;> simp [Item.kind]

theorem TableOrNone.over (distinct : Distinct upper) (under : TableOrNone name lower) (above : TableOrNone name upper) :
    TableOrNone name (Entries.over lower upper) := by
  rw [TableOrNone, lookup_over distinct]
  obtain none | ⟨form, inner, table⟩ := above
  · rw [none]
    exact under
  · rw [table]
    obtain none | ⟨form', inner', table'⟩ := under
    · rw [none]
      exact .inr ⟨form, inner, rfl⟩
    · rw [table']
      exact .inr ⟨form', Entries.over inner' inner, rfl⟩

/-- A table laid over another says of a key what it says itself, and what the other says where it says nothing. -/
theorem kindAt_over_single (distinct : Distinct upper) :
    kindAt [name] (Entries.over lower upper) = (kindAt [name] upper).or (kindAt [name] lower) := by
  rw [kindAt_single, kindAt_single, kindAt_single, lookup_over distinct]
  cases upper.lookup name with
  | none => rfl
  | some item => exact congrArg some (Item.kind_over _ item)

/-- Below a key that only the lower document has, nothing changes. -/
theorem kindAt_over_absent (distinct : Distinct upper) (absent : upper.lookup name = none) (path : List String) :
    kindAt (name :: path) (Entries.over lower upper) = kindAt (name :: path) lower := by
  rw [kindAt, kindAt, lookup_over distinct, absent]

/-- Below a key that is not a table in both documents, the upper one takes the place of the lower. -/
theorem kindAt_over_replaced {item : Item} {field : String} (distinct : Distinct upper)
    (above : upper.lookup name = some item) (apart : kindAt [name] lower ≠ some .table ∨ item.kind ≠ .table) :
    kindAt [name, field] (Entries.over lower upper) = kindAt [name, field] upper := by
  rw [kindAt_single] at apart
  rw [kindAt, kindAt, lookup_over distinct, above]
  rcases item with v | ⟨form, inner⟩ | elements
  · simp only [Item.over]
  · rcases under : lower.lookup name with _ | (v | ⟨form', inner'⟩ | elements)
    · simp only [Item.over]
    · simp only [Item.over]
    · rw [under] at apart
      rcases apart with apart | apart <;> exact absurd rfl apart
    · simp only [Item.over]
  · rcases lower.lookup name with _ | (v | ⟨form', inner'⟩ | elements')
    · simp only [Item.over]
    · simp only [Item.over]
    · simp only [Item.over]
    · simp only [Item.over]
      rfl

/-- Where both say that there is a table, or nothing, a document laid over another says of the keys in it
what it says itself, and what the other says where it says nothing. -/
theorem kindAt_over {field : String} (distinct : Distinct upper) (under : TableOrNone name lower)
    (above : TableOrNone name upper) :
    kindAt [name, field] (Entries.over lower upper) = (kindAt [name, field] upper).or (kindAt [name, field] lower) := by
  have looked := lookup_over distinct lower name
  obtain none | ⟨form, inner, table⟩ := above <;> obtain none' | ⟨form', inner', table'⟩ := under
  · rw [none, none'] at looked
    rw [kindAt_of_none looked, kindAt_of_none none, kindAt_of_none none']
    rfl
  · rw [none, table'] at looked
    rw [kindAt_of_table looked, kindAt_of_none none, kindAt_of_table table']
    rfl
  · rw [table, none'] at looked
    rw [kindAt_of_table looked, kindAt_of_table table, kindAt_of_none none', Option.or_none]
  · rw [table, table'] at looked
    rw [kindAt_of_table looked, kindAt_of_table table, kindAt_of_table table']
    exact kindAt_over_single (distinct.lookup table)

/-- A document laid over nothing is itself. -/
theorem kindAt_over_nil {es : Entries} (distinct : Distinct es) (path : List String) :
    kindAt path (Entries.over [] es) = kindAt path es := by
  cases path with
  | nil => rfl
  | cons name path =>
    have looked : (Entries.over [] es).lookup name = es.lookup name := by
      rw [lookup_over distinct]
      rcases es.lookup name with _ | (_ | _ | _) <;> simp only [List.lookup_nil, Item.over]
    rw [kindAt, kindAt, looked]

/-- A document laid over one that says the same still says that: an array of tables is still one, and no path leads
into it. -/
theorem kindAt_over_same (distinct : Distinct upper) (same : ∀ path, kindAt path lower = kindAt path upper)
    (path : List String) : kindAt path (Entries.over lower upper) = kindAt path upper := by
  induction path generalizing lower upper with
  | nil => rfl
  | cons name path ih =>
    have looked := lookup_over distinct lower name
    rcases found : upper.lookup name with _ | (v | ⟨form, inner⟩ | elements) <;> rw [found] at looked
    · rw [kindAt_over_absent distinct found, same]
    · rw [kindAt, kindAt, looked, found]
      simp only [Item.over]
    · have top : kindAt [name] lower = some .table := (same [name]).trans (kindAt_of_table found [])
      obtain ⟨form', inner', under⟩ := exists_of_kindAt_table top
      have below (path : List String) : kindAt path inner' = kindAt path inner := by
        rw [← kindAt_of_table under, same, kindAt_of_table found]
      simp only [under, Item.over] at looked
      rw [kindAt_of_table looked, kindAt_of_table found]
      exact ih (distinct.lookup found) below
    · rw [kindAt, kindAt, looked, found]
      rcases lower.lookup name with _ | (_ | _ | _)
      · simp only [Item.over]
      · simp only [Item.over]
      · simp only [Item.over]
      · simp only [Item.over]
        rfl

end Entries

end HeapSampler.Toml

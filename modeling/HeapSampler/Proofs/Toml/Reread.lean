import HeapSampler.Proofs.Toml.Tables

/-!
# Documents written out and read again

A flat document, of values and of tables of values, is written out as its values and dotted keys, and then a table
for each header. Reading that makes it again, up to the order of its entries and the positions of its headers, and
so it says the same (`reread_flat`). Flat documents laid over each other are flat again (`Flat.over`).
-/

namespace HeapSampler.Toml

/-- An entry of a flat document: a value, or a table of values. A header makes a table even without values, dotted
keys do not. -/
def Item.Flat : Item → Prop
  | .value _ => True
  | .table (.headed _) inner => Entries.OfValues inner
  | .table .dotted inner => inner ≠ [] ∧ Entries.OfValues inner
  | _ => False

namespace Entries

variable {es lower upper before : Entries} {key : String} {item : Item} {headers : Nat}

/-- A document of values and of tables of values. -/
def Flat (es : Entries) : Prop :=
  ∀ entry ∈ es, entry.2.Flat

@[simp] theorem flat_nil : Flat [] :=
  fun _ found => absurd found List.not_mem_nil

@[simp] theorem flat_cons (entry : String × Item) : Flat (entry :: es) ↔ entry.2.Flat ∧ Flat es :=
  List.forall_mem_cons

/-- A table with a header: the position of the header, the heading and the table. -/
def headed? : String × Item → Option (Nat × String × Entries)
  | (key, .table (.headed position) inner) => some (position, key, inner)
  | _ => none

/-- The entries that are written before all headers. -/
def unheaded (es : Entries) : Entries :=
  es.filter fun entry => (headed? entry).isNone

theorem Distinct.nodup (distinct : Distinct es) : (es.map Prod.fst).Nodup := by
  induction es with
  | nil => exact List.nodup_nil
  | cons entry es ih => exact List.nodup_cons.2 ⟨distinct.1, ih distinct.2.2⟩

theorem Distinct.mem (distinct : Distinct es) (found : (key, item) ∈ es) : item.Distinct := by
  induction es with
  | nil => cases found
  | cons entry es ih =>
    rcases List.mem_cons.1 found with rfl | behind
    · exact distinct.2.1
    · exact ih distinct.2.2 behind

theorem mem_headed {t : String × Entries} : t ∈ (es.filterMap headed?).map Prod.snd ↔
    ∃ position, (t.1, Item.table (.headed position) t.2) ∈ es := by
  constructor
  · intro found
    obtain ⟨placed, kept, rfl⟩ := List.mem_map.1 found
    obtain ⟨⟨key, item⟩, listed, same⟩ := List.mem_filterMap.1 kept
    rcases item with v | ⟨position | _ | _, inner⟩ | elements <;> cases same
    exact ⟨position, listed⟩
  · rintro ⟨position, listed⟩
    exact List.mem_map.2 ⟨(position, t), List.mem_filterMap.2 ⟨_, listed, rfl⟩, rfl⟩

/-- Every key stands before all headers, or is a heading. -/
theorem keys_perm (es : Entries) :
    (es.unheaded.map Prod.fst ++ ((es.filterMap headed?).map Prod.snd).map Prod.fst).Perm (es.map Prod.fst) := by
  induction es with
  | nil => exact .refl _
  | cons entry es ih =>
    obtain ⟨key, item⟩ := entry
    rcases item with v | ⟨position | _ | _, inner⟩ | elements
    · exact ih.cons key
    · exact List.perm_middle.trans (ih.cons key)
    · exact ih.cons key
    · exact ih.cons key
    · exact ih.cons key

theorem numbered_keys (headers : Nat) (ts : List (String × Entries)) :
    (numbered headers ts).map Prod.fst = ts.map Prod.fst := by
  induction ts generalizing headers with
  | nil => rfl
  | cons t ts ih => exact congrArg (_ :: ·) (ih (headers + 1))

theorem mem_numbered {t : String × Entries} {ts : List (String × Entries)} (found : t ∈ ts) (headers : Nat) :
    ∃ position, (t.1, Item.table (.headed position) t.2) ∈ numbered headers ts := by
  induction ts generalizing headers with
  | nil => cases found
  | cons u ts ih =>
    rcases List.mem_cons.1 found with rfl | behind
    · exact ⟨headers + 1, List.mem_cons_self⟩
    · obtain ⟨position, there⟩ := ih behind (headers + 1)
      exact ⟨position, List.mem_cons_of_mem _ there⟩

/-! ## Writing out -/

theorem blocks_values (values : OfValues es) (path : List String) (last : Nat) : blocks path last es = ([], last) := by
  induction es with
  | nil => rfl
  | cons entry es ih =>
    obtain ⟨key, item⟩ := entry
    obtain ⟨⟨v, rfl⟩, others⟩ := List.forall_mem_cons.1 values
    rw [blocks, Item.blocks]
    simp only [ih others, List.nil_append]

/-- Of a flat document a block is written for each header. -/
theorem blocks_flat (flat : Flat es) (last : Nat) :
    (blocks [] last es).1 = (es.filterMap headed?).map fun t => ⟨t.1, statements t.2⟩ := by
  induction es generalizing last with
  | nil => rfl
  | cons entry es ih =>
    obtain ⟨key, item⟩ := entry
    obtain ⟨first, others⟩ := List.forall_mem_cons.1 flat
    rcases item with v | ⟨position | _ | _, inner⟩ | elements
    · exact ih others last
    · rw [blocks, Item.blocks]
      simp only [blocks_values first, Block.ofTable, List.append_nil, List.singleton_append]
      exact congrArg (_ :: ·) (ih others position)
    · cases first
    · rw [blocks, Item.blocks]
      · simp only [blocks_values first.2, Block.ofTable, List.append_nil, List.nil_append]
        exact ih others last
      · intro position same
        cases same
    · cases first

/-- A flat document is written out as what stands before all headers, and then its tables in some order. -/
theorem toStatements_flat (flat : Flat es) : ∃ ts : List (String × Entries),
    ts.Perm ((es.filterMap headed?).map Prod.snd) ∧ es.toStatements = assignments [] es ++ ts.flatMap statements := by
  let sorted := (es.filterMap headed?).mergeSort fun s t => decide (s.1 ≤ t.1)
  refine ⟨sorted.map Prod.snd, (List.mergeSort_perm _ _).map Prod.snd, ?_⟩
  have blocks : (sorted.map fun t => (⟨t.1, statements t.2⟩ : Block)) =
      (((es.filterMap headed?).map fun t => (⟨t.1, statements t.2⟩ : Block)).mergeSort fun a b => a.position ≤ b.position) :=
    List.map_mergeSort fun _ _ _ _ => rfl
  rw [toStatements, blocks_flat flat, ← blocks, List.flatMap_map, List.flatMap_map]

end Entries

/-! ## Reading again -/

namespace Builder

open Entries

variable {es before : Entries} {heading key : String} {headers : Nat}

/-- The first dotted key makes a table at the end. -/
theorem take_dotted_new (fresh : heading ∉ before.map Prod.fst) (v : Value) :
    take ⟨before, [], headers⟩ (.assign [heading] key v) =
      some ⟨before ++ [(heading, .table .dotted [(key, .value v)])], [], headers⟩ := by
  simp [take, atPath, assign, lookup_of_fresh fresh, put_of_fresh fresh, put]

/-- A further one that is new adds its value there. -/
theorem take_dotted {inner : Entries} (here : heading ∉ before.map Prod.fst) (fresh : key ∉ inner.map Prod.fst)
    (v : Value) : take ⟨before ++ [(heading, .table .dotted inner)], [], headers⟩ (.assign [heading] key v) =
      some ⟨before ++ [(heading, .table .dotted (inner ++ [(key, .value v)]))], [], headers⟩ := by
  simp [take, atPath, assign, lookup_last here, put_last here, lookup_of_fresh fresh, put_of_fresh fresh]

/-- Dotted keys make a table at the end. -/
theorem takes_dotted {inner : Entries} (here : heading ∉ before.map Prod.fst) (some : inner ≠ [])
    (values : OfValues inner) (distinct : (inner.map Prod.fst).Nodup) :
    (assignments [heading] inner).foldlM take ⟨before, [], headers⟩ =
      Option.some ⟨before ++ [(heading, .table .dotted inner)], [], headers⟩ := by
  cases inner with
  | nil => exact absurd rfl some
  | cons entry more =>
    obtain ⟨key, item⟩ := entry
    obtain ⟨⟨v, rfl⟩, others⟩ := List.forall_mem_cons.1 values
    rw [assignments, Item.assignments, List.singleton_append, List.foldlM_cons, take_dotted_new here]
    exact takes_values (fun _ _ v fresh => take_dotted here fresh v) others distinct

/-- A key that is new adds its value to the document. -/
theorem take_value (fresh : key ∉ before.map Prod.fst) (v : Value) :
    take ⟨before, [], headers⟩ (.assign [] key v) = some ⟨before ++ [(key, .value v)], [], headers⟩ := by
  simp [take, atPath, assign, lookup_of_fresh fresh, put_of_fresh fresh]

/-- What is written before all headers makes the values and the tables of dotted keys. -/
theorem takes_unheaded (flat : Flat es) (inner : Distinct es) (distinct : (before.map Prod.fst ++ es.map Prod.fst).Nodup) :
    (assignments [] es).foldlM take ⟨before, [], headers⟩ = some ⟨before ++ es.unheaded, [], headers⟩ := by
  induction es generalizing before with
  | nil => simp [assignments, unheaded]
  | cons entry es ih =>
    obtain ⟨key, item⟩ := entry
    obtain ⟨first, others⟩ := List.forall_mem_cons.1 flat
    obtain ⟨-, within, apart⟩ := inner
    have here : key ∉ before.map Prod.fst := not_mem_of_nodup distinct
    have more (item : Item) : ((before ++ [(key, item)]).map Prod.fst ++ es.map Prod.fst).Nodup := by
      rwa [List.map_append, List.append_assoc]
    have added (item : Item) (after : Entries) : before ++ [(key, item)] ++ after = before ++ (key, item) :: after :=
      List.append_assoc _ _ _
    rw [assignments]
    rcases item with v | ⟨position | _ | _, inner⟩ | elements
    · rw [Item.assignments, List.singleton_append, List.foldlM_cons, take_value here]
      refine (ih others apart (more _)).trans ?_
      rw [added]
      rfl
    · refine (ih others apart ?_).trans rfl
      exact distinct.sublist ((List.Sublist.refl _).append (List.sublist_cons_self _ _))
    · cases first
    · rw [Item.assignments, List.nil_append, List.foldlM_append, takes_dotted here first.1 first.2 within.nodup]
      refine (ih others apart (more _)).trans ?_
      rw [added]
      rfl
    · cases first

end Builder

namespace Entries

variable {es : Entries}

/-- A flat document is read again as what stands before all headers, and then its tables. -/
theorem ofStatements?_flat (flat : Flat es) (distinct : Distinct es) : ∃ ts : List (String × Entries),
    ts.Perm ((es.filterMap headed?).map Prod.snd) ∧
      ofStatements? es.toStatements = some (es.unheaded ++ numbered 0 ts) := by
  obtain ⟨ts, perm, written⟩ := toStatements_flat flat
  have listed {t : String × Entries} (found : t ∈ ts) : ∃ position, (t.1, Item.table (.headed position) t.2) ∈ es :=
    mem_headed.1 (perm.mem_iff.1 found)
  have values : ∀ t ∈ ts, t.2.OfValues := by
    intro t found
    obtain ⟨position, there⟩ := listed found
    exact flat _ there
  have keys : ∀ t ∈ ts, (t.2.map Prod.fst).Nodup := by
    intro t found
    obtain ⟨position, there⟩ := listed found
    have inner : Distinct t.2 := distinct.mem there
    exact inner.nodup
  have headings : (es.unheaded.map Prod.fst ++ ts.map Prod.fst).Nodup := by
    have all := ((perm.map Prod.fst).append_left _).trans (keys_perm es)
    exact all.nodup_iff.2 distinct.nodup
  have start : ((([] : Entries).map Prod.fst) ++ es.map Prod.fst).Nodup := distinct.nodup
  obtain ⟨b, taken, root⟩ : ∃ b, (ts.flatMap statements).foldlM Builder.take ⟨es.unheaded, [], 0⟩ = some b ∧
      b.root = es.unheaded ++ numbered 0 ts := Builder.takes_headed values keys headings
  have made : (assignments [] es ++ ts.flatMap statements).foldlM Builder.take ⟨[], [], 0⟩ = some b := by
    rw [List.foldlM_append, Builder.takes_unheaded flat distinct start]
    exact taken
  refine ⟨ts, perm, ?_⟩
  rw [ofStatements?, written, made]
  exact congrArg some root

/-- **A flat document says the same when it is written out and read again.** -/
theorem reread_flat (flat : Flat es) (distinct : Distinct es) :
    ∃ es', ofStatements? es.toStatements = some es' ∧ ∀ path, kindAt path es' = kindAt path es := by
  obtain ⟨ts, perm, read⟩ := ofStatements?_flat flat distinct
  refine ⟨_, read, ?_⟩
  have keys : ((es.unheaded ++ numbered 0 ts).map Prod.fst).Perm (es.map Prod.fst) := by
    rw [List.map_append, numbered_keys]
    exact ((perm.map Prod.fst).append_left _).trans (keys_perm es)
  have once : ((es.unheaded ++ numbered 0 ts).map Prod.fst).Nodup := keys.nodup_iff.2 distinct.nodup
  intro path
  cases path with
  | nil => rfl
  | cons name path =>
    rcases found : es.lookup name with _ | item
    · have absent : name ∉ (es.unheaded ++ numbered 0 ts).map Prod.fst := by
        intro here
        obtain ⟨entry, listed, rfl⟩ := List.mem_map.1 (keys.mem_iff.1 here)
        have differs := List.lookup_eq_none_iff.1 found entry listed
        rw [bne_self_eq_false] at differs
        cases differs
      rw [kindAt_of_none (lookup_of_fresh absent), kindAt_of_none found]
    · have there : (name, item) ∈ es := mem_of_lookup found
      have unplaced (none : headed? (name, item) = none) :
          kindAt (name :: path) (es.unheaded ++ numbered 0 ts) = kindAt (name :: path) es := by
        have kept : (name, item) ∈ es.unheaded := List.mem_filter.2 ⟨there, Option.isNone_iff_eq_none.2 none⟩
        rw [kindAt, kindAt, found, lookup_of_mem once (List.mem_append_left _ kept)]
      rcases item with v | ⟨position | _ | _, inner⟩ | elements
      · exact unplaced rfl
      · have listed : (name, inner) ∈ ts := perm.mem_iff.2 (mem_headed.2 ⟨position, there⟩)
        obtain ⟨position', placed⟩ := mem_numbered listed 0
        rw [kindAt_of_table found, kindAt_of_table (lookup_of_mem once (List.mem_append_right _ placed))]
      · exact unplaced rfl
      · exact unplaced rfl
      · exact unplaced rfl

/-! ## Laid over each other -/

theorem mem_put {entry : String × Item} (found : entry ∈ es.put key item) : entry = (key, item) ∨ entry ∈ es := by
  induction es with
  | nil => exact .inl (List.mem_singleton.1 found)
  | cons first es ih =>
    rw [put] at found
    split at found
    · rename_i same
      subst same
      exact (List.mem_cons.1 found).imp_right (List.mem_cons_of_mem _)
    · rcases List.mem_cons.1 found with rfl | behind
      · exact .inr List.mem_cons_self
      · exact (ih behind).imp_right (List.mem_cons_of_mem _)

theorem put_ne_nil (es : Entries) (key : String) (item : Item) : es.put key item ≠ [] := by
  cases es with
  | nil => exact List.cons_ne_nil _ _
  | cons entry es =>
    rw [put]
    split <;> exact List.cons_ne_nil _ _

theorem over_ne_nil (some : lower ≠ []) (upper : List (String × Item)) : Entries.over lower upper ≠ [] := by
  induction upper generalizing lower with
  | nil => exact some
  | cons entry upper ih => exact ih (put_ne_nil _ _ _)

/-- What holds of all items of two tables holds of all items of one laid over the other, if it does of an item laid
over another. -/
theorem forall_over {P : Item → Prop} (step : ∀ below item, (∀ i, below = some i → P i) → P item → P (Item.over below item))
    (under : ∀ entry ∈ lower, P entry.2) (above : ∀ entry ∈ upper, P entry.2) :
    ∀ entry ∈ Entries.over lower upper, P entry.2 := by
  induction upper generalizing lower with
  | nil => exact under
  | cons entry upper ih =>
    obtain ⟨key, item⟩ := entry
    obtain ⟨first, others⟩ := List.forall_mem_cons.1 above
    have below (i : Item) (found : lower.lookup key = some i) : P i := under (key, i) (mem_of_lookup found)
    refine ih ?_ others
    intro entry found
    rcases mem_put found with rfl | old
    · exact step _ item below first
    · exact under entry old

theorem OfValues.over (under : OfValues lower) (above : OfValues upper) : OfValues (Entries.over lower upper) := by
  refine forall_over (P := fun item => ∃ v, item = .value v) ?_ under above
  rintro below _ - ⟨v, rfl⟩
  exact ⟨v, rfl⟩

/-- A table of values laid over an item is added to a table, or takes its place. -/
theorem flat_over_table {below : Option Item} {form : Form} {inner : Entries} (under : ∀ i, below = some i → i.Flat)
    (flat : (Item.table form inner).Flat) (values : OfValues inner) : (Item.over below (.table form inner)).Flat := by
  unfold Item.over
  rcases below with _ | (v | ⟨position | _ | _, lower⟩ | elements)
  · exact flat
  · exact flat
  · have lowerValues : OfValues lower := under _ rfl
    exact lowerValues.over values
  · cases under _ rfl
  · obtain ⟨some, lowerValues⟩ : lower ≠ [] ∧ OfValues lower := under _ rfl
    exact ⟨over_ne_nil some inner, lowerValues.over values⟩
  · exact flat

/-- Flat documents laid over each other are flat. -/
theorem Flat.over (under : Flat lower) (above : Flat upper) : Flat (Entries.over lower upper) := by
  refine forall_over (P := Item.Flat) ?_ under above
  intro below item under flat
  rcases item with v | ⟨position | _ | _, inner⟩ | elements
  · trivial
  · exact flat_over_table under flat flat
  · cases flat
  · exact flat_over_table under flat flat.2
  · cases flat

end Entries

end HeapSampler.Toml

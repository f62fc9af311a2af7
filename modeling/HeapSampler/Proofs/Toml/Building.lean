import HeapSampler.Toml.Document

/-!
# How documents are built

A document is built statement by statement, each of which changes one table, wherever that stands. What tables have
in common with the tables below them (`Hereditary`) is therefore kept by every statement, and a document has it that
was built of statements (`Hereditary.of_ofStatements?`).
-/

namespace HeapSampler.Toml

theorem mem_of_lookup {γ : Type} {entries : List (String × γ)} {name : String} {found : γ}
    (looked : entries.lookup name = some found) : (name, found) ∈ entries := by
  obtain ⟨before, after, rfl, -⟩ := List.lookup_eq_some_iff.1 looked
  exact List.mem_append_right _ List.mem_cons_self

namespace Entries

/-- What a table has (`P`), given what its items have (`Q`), that no step of building a document takes away. -/
structure Hereditary (P : Entries → Prop) (Q : Item → Prop) : Prop where
  empty : P []
  put {es : Entries} {key : String} {item : Item} : P es → Q item → P (es.put key item)
  remove {es : Entries} {key : String} : P es → P (es.remove key)
  lookup {es : Entries} {name : String} {item : Item} : P es → es.lookup name = some item → Q item
  table {form : Form} {inner : Entries} : Q (.table form inner) ↔ P inner
  /-- An array of tables begins with an empty table, -/
  first {position : Nat} : Q (.tables [(position, [])])
  /-- goes on with an empty table, -/
  next {elements : List (Nat × Entries)} {position : Nat} :
    Q (.tables elements) → Q (.tables (elements ++ [(position, [])]))
  /-- and changes in its last table. -/
  last {elements : List (Nat × Entries)} {position : Nat} {inner inner' : Entries} : Q (.tables elements) →
    elements.getLast? = some (position, inner) → (P inner → P inner') →
    Q (.tables (elements.dropLast ++ [(position, inner')]))

namespace Hereditary

variable {P : Entries → Prop} {Q : Item → Prop} {es es' : Entries} {key name : String}
  (hereditary : Hereditary P Q)
include hereditary

/-- A table in which one item is built anew. -/
theorem put_of_bind {made : Option Entries} {wrap : Entries → Item} (has : P es)
    (inner : ∀ below, made = some below → Q (wrap below))
    (changed : (made >>= fun below => pure (es.put name (wrap below))) = some es') : P es' := by
  obtain ⟨below, built, same⟩ := Option.bind_eq_some_iff.1 changed
  cases same
  exact hereditary.put has (inner below built)

/-- A change at the end of a header's path is a change of each table on the way there. -/
theorem of_atPath {change : Entries → Option Entries} {path : List String}
    (keeps : ∀ es es', P es → change es = some es' → P es') (has : P es)
    (changed : atPath change path es = some es') : P es' := by
  induction path generalizing es es' with
  | nil => exact keeps es es' has changed
  | cons name names ih =>
    rw [Entries.atPath] at changed
    rcases found : es.lookup name with _ | (v | ⟨form, inner⟩ | elements) <;> rw [found] at changed
    · exact hereditary.put_of_bind has (fun _ made => hereditary.table.2 (ih hereditary.empty made)) changed
    · cases changed
    · have below : P inner := hereditary.table.1 (hereditary.lookup has found)
      exact hereditary.put_of_bind has (fun _ made => hereditary.table.2 (ih below made)) changed
    · simp only at changed
      rcases last : elements.getLast? with _ | ⟨position, inner⟩ <;> rw [last] at changed
      · cases changed
      · refine hereditary.put_of_bind has (fun _ made => ?_) changed
        exact hereditary.last (hereditary.lookup has found) last fun below => ih below made

theorem of_assign {v : Value} {path : List String} (valued : Q (.value v)) (has : P es)
    (assigned : assign key v path es = some es') : P es' := by
  induction path generalizing es es' with
  | nil =>
    rw [Entries.assign] at assigned
    cases found : es.lookup key <;> rw [found] at assigned <;> cases assigned
    exact hereditary.put has valued
  | cons name names ih =>
    rw [Entries.assign.eq_def] at assigned
    simp only at assigned
    have further {form : Form} {inner : Entries} (found : es.lookup name = some (.table form inner))
        (changed : (assign key v names inner >>= fun below => pure (es.put name (.table form below))) = some es') :
        P es' := by
      have below : P inner := hereditary.table.1 (hereditary.lookup has found)
      exact hereditary.put_of_bind has (fun _ made => hereditary.table.2 (ih below made)) changed
    rcases found : es.lookup name with _ | (v | ⟨_ | _ | _, inner⟩ | elements) <;> rw [found] at assigned
    · exact hereditary.put_of_bind has (fun _ made => hereditary.table.2 (ih hereditary.empty made)) assigned
    · cases assigned
    · cases assigned
    · simp only at assigned
      split at assigned
      · cases assigned
      · exact further found assigned
    · exact further found assigned
    · cases assigned

theorem of_openTable {position : Nat} (has : P es) (opened : openTable key position es = some es') : P es' := by
  unfold Entries.openTable at opened
  rcases found : es.lookup key with _ | (v | ⟨_ | _ | _, inner⟩ | elements) <;> rw [found] at opened <;> cases opened
  · exact hereditary.put has (hereditary.table.2 hereditary.empty)
  · have below : P inner := hereditary.table.1 (hereditary.lookup has found)
    exact hereditary.put (hereditary.remove has) (hereditary.table.2 below)

theorem of_openElement {position : Nat} (has : P es) (opened : openElement key position es = some es') : P es' := by
  unfold Entries.openElement at opened
  rcases found : es.lookup key with _ | (v | _ | elements) <;> rw [found] at opened <;> cases opened
  · exact hereditary.put has hereditary.first
  · exact hereditary.put has (hereditary.next (hereditary.lookup has found))

theorem of_take {b b' : Builder} {statement : Statement}
    (valued : ∀ path key v, statement = .assign path key v → Q (.value v)) (has : P b.root)
    (taken : b.take statement = some b') : P b'.root := by
  cases statement with
  | assign path key v =>
    obtain ⟨root, changed, same⟩ := Option.bind_eq_some_iff.1 taken
    cases same
    exact hereditary.of_atPath (fun _ _ => hereditary.of_assign (valued path key v rfl)) has changed
  | table path key =>
    obtain ⟨root, changed, same⟩ := Option.bind_eq_some_iff.1 taken
    cases same
    exact hereditary.of_atPath (fun _ _ => hereditary.of_openTable) has changed
  | element path key =>
    obtain ⟨root, changed, same⟩ := Option.bind_eq_some_iff.1 taken
    cases same
    exact hereditary.of_atPath (fun _ _ => hereditary.of_openElement) has changed

theorem of_takes {b b' : Builder} {statements : List Statement}
    (valued : ∀ path key v, .assign path key v ∈ statements → Q (.value v)) (has : P b.root)
    (taken : statements.foldlM Builder.take b = some b') : P b'.root := by
  induction statements generalizing b with
  | nil =>
    cases taken
    exact has
  | cons statement statements ih =>
    obtain ⟨next, first, rest⟩ := Option.bind_eq_some_iff.1 taken
    refine ih (fun path key v found => valued path key v (List.mem_cons_of_mem _ found)) ?_ rest
    exact hereditary.of_take (fun path key v same => valued path key v (same ▸ List.mem_cons_self)) has first

/-- A document that statements make has what their values let it have. -/
theorem of_ofStatements? {statements : List Statement}
    (valued : ∀ path key v, .assign path key v ∈ statements → Q (.value v))
    (made : ofStatements? statements = some es) : P es := by
  obtain ⟨b, taken, same⟩ := Option.bind_eq_some_iff.1 made
  cases same
  exact hereditary.of_takes valued hereditary.empty taken

end Hereditary

end Entries

end HeapSampler.Toml

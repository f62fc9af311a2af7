import HeapSampler.Proofs.Settings.Layers

/-!
# Documents in force

Tables that are laid over each other are merged key by key, but an inline table takes the place of all before it,
as does a table laid over an inline table. What is made of a section depends only on the documents that are then
still in force for it (`merged_standing`), and only on what they say as data, however they write it
(`Standing.alike`, `decode_congr`).
-/

namespace HeapSampler.Toml

/-- An inline table. -/
def Value.isInline : Value → Bool
  | .inlineTable _ => true
  | _ => false

/-- What a value is as data, however it is written: an inline table is a table, and an array of inline tables is an
array of tables. -/
def Kind.ofValue : Value → Kind
  | .inlineTable _ => .table
  | .array items => if items.head?.any Value.isInline && items.all Value.isInline then .tables else .value (.array items)
  | v => .value v

/-- What a key stands for as data. -/
def Kind.data : Kind → Kind
  | .value v => .ofValue v
  | kind => kind

end HeapSampler.Toml

namespace HeapSampler.Settings

open Toml
open Toml.Entries (kindAt TableOrNone Distinct)

variable {α : Type} {heading : String} {es es' lower : Entries}

/-! ## Sections as data -/

/-- What a document says of a key in a section that it writes as a table or as an inline table. -/
def tells (es : Entries) : Saying := fun heading name =>
  match es.lookup heading with
  | some (.table _ inner) => kindAt [name] inner
  | some (.value (.inlineTable fields)) => (fields.lookup name).map .value
  | _ => none

/-- A document writes a section as a table or as an inline table. -/
inductive Spelled (heading : String) (es : Entries) : Prop where
  | table {form : Form} {inner : Entries} (found : es.lookup heading = some (.table form inner))
  | inline {fields : List (String × Value)} (found : es.lookup heading = some (.value (.inlineTable fields)))

/-- Two documents have the same in a section, as data. -/
inductive SameSection (heading : String) (es es' : Entries) : Prop where
  /-- They write it with the same keys and values, in any of the forms. -/
  | respelled (spelled : Spelled heading es) (spelled' : Spelled heading es')
      (same : ∀ name, (tells es heading name).map Kind.data = (tells es' heading name).map Kind.data)
  /-- They have the very same, or nothing, under its heading. -/
  | untouched (same : es.lookup heading = es'.lookup heading)

/-- A document writes a section as a table. -/
def isTable (heading : String) (es : Entries) : Bool :=
  match es.lookup heading with
  | some (.table _ _) => true
  | _ => false

/-- A document has something under a heading. -/
def gives (heading : String) (es : Entries) : Bool :=
  (es.lookup heading).isSome

/-- The documents in force for a section, the last first, once another is laid over them: a table is added to tables,
and anything else takes the place of all. -/
def inForceAfter (heading : String) (before : List Entries) (es : Entries) : List Entries :=
  if gives heading es then
    if isTable heading es && before.head?.all (isTable heading) then es :: before else [es]
  else before

/-- Of documents that are laid over each other, those in force for a section, the last first. -/
def inForce (heading : String) (docs : List Entries) : List Entries :=
  docs.foldl (inForceAfter heading) []

/-- What the documents in force say. -/
def standing (docs : List Entries) : Saying := fun heading name =>
  (inForce heading docs).findSome? fun es => tells es heading name

theorem isTable_iff : isTable heading es = true ↔ ∃ form inner, es.lookup heading = some (.table form inner) := by
  rw [isTable]
  rcases es.lookup heading with _ | _ | _ | _ <;> simp

theorem kindAt_eq_table_iff : kindAt [heading] es = some .table ↔ isTable heading es = true := by
  rw [Entries.kindAt_single, isTable]
  rcases es.lookup heading with _ | _ | _ | _ <;> simp [Item.kind]

theorem tells_of_isTable (table : isTable heading es = true) (name : String) :
    tells es heading name = saying es heading name := by
  obtain ⟨form, inner, found⟩ := isTable_iff.1 table
  rw [tells, saying, found, Entries.kindAt_of_table found]

theorem tells_of_inline {fields : List (String × Value)}
    (found : es.lookup heading = some (.value (.inlineTable fields))) (name : String) :
    tells es heading name = (fields.lookup name).map .value := by
  rw [tells, found]

theorem Spelled.of_isTable (table : isTable heading es = true) : Spelled heading es := by
  obtain ⟨form, inner, found⟩ := isTable_iff.1 table
  exact .table found

theorem SameSection.spelled (same : SameSection heading es es') : Spelled heading es → Spelled heading es' := by
  intro spelled
  cases same with
  | respelled _ spelled' _ => exact spelled'
  | untouched same =>
    cases spelled with
    | table found => exact .table (same ▸ found)
    | inline found => exact .inline (same ▸ found)

theorem SameSection.tells (same : SameSection heading es es') (name : String) :
    (Settings.tells es heading name).map Kind.data = (Settings.tells es' heading name).map Kind.data := by
  cases same with
  | respelled _ _ same => exact same name
  | untouched same => rw [Settings.tells, Settings.tells, same]

/-! ## Documents in force -/

/-- A document says of a section what the documents in force for it say. -/
structure Standing (heading : String) (es : Entries) (force : List Entries) : Prop where
  /-- Under the heading stands what the last of them has there. -/
  top : kindAt [heading] es = force.head?.bind (kindAt [heading])
  /-- Of a key in it is said what the last of them says that says anything. -/
  keys : ∀ name, saying es heading name = force.findSome? fun d => saying d heading name
  /-- Either all are tables, or only one is in force. -/
  shape : (∀ d ∈ force, isTable heading d = true) ∨ ∃ d, force = [d]

section Over

variable {before : List Entries}

theorem Standing.tableOrNone (standing : Standing heading es before)
    (tables : before.head?.all (isTable heading) = true) : TableOrNone heading es := by
  rw [Entries.tableOrNone_iff, standing.top]
  cases before with
  | nil => exact .inl rfl
  | cons d _ => exact .inr (kindAt_eq_table_iff.2 tables)

/-- A table laid over tables is in force with them. -/
theorem Standing.add (standing : Standing heading lower before) (distinct : Distinct es)
    (table : isTable heading es = true) (tables : before.head?.all (isTable heading) = true) :
    Standing heading (Entries.over lower es) (es :: before) where
  top := by
    have top : kindAt [heading] es = some .table := kindAt_eq_table_iff.2 table
    rw [Entries.kindAt_over_single distinct, top]
    exact top.symm
  keys := by
    intro name
    have laid : kindAt [heading, name] (Entries.over lower es) =
        (kindAt [heading, name] es).or (kindAt [heading, name] lower) :=
      Entries.kindAt_over distinct (standing.tableOrNone tables) (.inr (isTable_iff.1 table))
    rw [saying, laid, List.findSome?_cons, ← saying, ← saying, standing.keys]
    cases saying es heading name <;> rfl
  shape := by
    refine .inl ?_
    intro d found
    rcases List.mem_cons.1 found with rfl | found
    · exact table
    · rcases standing.shape with all | ⟨d', rfl⟩
      · exact all d found
      · rw [List.mem_singleton.1 found]
        exact tables

/-- Anything else is in force alone. -/
theorem Standing.replace {item : Item} (standing : Standing heading lower before) (distinct : Distinct es)
    (there : es.lookup heading = some item)
    (apart : ¬ (isTable heading es = true ∧ before.head?.all (isTable heading) = true)) :
    Standing heading (Entries.over lower es) [es] where
  top := by
    rw [Entries.kindAt_over_single distinct, Entries.kindAt_single, there]
    exact (Entries.kindAt_single.trans (congrArg _ there)).symm
  keys := by
    intro name
    have differ : kindAt [heading] lower ≠ some .table ∨ item.kind ≠ .table := by
      by_cases table : isTable heading es = true
      · refine .inl ?_
        rw [standing.top]
        cases before with
        | nil => simp
        | cons d _ =>
          intro top
          exact apart ⟨table, kindAt_eq_table_iff.1 top⟩
      · refine .inr fun kind => table (kindAt_eq_table_iff.1 ?_)
        rw [Entries.kindAt_single, there, Option.map_some, kind]
    rw [saying, Entries.kindAt_over_replaced distinct there differ, List.findSome?_cons, ← saying]
    cases saying es heading name <;> rfl
  shape := .inr ⟨es, rfl⟩

/-- A document laid over another says of a section what the documents say that are in force then. -/
theorem Standing.over (standing : Standing heading lower before) (distinct : Distinct es) :
    Standing heading (Entries.over lower es) (inForceAfter heading before es) := by
  unfold inForceAfter gives
  rcases there : es.lookup heading with _ | item
  · have same (path : List String) : kindAt (heading :: path) (Entries.over lower es) = kindAt (heading :: path) lower :=
      Entries.kindAt_over_absent distinct there path
    exact ⟨(same []).trans standing.top, fun name => (same [name]).trans (standing.keys name), standing.shape⟩
  · rw [if_pos Option.isSome_some]
    by_cases tables : isTable heading es = true ∧ before.head?.all (isTable heading) = true
    · rw [if_pos (by simpa using tables)]
      exact standing.add distinct tables.1 tables.2
    · rw [if_neg (by simpa using tables)]
      exact standing.replace distinct there tables

end Over

theorem foldl_standing {docs before : List Entries} (distinct : ∀ es ∈ docs, Distinct es)
    (standing : Standing heading lower before) :
    Standing heading (docs.foldl Entries.over lower) (docs.foldl (inForceAfter heading) before) := by
  induction docs generalizing lower before with
  | nil => exact standing
  | cons es docs ih =>
    have first : Distinct es := distinct es List.mem_cons_self
    exact ih (fun d found => distinct d (List.mem_cons_of_mem es found)) (standing.over first)

/-- Documents that are laid over each other say what those in force say. -/
theorem merged_standing {docs : List Entries} (distinct : ∀ es ∈ docs, Distinct es) (heading : String) :
    Standing heading (merged docs) (inForce heading docs) :=
  foldl_standing distinct ⟨rfl, fun _ => rfl, .inl fun _ found => absurd found List.not_mem_nil⟩

/-- What is read back has the same documents in force. -/
theorem Standing.congr {force : List Entries} (standing : Standing heading es force)
    (same : ∀ path, kindAt path es' = kindAt path es) : Standing heading es' force :=
  ⟨(same _).trans standing.top, fun name => (same _).trans (standing.keys name), standing.shape⟩

theorem Standing.self (heading : String) (es : Entries) : Standing heading es [es] where
  top := rfl
  keys := fun _ => List.findSome?_singleton.symm
  shape := .inr ⟨es, rfl⟩

/-! ## Sections that give the same -/

theorem findSome?_tells {force : List Entries} (tables : ∀ d ∈ force, isTable heading d = true) (name : String) :
    (force.findSome? fun d => tells d heading name) = force.findSome? fun d => saying d heading name := by
  induction force with
  | nil => rfl
  | cons d force ih =>
    rw [List.findSome?_cons, List.findSome?_cons, tells_of_isTable (tables d List.mem_cons_self),
      ih fun d' found => tables d' (List.mem_cons_of_mem d found)]

theorem gives_ofFields (fields : List (String × Value)) :
    Gives (.ofFields fields) fun name => (fields.lookup name).map .value := by
  intro α name place read fallback
  show _ = told read fallback ((fields.lookup name).map .value)
  unfold Section.get Section.ofFields
  cases fields.lookup name <;> rfl

/-- The section of documents in force that are all tables or inline tables. -/
theorem Standing.find {force : List Entries} (standing : Standing heading es force)
    (spelled : ∀ d ∈ force, Spelled heading d) : ∃ part, Section.find es heading = some part ∧
      Gives part fun name => force.findSome? fun d => tells d heading name := by
  by_cases tables : ∀ d ∈ force, isTable heading d = true
  · have table : TableOrNone heading es := by
      refine standing.tableOrNone ?_
      cases force with
      | nil => rfl
      | cons d _ => exact tables d List.mem_cons_self
    obtain ⟨part, found, gives⟩ := find_of_table table
    refine ⟨part, found, fun α name place read fallback => ?_⟩
    show _ = told read fallback (force.findSome? fun d => tells d heading name)
    rw [gives, standing.keys, findSome?_tells tables]
  · obtain ⟨d, rfl⟩ := standing.shape.resolve_left tables
    cases spelled d (List.mem_singleton_self d) with
    | table found => exact absurd (fun d' only => List.mem_singleton.1 only ▸ isTable_iff.2 ⟨_, _, found⟩) tables
    | @inline fields found =>
      -- an inline table is alone in force, and stands there as a value
      have top : kindAt [heading] es = some (.value (.inlineTable fields)) := by
        rw [standing.top, List.head?_cons, Option.bind_some, Entries.kindAt_single, found]
        rfl
      have there : es.lookup heading = some (.value (.inlineTable fields)) := Entries.lookup_of_kindAt_value top
      refine ⟨.ofFields fields, by rw [Section.find, there], fun α name place read fallback => ?_⟩
      have alone : ([d].findSome? fun d => tells d heading name) = (fields.lookup name).map .value := by
        rw [List.findSome?_singleton, tells_of_inline found]
      rw [gives_ofFields fields α name place read fallback]
      exact congrArg (told read fallback) alone.symm

/-- A type of settings without tables and arrays of tables. -/
def RefusesTables (read : Value → Option α) : Prop :=
  ∀ v, Kind.ofValue v ≠ .value v → read v = none

/-- Two sections give every setting the same. -/
def Alike (part part' : Section) : Prop :=
  ∀ (α : Type) (name : String) (place : Nat) (read : Value → Option α) (fallback : α), RefusesTables read →
    part.get name place read fallback = part'.get name place read fallback

theorem ofValue_cases (v : Value) : Kind.ofValue v = .value v ∨ Kind.ofValue v = .table ∨ Kind.ofValue v = .tables := by
  unfold Kind.ofValue
  split
  · exact .inr (.inl rfl)
  · split
    · exact .inr (.inr rfl)
    · exact .inl rfl
  · exact .inl rfl

/-- How a value is written makes no difference to a setting. -/
theorem told_data {read : Value → Option α} (refuses : RefusesTables read) (fallback : α) (said : Option Kind) :
    told read fallback (said.map Kind.data) = told read fallback said := by
  rcases said with _ | (v | _ | _)
  · rfl
  · rw [Option.map_some, Kind.data]
    by_cases plain : Kind.ofValue v = .value v
    · rw [plain]
    · rw [told, refuses v plain]
      rcases (ofValue_cases v).resolve_left plain with table | tables
      · rw [table]
        rfl
      · rw [tables]
        rfl
  · rfl
  · rfl

theorem Alike.refl (part : Section) : Alike part part :=
  fun _ _ _ _ _ _ => rfl

theorem Gives.alike {part part' : Section} {said said' : String → Option Kind} (gives : Gives part said)
    (gives' : Gives part' said') (same : ∀ name, (said name).map Kind.data = (said' name).map Kind.data) :
    Alike part part' := by
  intro α name place read fallback refuses
  rw [gives, gives', ← told_data refuses, same, told_data refuses]

theorem findSome?_alike {force force' : List Entries} (same : List.Forall₂ (SameSection heading) force force')
    (name : String) : (force.findSome? fun d => tells d heading name).map Kind.data =
      (force'.findSome? fun d => tells d heading name).map Kind.data := by
  induction same with
  | nil => rfl
  | @cons d d' force force' first rest ih =>
    have told := first.tells name
    rw [List.findSome?_cons, List.findSome?_cons]
    rcases first : tells d heading name with _ | kind <;> rcases first' : tells d' heading name with _ | kind'
    · exact ih
    · rw [first, first'] at told
      cases told
    · rw [first, first'] at told
      cases told
    · rw [first, first'] at told
      exact told

/-- What is no table under a heading is read by itself. -/
theorem find_eq_of_kind (same : kindAt [heading] es = kindAt [heading] es') (noTable : kindAt [heading] es ≠ some .table) :
    Section.find es heading = Section.find es' heading := by
  rcases top : kindAt [heading] es with _ | (v | _ | _) <;> rw [top] at same noTable
  · rw [Section.find, Section.find, Entries.lookup_of_kindAt_none top, Entries.lookup_of_kindAt_none same.symm]
  · rw [Section.find, Section.find, Entries.lookup_of_kindAt_value top, Entries.lookup_of_kindAt_value same.symm]
  · exact absurd rfl noTable
  · obtain ⟨elements, found⟩ := Entries.lookup_of_kindAt_tables top
    obtain ⟨elements', found'⟩ := Entries.lookup_of_kindAt_tables same.symm
    rw [Section.find, Section.find, found, found']

/-- Documents in force that have the same in a section, as data, give the same section. -/
theorem Standing.alike {force force' : List Entries} (standing : Standing heading es force)
    (standing' : Standing heading es' force') (same : List.Forall₂ (SameSection heading) force force') :
    Option.Rel Alike (Section.find es heading) (Section.find es' heading) := by
  by_cases spelled : ∀ d ∈ force, Spelled heading d
  · have spelled' : ∀ d ∈ force', Spelled heading d := by
      clear standing standing'
      induction same with
      | nil => simp
      | cons first rest ih =>
        rw [List.forall_mem_cons] at spelled ⊢
        exact ⟨first.spelled spelled.1, ih spelled.2⟩
    obtain ⟨part, found, gives⟩ := standing.find spelled
    obtain ⟨part', found', gives'⟩ := standing'.find spelled'
    rw [found, found']
    exact .some (gives.alike gives' (findSome?_alike same))
  · -- what is written in no such form is alone in force
    have single : ∃ d, force = [d] := by
      refine standing.shape.resolve_left ?_
      intro tables
      exact spelled fun d found => .of_isTable (tables d found)
    obtain ⟨d, rfl⟩ := single
    obtain ⟨d', rest, first, none, rfl⟩ := List.forall₂_cons_left_iff.1 same
    cases none
    have unspelled : ¬ Spelled heading d := fun this => spelled fun _ only => List.mem_singleton.1 only ▸ this
    cases first with
    | respelled there _ _ => exact absurd there unspelled
    | untouched untouched =>
      have top : kindAt [heading] es = kindAt [heading] d := standing.top
      have top' : kindAt [heading] es' = kindAt [heading] d := by
        rw [standing'.top, List.head?_cons, Option.bind_some, Entries.kindAt_single, Entries.kindAt_single, untouched]
      have noTable : kindAt [heading] es ≠ some .table := by
        intro table
        exact unspelled (.of_isTable (kindAt_eq_table_iff.1 (top ▸ table)))
      rw [find_eq_of_kind (top.trans top'.symm) noTable]
      cases Section.find es' heading with
      | none => exact .none
      | some part => exact .some (.refl part)

/-! ## Settings that are the same -/

theorem refuses_asString : RefusesTables asString := by
  intro v other
  cases v with
  | string text => exact absurd rfl other
  | _ => rfl

theorem refuses_asNat : RefusesTables asNat := by
  intro v other
  cases v with
  | integer n => exact absurd rfl other
  | _ => rfl

theorem refuses_asMillis : RefusesTables asMillis :=
  fun v other => by rw [asMillis, refuses_asNat v other]; rfl

theorem refuses_asSeconds : RefusesTables asSeconds :=
  fun v other => by rw [asSeconds, refuses_asNat v other]; rfl

theorem refuses_asUInt32 : RefusesTables asUInt32 :=
  fun v other => by rw [asUInt32, refuses_asNat v other]; rfl

theorem refuses_asPaths : RefusesTables asPaths := by
  intro v other
  cases v with
  | array items =>
    rcases items with _ | ⟨first, rest⟩
    · exact absurd rfl other
    · cases first with
      | inlineTable fields => rfl
      | _ => exact absurd rfl other
  | _ => rfl

theorem decodeGroups_congr {part part' : Section} (alike : Alike part part') :
    decodeGroups part = decodeGroups part' := by
  simp only [decodeGroups, alike _ _ _ _ _ refuses_asPaths, alike _ _ _ _ _ refuses_asString,
    alike _ _ _ _ _ refuses_asMillis, alike _ _ _ _ _ refuses_asSeconds, alike _ _ _ _ _ refuses_asUInt32]

theorem decodeSubject_congr {part part' : Section} (alike : Alike part part') :
    decodeSubject part = decodeSubject part' := by
  simp only [decodeSubject, alike _ _ _ _ _ refuses_asString, alike _ _ _ _ _ refuses_asMillis,
    alike _ _ _ _ _ refuses_asUInt32]

theorem decodeOutput_congr {part part' : Section} (alike : Alike part part') :
    decodeOutput part = decodeOutput part' := by
  simp only [decodeOutput, alike _ _ _ _ _ refuses_asString]

theorem decode_eq (es : Entries) : decode es =
    ((Section.find es "cgroup").bind decodeGroups).bind fun groups =>
      ((Section.find es "subject").bind decodeSubject).bind fun subject =>
        ((Section.find es "output").bind decodeOutput).map fun output => ⟨groups, subject, output⟩ := by
  simp only [decode, Option.bind_eq_bind, Option.bind_assoc, Option.pure_def, Option.map_eq_bind]
  rfl

theorem bind_congr_alike {part part' : Option Section} {make : Section → Option α} (alike : Option.Rel Alike part part')
    (congr : ∀ part part', Alike part part' → make part = make part') : part.bind make = part'.bind make := by
  cases alike with
  | none => rfl
  | some alike => exact congr _ _ alike

/-- Documents whose sections give the same make the same settings. -/
theorem decode_congr
    (alike : ∀ heading ∈ headings, Option.Rel Alike (Section.find es heading) (Section.find es' heading)) :
    decode es = decode es' := by
  have groups := alike "cgroup" (by simp [headings])
  have subject := alike "subject" (by simp [headings])
  have output := alike "output" (by simp [headings])
  rw [decode_eq, decode_eq, bind_congr_alike groups fun _ _ => decodeGroups_congr,
    bind_congr_alike subject fun _ _ => decodeSubject_congr, bind_congr_alike output fun _ _ => decodeOutput_congr]

/-- Documents that say the same make the same settings. -/
theorem decode_of_same (same : ∀ path, kindAt path es' = kindAt path es) : decode es' = decode es := by
  refine decode_congr fun heading known => ?_
  have standing' := (Standing.self heading es).congr same
  exact standing'.alike (.self heading es) (.cons (.untouched rfl) .nil)

end HeapSampler.Settings

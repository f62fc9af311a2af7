import HeapSampler.Proofs.Settings.InForce
import HeapSampler.Proofs.Toml.Reread

/-!
# Spellings of a section

A section is written as a table, with a header or with dotted keys, or as an inline table. What is loaded from
several files is the same, however their sections are written, as long as the same documents are in force for each
section (`loadLayers_respelled`). So a header and dotted keys can always stand for each other, and an inline table
for both where no other file gives the section; elsewhere it makes a difference (`inline_section_resets`).
-/

namespace HeapSampler.Settings

open Toml
open Toml.Entries (kindAt Distinct)

variable {heading : String} {es es' : Entries}

/-! ## Files -/

/-- All files that exist can be read. -/
def Readable (t : FileTree) (ps : List Path) : Prop :=
  ∀ p ∈ ps, ∃ layer, readLayer t p = .ok layer

/-- The documents in the files that exist and can be read. -/
def documents (t : FileTree) (ps : List Path) : List Entries :=
  ps.filterMap fun p => (readLayer t p).toOption.join

/-- Two files give the same, as data: both are missing, or cannot be read for one reason, or have the same sections. -/
inductive Respelled (t t' : FileTree) (p p' : Path) : Prop where
  | untouched (same : readLayer t p = readLayer t' p')
  | rewritten {es es' : Entries} (content : readLayer t p = .ok (some es)) (content' : readLayer t' p' = .ok (some es'))
      (sections : ∀ heading ∈ headings, SameSection heading es es')

variable {t t' : FileTree} {p p' : Path} {ps ps' : List Path}

theorem distinct_of_readLayer (content : readLayer t p = .ok (some es)) : Distinct es := by
  unfold readLayer at content
  split at content
  · rcases text : (t.readText p).mapError SettingsError.io with e | text <;> rw [text] at content
    · cases content
    · simp only [bind, Except.bind] at content
      split at content
      · rename_i parsed
        cases content
        exact Entries.parse?_distinct parsed
      · cases content
  · cases content

theorem documents_distinct (t : FileTree) (ps : List Path) : ∀ es ∈ documents t ps, Distinct es := by
  intro es found
  obtain ⟨p, -, content⟩ := List.mem_filterMap.1 found
  rcases layer : readLayer t p with e | _ | es' <;> rw [layer] at content <;> cases content
  exact distinct_of_readLayer layer

/-- Flat documents are read back once they are laid over each other. -/
theorem readsBack_merged {docs : List Entries} (flat : ∀ es ∈ docs, Entries.Flat es)
    (distinct : ∀ es ∈ docs, Distinct es) : ReadsBack (merged docs) := by
  have onto {lower : Entries} (under : Entries.Flat lower) (once : Distinct lower) :
      Entries.Flat (docs.foldl Entries.over lower) ∧ Distinct (docs.foldl Entries.over lower) := by
    induction docs generalizing lower with
    | nil => exact ⟨under, once⟩
    | cons es docs ih =>
      rw [List.forall_mem_cons] at flat distinct
      exact ih flat.2 distinct.2 (under.over flat.1) (Entries.Distinct.over lower once es distinct.1)
  obtain ⟨sound, once⟩ := onto Entries.flat_nil Distinct.empty
  exact Entries.reread_flat sound once

theorem readsBack_of_flat (flat : ∀ es ∈ documents t ps, Entries.Flat es) : ReadsBack (merged (documents t ps)) :=
  readsBack_merged flat (documents_distinct t ps)

theorem documents_cons (content : readLayer t p = .ok (some es)) : documents t (p :: ps) = es :: documents t ps :=
  List.filterMap_cons_some (by rw [content]; rfl)

/-- Files that can be read are laid over each other. -/
theorem mergeLayers_readable (readable : Readable t ps) (lower : Entries) :
    mergeLayers t lower ps = .ok ((documents t ps).foldl Entries.over lower) := by
  induction ps generalizing lower with
  | nil => rfl
  | cons p ps ih =>
    obtain ⟨layer, content⟩ := readable p List.mem_cons_self
    have rest := ih fun q found => readable q (List.mem_cons_of_mem p found)
    rw [mergeLayers, content]
    cases layer with
    | none =>
      have skipped : documents t (p :: ps) = documents t ps := List.filterMap_cons_none (by rw [content]; rfl)
      rw [skipped]
      exact rest lower
    | some es =>
      rw [documents_cons content]
      exact rest _

/-- Files that give the same can be read, or the first that cannot be read is the error of both. -/
theorem Respelled.readable (respelled : List.Forall₂ (Respelled t t') ps ps') :
    (Readable t ps ∧ Readable t' ps') ∨
      ∃ e, ∀ lower lower', mergeLayers t lower ps = .error e ∧ mergeLayers t' lower' ps' = .error e := by
  induction respelled with
  | nil => exact .inl ⟨fun _ found => absurd found List.not_mem_nil, fun _ found => absurd found List.not_mem_nil⟩
  | @cons p p' ps ps' first rest ih =>
    have layers : (∃ e, readLayer t p = .error e ∧ readLayer t' p' = .error e) ∨
        ∃ layer layer', readLayer t p = .ok layer ∧ readLayer t' p' = .ok layer' := by
      cases first with
      | rewritten content content' _ => exact .inr ⟨_, _, content, content'⟩
      | untouched same =>
        rcases content : readLayer t p with e | layer
        · exact .inl ⟨e, rfl, same ▸ content⟩
        · exact .inr ⟨layer, layer, rfl, same ▸ content⟩
    obtain ⟨e, failed, failed'⟩ | ⟨layer, layer', content, content'⟩ := layers
    · refine .inr ⟨e, fun lower lower' => ?_⟩
      rw [mergeLayers, mergeLayers, failed, failed']
      exact ⟨rfl, rfl⟩
    · obtain ⟨readable, readable'⟩ | ⟨e, failed⟩ := ih
      · refine .inl ⟨?_, ?_⟩
        · exact List.forall_mem_cons.2 ⟨⟨layer, content⟩, readable⟩
        · exact List.forall_mem_cons.2 ⟨⟨layer', content'⟩, readable'⟩
      · refine .inr ⟨e, fun lower lower' => ?_⟩
        rw [mergeLayers, mergeLayers, content, content']
        cases layer <;> cases layer' <;> exact failed _ _

/-- Files that give the same have documents with the same sections. -/
theorem Respelled.documents (respelled : List.Forall₂ (Respelled t t') ps ps') (known : heading ∈ headings) :
    List.Forall₂ (SameSection heading) (documents t ps) (Settings.documents t' ps') := by
  refine List.rel_filterMap ?_ respelled
  intro p p' file
  cases file with
  | untouched same =>
    show Option.Rel _ (readLayer t p).toOption.join (readLayer t' p').toOption.join
    rw [← same]
    cases (readLayer t p).toOption.join with
    | none => exact .none
    | some es => exact .some (.untouched rfl)
  | rewritten content content' sections =>
    show Option.Rel _ (readLayer t p).toOption.join (readLayer t' p').toOption.join
    rw [content, content']
    exact .some (sections heading known)

/-- What is loaded from files that can be read: the settings of the documents laid over each other. -/
theorem loadLayers_readable (readable : Readable t ps) (readsBack : ReadsBack (merged (documents t ps))) :
    loadLayers t ps = match decode (merged (documents t ps)) with
      | some s => .ok s.repaired
      | none => .error .notDecodable := by
  obtain ⟨es, back, same⟩ := readsBack
  have merges : mergeLayers t [] ps = .ok (merged (documents t ps)) := mergeLayers_readable readable []
  have again : decode es = decode (merged (documents t ps)) := decode_of_same same
  rw [loadLayers, merges]
  simp only [bind, Except.bind, back, Option.bind_some, again]
  cases decode (merged (documents t ps)) <;> rfl

/-! ## The same in force -/

/-- For a section the same is in force in two lists of documents, as data. -/
def SameInForce (heading : String) (docs docs' : List Entries) : Prop :=
  List.Forall₂ (SameSection heading) (inForce heading docs) (inForce heading docs')

theorem SameSection.gives (same : SameSection heading es es') : gives heading es = Settings.gives heading es' := by
  have of_spelled {es : Entries} (spelled : Spelled heading es) : Settings.gives heading es = true := by
    rcases spelled with found | found <;> rw [Settings.gives, found] <;> rfl
  cases same with
  | respelled spelled spelled' _ => rw [of_spelled spelled, of_spelled spelled']
  | untouched same => rw [Settings.gives, Settings.gives, same]

/-- Two documents have the same in a section, both in a table or neither. -/
structure SameForm (heading : String) (es es' : Entries) : Prop where
  same : SameSection heading es es'
  table : isTable heading es = isTable heading es'

/-- Where the same is in force in the same forms, it still is once the same is laid over it. -/
theorem SameForm.after {before before' : List Entries} (standing : List.Forall₂ (SameForm heading) before before')
    (form : SameForm heading es es') :
    List.Forall₂ (SameForm heading) (inForceAfter heading before es) (inForceAfter heading before' es') := by
  have last : before.head?.all (isTable heading) = before'.head?.all (isTable heading) := by
    cases standing with
    | nil => rfl
    | cons first rest => exact first.table
  rw [inForceAfter, inForceAfter, form.same.gives, form.table, last]
  split
  · split
    · exact .cons form standing
    · exact .cons form .nil
  · exact standing

theorem sameInForce_of_isTable {docs docs' : List Entries} (same : List.Forall₂ (SameSection heading) docs docs')
    (tables : List.Forall₂ (fun es es' => isTable heading es = isTable heading es') docs docs') :
    SameInForce heading docs docs' := by
  have forms : List.Forall₂ (SameForm heading) docs docs' := by
    induction same with
    | nil => exact .nil
    | cons first rest ih =>
      rw [List.forall₂_cons] at tables ⊢
      exact ⟨⟨first, tables.1⟩, ih tables.2⟩
  have inForce : List.Forall₂ (SameForm heading) (inForce heading docs) (Settings.inForce heading docs') :=
    List.rel_foldl (P := List.Forall₂ (SameForm heading)) (R := SameForm heading)
      (fun _ _ standing _ _ form => SameForm.after standing form) .nil forms
  exact inForce.imp fun _ _ => SameForm.same

/-- Tables are all in force. -/
theorem inForce_of_tables {docs : List Entries} (tables : ∀ es ∈ docs, gives heading es = true → isTable heading es = true) :
    inForce heading docs = (docs.filter (gives heading)).reverse := by
  have onto (before : List Entries) (all : ∀ es ∈ before, isTable heading es = true) :
      docs.foldl (inForceAfter heading) before = (docs.filter (gives heading)).reverse ++ before := by
    induction docs generalizing before with
    | nil => rfl
    | cons es docs ih =>
      rw [List.forall_mem_cons] at tables
      rw [List.foldl_cons, List.filter_cons, inForceAfter]
      by_cases there : gives heading es = true
      · have table := tables.1 there
        have last : before.head?.all (isTable heading) = true := by
          cases before with
          | nil => rfl
          | cons d _ => exact all d List.mem_cons_self
        rw [if_pos there, if_pos there, table, last, Bool.and_self, if_pos rfl, ih tables.2, List.reverse_cons,
          List.append_assoc]
        · rfl
        · exact List.forall_mem_cons.2 ⟨table, all⟩
      · rw [if_neg there, if_neg there]
        exact ih tables.2 before all
  exact (onto [] fun _ found => absurd found List.not_mem_nil).trans (List.append_nil _)

theorem foldl_inForceAfter_of_none {docs : List Entries} (none : docs.filter (gives heading) = []) (before : List Entries) :
    docs.foldl (inForceAfter heading) before = before := by
  induction docs with
  | nil => rfl
  | cons es docs ih =>
    rw [List.filter_eq_nil_iff, List.forall_mem_cons] at none
    rw [List.foldl_cons, inForceAfter, if_neg none.1]
    exact ih (List.filter_eq_nil_iff.2 none.2)

/-- What is given once is in force. -/
theorem inForce_of_alone {docs : List Entries} (alone : (docs.filter (gives heading)).length ≤ 1) :
    inForce heading docs = docs.filter (gives heading) := by
  unfold inForce
  induction docs with
  | nil => rfl
  | cons es docs ih =>
    rw [List.foldl_cons, List.filter_cons] at *
    by_cases there : gives heading es = true
    · rw [if_pos there, List.length_cons] at alone
      have others : docs.filter (gives heading) = [] := List.eq_nil_of_length_eq_zero (by omega)
      have first : inForceAfter heading [] es = [es] := by
        rw [inForceAfter, if_pos there]
        exact ite_self _
      rw [if_pos there, others, first, foldl_inForceAfter_of_none others]
    · rw [if_neg there] at alone
      rw [if_neg there, inForceAfter, if_neg there]
      exact ih alone

theorem sameInForce_of_alone {docs docs' : List Entries} (same : List.Forall₂ (SameSection heading) docs docs')
    (alone : (docs.filter (gives heading)).length ≤ 1) : SameInForce heading docs docs' := by
  have given : List.Forall₂ (SameSection heading) (docs.filter (gives heading)) (docs'.filter (gives heading)) := by
    refine List.rel_filter ?_ same
    intro es es' same
    show gives heading es = true ↔ gives heading es' = true
    rw [same.gives]
  have alone' : (docs'.filter (gives heading)).length ≤ 1 := given.length_eq ▸ alone
  rw [SameInForce, inForce_of_alone alone, inForce_of_alone alone']
  exact given

/-! ## Loading -/

/-- How two lists of files are loaded whose files give the same, as data, in whichever forms. -/
structure SpellingLaw (t t' : FileTree) (ps ps' : List Path) : Prop where
  /-- The same is loaded if the same is in force for each section. -/
  same : (∀ heading ∈ headings, SameInForce heading (documents t ps) (documents t' ps')) →
    loadLayers t ps = loadLayers t' ps'
  /-- It is so for a section that is nowhere changed from a table to an inline table or back. -/
  tables : ∀ heading ∈ headings,
    List.Forall₂ (fun es es' => isTable heading es = isTable heading es') (documents t ps) (documents t' ps') →
    SameInForce heading (documents t ps) (documents t' ps')
  /-- And for a section that is given only once, in whichever form. -/
  alone : ∀ heading ∈ headings, ((documents t ps).filter (gives heading)).length ≤ 1 →
    SameInForce heading (documents t ps) (documents t' ps')
  /-- Where all documents that give a section give tables, all are in force. -/
  whole : ∀ heading ∈ headings, (∀ es ∈ documents t ps, gives heading es = true → isTable heading es = true) →
    inForce heading (documents t ps) = ((documents t ps).filter (gives heading)).reverse
  /-- Of a setting counts what the last document in force says that says anything of it, so what only an earlier one
  says is kept. -/
  kept : Readable t ps → (∀ heading ∈ headings, ∀ es ∈ inForce heading (documents t ps), Spelled heading es) →
    ∀ s, loadLayers t ps = .ok s ↔ ∃ said, Follows (standing (documents t ps)) said ∧ s = said.repaired

/-- **How sections are written makes no difference while the same documents are in force.** -/
theorem loadLayers_respelled (t t' : FileTree) (ps ps' : List Path) (respelled : List.Forall₂ (Respelled t t') ps ps')
    (readsBack : Readable t ps → ReadsBack (merged (documents t ps)))
    (readsBack' : Readable t' ps' → ReadsBack (merged (documents t' ps'))) : SpellingLaw t t' ps ps' := by
  constructor
  case same =>
    intro inForce
    obtain ⟨readable, readable'⟩ | ⟨e, failed⟩ := Respelled.readable respelled
    · have decoded : decode (merged (documents t ps)) = decode (merged (documents t' ps')) := by
        refine decode_congr fun heading known => ?_
        have standing := merged_standing (documents_distinct t ps) heading
        have standing' := merged_standing (documents_distinct t' ps') heading
        exact standing.alike standing' (inForce heading known)
      rw [loadLayers_readable readable (readsBack readable), loadLayers_readable readable' (readsBack' readable'), decoded]
    · rw [loadLayers, loadLayers, (failed [] []).1, (failed [] []).2]
  case tables => exact fun heading known => sameInForce_of_isTable (Respelled.documents respelled known)
  case alone => exact fun heading known => sameInForce_of_alone (Respelled.documents respelled known)
  case whole => exact fun heading known => inForce_of_tables
  case kept =>
    intro readable spelled s
    have decoded (said : Settings) : decode (merged (documents t ps)) = some said ↔
        Follows (standing (documents t ps)) said :=
      decode_of_gives fun heading known =>
        (merged_standing (documents_distinct t ps) heading).find (spelled heading known)
    rw [loadLayers_readable readable (readsBack readable)]
    constructor
    · intro loaded
      rcases said : decode (merged (documents t ps)) with _ | settings <;> rw [said] at loaded
      · cases loaded
      · exact ⟨settings, (decoded settings).1 said, (Except.ok.inj loaded).symm⟩
    · rintro ⟨said, follows, rfl⟩
      rw [(decoded said).2 follows]

namespace Forms

/-- Files with sections in several forms. -/
def texts : List (String × String) := [
  ("/leaf", "[cgroup]\nleaf = \"a\"\n"),
  ("/retries", "cgroup.retries = 3\n"),
  ("/inline", "cgroup = \x7b retries = 3 \x7d\n"),
  ("/dotted", "cgroup.retries = 3\n[output]\nsummary_file = \"x\"\n"),
  ("/headed", "output = \x7b summary_file = \"x\" \x7d\n[cgroup]\nretries = 3\n")]

def files : FileTree :=
  texts.foldl (fun t file => (t.write (Path.ofString file.1) (Bytes.ofString file.2)).toOption.getD t) .empty

def leaf : Entries :=
  [("cgroup", .table (.headed 1) [("leaf", .value (.string "a"))])]

def retries : Entries :=
  [("cgroup", .table .dotted [("retries", .value (.integer 3))])]

def inline : Entries :=
  [("cgroup", .value (.inlineTable [("retries", .integer 3)]))]

def dotted : Entries :=
  [("cgroup", .table .dotted [("retries", .value (.integer 3))]),
    ("output", .table (.headed 1) [("summary_file", .value (.string "x"))])]

def headed : Entries :=
  [("output", .value (.inlineTable [("summary_file", .string "x")])),
    ("cgroup", .table (.headed 1) [("retries", .value (.integer 3))])]

theorem flat : ∀ es ∈ [leaf, retries, inline, dotted, headed], Entries.Flat es := by
  simp [Item.Flat, Entries.OfValues, leaf, retries, inline, dotted, headed]

theorem leaf_content : readLayer files (Path.ofString "/leaf") = .ok (some leaf) :=
  readLayer_file (by decide +kernel) (by cbv) (by cbv)

theorem retries_content : readLayer files (Path.ofString "/retries") = .ok (some retries) :=
  readLayer_file (by decide +kernel) (by cbv) (by cbv)

theorem inline_content : readLayer files (Path.ofString "/inline") = .ok (some inline) :=
  readLayer_file (by decide +kernel) (by cbv) (by cbv)

theorem dotted_content : readLayer files (Path.ofString "/dotted") = .ok (some dotted) :=
  readLayer_file (by decide +kernel) (by cbv) (by cbv)

theorem headed_content : readLayer files (Path.ofString "/headed") = .ok (some headed) :=
  readLayer_file (by decide +kernel) (by cbv) (by cbv)

/-- What a key with a value says as data, in a table and in an inline table. -/
theorem data_single (key name : String) (v : Value) :
    (kindAt [name] [(key, .value v)]).map Kind.data = (([(key, v)].lookup name).map Kind.value).map Kind.data := by
  rw [Entries.kindAt_single, List.lookup_cons, List.lookup_cons]
  cases name == key <;> rfl

theorem documents_pair {first second : String} (content : readLayer files (Path.ofString first) = .ok (some es))
    (content' : readLayer files (Path.ofString second) = .ok (some es')) :
    documents files ([first, second].map Path.ofString) = [es, es'] := by
  rw [List.map_cons, List.map_cons, documents_cons content, documents_cons content']
  rfl

theorem readable_pair {first second : String} (content : readLayer files (Path.ofString first) = .ok (some es))
    (content' : readLayer files (Path.ofString second) = .ok (some es')) :
    Readable files ([first, second].map Path.ofString) := by
  intro p found
  rcases List.mem_cons.1 found with rfl | found
  · exact ⟨_, content⟩
  · rw [List.mem_singleton.1 found]
    exact ⟨_, content'⟩

/-- The settings of a file and of another with all that the first leaves as it is. -/
def settings (leaf summaryFile : String) : Settings where
  groups := { GroupSettings.default with leaf, retries := 3 }
  subject := .default
  output := { OutputSettings.default with summaryFile }

end Forms

theorem loadLayers_respelled_both :
    loadLayers Forms.files (["/dotted", "/leaf"].map Path.ofString) =
      loadLayers Forms.files (["/headed", "/leaf"].map Path.ofString) ∧
    loadLayers Forms.files (["/dotted", "/leaf"].map Path.ofString) = .ok (Forms.settings "a" "x").repaired := by
  have docs := Forms.documents_pair Forms.dotted_content Forms.leaf_content
  have docs' := Forms.documents_pair Forms.headed_content Forms.leaf_content
  have rewritten : Respelled Forms.files Forms.files (Path.ofString "/dotted") (Path.ofString "/headed") := by
    refine .rewritten Forms.dotted_content Forms.headed_content ?_
    intro heading known
    fin_cases known
    · exact .respelled (.table rfl) (.table rfl) fun name => rfl
    · exact .untouched rfl
    · exact .respelled (.table rfl) (.inline rfl) fun name => Forms.data_single _ name _
  have law := loadLayers_respelled Forms.files Forms.files (["/dotted", "/leaf"].map Path.ofString)
    (["/headed", "/leaf"].map Path.ofString) (.cons rewritten (.cons (.untouched rfl) .nil))
    (fun _ => readsBack_of_flat (docs ▸ by simp [Forms.flat])) (fun _ => readsBack_of_flat (docs' ▸ by simp [Forms.flat]))
  refine ⟨law.same ?_, ?_⟩
  · intro heading known
    have tables := law.tables heading known
    have alone := law.alone heading known
    rw [docs, docs'] at tables alone ⊢
    fin_cases known
    · exact tables (.cons rfl (.cons rfl .nil))
    · exact alone (by decide +kernel)
    · exact alone (by decide +kernel)
  · have kept := law.kept (Forms.readable_pair Forms.dotted_content Forms.leaf_content)
    rw [docs] at kept
    refine (kept ?_ _).2 ⟨Forms.settings "a" "x", ?_, rfl⟩
    · intro heading known es found
      fin_cases known <;> fin_cases found <;> exact .table rfl
    · constructor <;> rfl

/-- An inline table resets what only an earlier file has set, as no other form of the same section does. -/
theorem inline_section_resets :
    List.Forall₂ (Respelled Forms.files Forms.files) (["/leaf", "/retries"].map Path.ofString)
      (["/leaf", "/inline"].map Path.ofString) ∧
    loadLayers Forms.files (["/leaf", "/retries"].map Path.ofString) =
      .ok (Forms.settings "a" OutputSettings.default.summaryFile).repaired ∧
    loadLayers Forms.files (["/leaf", "/inline"].map Path.ofString) =
      .ok (Forms.settings GroupSettings.default.leaf OutputSettings.default.summaryFile).repaired := by
  have rewritten : Respelled Forms.files Forms.files (Path.ofString "/retries") (Path.ofString "/inline") := by
    refine .rewritten Forms.retries_content Forms.inline_content ?_
    intro heading known
    fin_cases known
    · exact .respelled (.table rfl) (.inline rfl) fun name => Forms.data_single _ name _
    · exact .untouched rfl
    · exact .untouched rfl
  have docs := Forms.documents_pair Forms.leaf_content Forms.retries_content
  have docs' := Forms.documents_pair Forms.leaf_content Forms.inline_content
  have readsBack : ReadsBack (merged (documents Forms.files (["/leaf", "/retries"].map Path.ofString))) :=
    readsBack_of_flat (docs ▸ by simp [Forms.flat])
  have readsBack' : ReadsBack (merged (documents Forms.files (["/leaf", "/inline"].map Path.ofString))) :=
    readsBack_of_flat (docs' ▸ by simp [Forms.flat])
  refine ⟨.cons (.untouched rfl) (.cons rewritten .nil), ?_, ?_⟩
  · rw [loadLayers_readable (Forms.readable_pair Forms.leaf_content Forms.retries_content) readsBack, docs]
    cbv
  · rw [loadLayers_readable (Forms.readable_pair Forms.leaf_content Forms.inline_content) readsBack', docs']
    cbv

end HeapSampler.Settings

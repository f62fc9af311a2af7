import HeapSampler.Proofs.Text.Decimal
import HeapSampler.Subject.Interposer

/-!
# The process number in a file name

The name of the interposer's file is given as a template, in which a placeholder stands for the number of the
process. A template is cut at its placeholders into stretches (`stretches`), and the name is the same stretches with
the number between them (`fill_eq`). Digits begin no placeholder and end none, so none is left or arises
(`not_occurs_fill`); and since all gaps take the same number, the length of a name tells that of its number, and the
first gap the number itself (`intercalate_injective`).
-/

namespace HeapSampler

namespace Interposer

variable {c : Char} {cs rest first second replacement : List Char} {more : List (List Char)}

/-! ## Placeholders -/

/-- What stands for the process number. -/
def placeholder : List Char := ['%', 'p']

/-- The placeholder stands somewhere in a text. -/
def Occurs (cs : List Char) : Prop :=
  placeholder <:+: cs

theorem occurs_cons : Occurs (c :: cs) ↔ (c = '%' ∧ ['p'] <+: cs) ∨ Occurs cs := by
  rw [Occurs, List.infix_cons_iff, placeholder, List.cons_prefix_cons, eq_comm (a := '%')]
  rfl

theorem not_occurs_nil : ¬ Occurs [] := by
  intro occurs
  cases List.infix_nil.1 occurs

/-- Text without a percent sign begins no placeholder. -/
theorem occurs_append (plain : '%' ∉ replacement) : Occurs (replacement ++ cs) ↔ Occurs cs := by
  induction replacement with
  | nil => rfl
  | cons c rest ih =>
    rw [List.mem_cons, not_or] at plain
    rw [List.cons_append, occurs_cons, ih plain.2]
    exact or_iff_right fun begins => plain.1 begins.1.symm

/-! ## Stretches -/

/-- The stretches of a template before, between and behind its placeholders. -/
def stretches : List Char → List (List Char)
  | [] => [[]]
  | '%' :: 'p' :: rest => [] :: stretches rest
  | c :: rest => (stretches rest).modifyHead (c :: ·)

/-- A character that begins no placeholder belongs to the stretch that follows. -/
theorem stretches_other (other : ∀ behind, c = '%' → rest = 'p' :: behind → False) :
    stretches (c :: rest) = (stretches rest).modifyHead (c :: ·) := by
  rw [stretches]
  exact other

theorem fill_other (other : ∀ behind, c = '%' → rest = 'p' :: behind → False) (replacement : List Char) :
    fill replacement (c :: rest) = c :: fill replacement rest := by
  rw [fill]
  exact other

theorem stretches_ne_nil (cs : List Char) : stretches cs ≠ [] := by
  induction cs using fill.induct with
  | case1 => exact List.cons_ne_nil _ _
  | case2 rest ih => exact List.cons_ne_nil _ _
  | case3 c rest other ih =>
    rw [stretches_other other]
    simpa using ih

theorem intercalate_modifyHead (c : Char) {parts : List (List Char)} (some : parts ≠ []) :
    replacement.intercalate (parts.modifyHead (c :: ·)) = c :: replacement.intercalate parts := by
  cases parts with
  | nil => exact absurd rfl some
  | cons first more =>
    cases more with
    | nil => rw [List.modifyHead_cons, List.intercalate_singleton, List.intercalate_singleton]
    | cons second more =>
      rw [List.modifyHead_cons, List.intercalate_cons_cons, List.intercalate_cons_cons, List.cons_append, List.cons_append]

/-- What is filled in comes between the stretches. -/
theorem fill_eq (replacement cs : List Char) : fill replacement cs = replacement.intercalate (stretches cs) := by
  induction cs using fill.induct with
  | case1 => rfl
  | case2 rest ih =>
    rw [fill, stretches, ih, List.intercalate_cons_of_ne_nil (stretches_ne_nil rest), List.nil_append]
  | case3 c rest other ih =>
    rw [fill_other other, stretches_other other, ih, intercalate_modifyHead c (stretches_ne_nil rest)]

theorem fill_placeholder (cs : List Char) : fill placeholder cs = cs := by
  induction cs using fill.induct with
  | case1 => rfl
  | case2 rest ih =>
    rw [fill, ih]
    rfl
  | case3 c rest other ih => rw [fill_other other, ih]

/-- A template is its stretches with a placeholder between each two. -/
theorem intercalate_stretches (cs : List Char) : placeholder.intercalate (stretches cs) = cs := by
  rw [← fill_eq, fill_placeholder]

theorem first_stretch (split : stretches cs = first :: more) : first <+: cs := by
  have whole := intercalate_stretches cs
  rw [split] at whole
  cases more with
  | nil =>
    rw [List.intercalate_singleton] at whole
    exact whole ▸ List.prefix_rfl
  | cons second more =>
    rw [List.intercalate_cons_cons, List.append_assoc] at whole
    exact whole ▸ List.prefix_append _ _

/-- No placeholder is in a stretch. -/
theorem not_occurs_stretch (cs : List Char) : ∀ part ∈ stretches cs, ¬ Occurs part := by
  induction cs using fill.induct with
  | case1 =>
    intro part found
    rw [List.mem_singleton.1 found]
    exact not_occurs_nil
  | case2 rest ih =>
    intro part found
    rcases List.mem_cons.1 found with rfl | found
    · exact not_occurs_nil
    · exact ih part found
  | case3 c rest other ih =>
    rw [stretches_other other]
    cases split : stretches rest with
    | nil => exact absurd split (stretches_ne_nil rest)
    | cons first more =>
      rw [split] at ih
      rw [List.modifyHead_cons]
      intro part found
      rcases List.mem_cons.1 found with rfl | found
      · -- the character in front would begin a placeholder of the template
        intro occurs
        rcases occurs_cons.1 occurs with ⟨rfl, follows⟩ | occurs
        · obtain ⟨behind, rfl⟩ := follows.trans (first_stretch split)
          exact other behind rfl rfl
        · exact ih first List.mem_cons_self occurs
      · exact ih part (List.mem_cons_of_mem first found)

/-- A template is one stretch, or there is a placeholder in it and it is several. -/
theorem stretches_cases (cs : List Char) : (¬ Occurs cs ∧ stretches cs = [cs]) ∨
    (Occurs cs ∧ ∃ first second more, stretches cs = first :: second :: more) := by
  have whole := intercalate_stretches cs
  rcases split : stretches cs with _ | ⟨first, _ | ⟨second, more⟩⟩
  · exact absurd split (stretches_ne_nil cs)
  · rw [split, List.intercalate_singleton] at whole
    subst whole
    exact .inl ⟨not_occurs_stretch first first (split ▸ List.mem_singleton_self first), rfl⟩
  · rw [split, List.intercalate_cons_cons] at whole
    exact .inr ⟨⟨first, placeholder.intercalate (second :: more), whole⟩, first, second, more, rfl⟩

/-! ## Filling in -/

/-- Without a placeholder nothing is filled in. -/
theorem fill_of_not_occurs (none : ¬ Occurs cs) (replacement : List Char) : fill replacement cs = cs := by
  rcases stretches_cases cs with ⟨-, whole⟩ | ⟨occurs, -⟩
  · rw [fill_eq, whole, List.intercalate_singleton]
  · exact absurd occurs none

/-- What may be filled in without beginning or ending a placeholder. -/
structure Inert (replacement : List Char) : Prop where
  some : replacement ≠ []
  noPercent : '%' ∉ replacement
  noP : 'p' ∉ replacement

theorem digits_inert (n : Nat) : Inert (Decimal.digits n) where
  some := Decimal.digits_ne_nil n
  noPercent := Decimal.not_mem_toDigits (by decide) (by decide) (by decide) n
  noP := Decimal.not_mem_toDigits (by decide) (by decide) (by decide) n

/-- What follows a character of the template still follows it, or is what was filled in. -/
theorem begins_of_fill (inert : Inert replacement) (begins : ['p'] <+: fill replacement cs) : ['p'] <+: cs := by
  induction cs using fill.induct with
  | case1 => exact begins
  | case2 rest _ =>
    rw [fill] at begins
    obtain ⟨c, more, rfl⟩ := List.exists_cons_of_ne_nil inert.some
    obtain ⟨rfl, -⟩ := List.cons_prefix_cons.1 begins
    exact absurd List.mem_cons_self inert.noP
  | case3 c rest other _ =>
    rw [fill_other other] at begins
    obtain ⟨same, -⟩ := List.cons_prefix_cons.1 begins
    exact List.cons_prefix_cons.2 ⟨same, List.nil_prefix⟩

/-- No placeholder is left, and none arises. -/
theorem not_occurs_fill (inert : Inert replacement) (cs : List Char) : ¬ Occurs (fill replacement cs) := by
  induction cs using fill.induct with
  | case1 => exact not_occurs_nil
  | case2 rest ih =>
    rw [fill, occurs_append inert.noPercent]
    exact ih
  | case3 c rest other ih =>
    rw [fill_other other]
    intro occurs
    rcases occurs_cons.1 occurs with ⟨rfl, follows⟩ | occurs
    · obtain ⟨behind, rfl⟩ := begins_of_fill inert follows
      exact other behind rfl rfl
    · exact ih occurs

/-- The same stretches with other texts between them differ in length by those texts, each counted once for each gap. -/
theorem length_intercalate (a b first : List Char) (more : List (List Char)) :
    (a.intercalate (first :: more)).length + more.length * b.length =
      (b.intercalate (first :: more)).length + more.length * a.length := by
  induction more generalizing first with
  | nil => rw [List.intercalate_singleton, List.intercalate_singleton, List.length_nil, Nat.zero_mul, Nat.zero_mul]
  | cons second more ih =>
    have behind := ih second
    rw [List.intercalate_cons_cons, List.intercalate_cons_cons, List.length_append, List.length_append,
      List.length_append, List.length_append, List.length_cons, Nat.succ_mul, Nat.succ_mul]
    omega

/-- What comes between several stretches is told by the text. -/
theorem intercalate_injective (first second : List Char) (more : List (List Char)) :
    Function.Injective fun replacement : List Char => replacement.intercalate (first :: second :: more) := by
  intro a b same
  have same : a.intercalate (first :: second :: more) = b.intercalate (first :: second :: more) := same
  have length : a.length = b.length := by
    have gaps := length_intercalate a b first (second :: more)
    rw [same] at gaps
    exact Nat.eq_of_mul_eq_mul_left (Nat.succ_pos _) (Nat.add_left_cancel gaps).symm
  rw [List.intercalate_cons_cons, List.intercalate_cons_cons, List.append_assoc, List.append_assoc] at same
  exact List.append_inj_left (List.append_cancel_left same) length

/-! ## The names of a template -/

/-- How the files of processes are named by a template. -/
structure Resolves (template : String) (name : UInt32 → String) : Prop where
  /-- No placeholder is in a name. -/
  complete : ∀ pid, ¬ Occurs (name pid).toList
  /-- A template without a placeholder is the name itself. -/
  unchanged : ¬ Occurs template.toList → ∀ pid, name pid = template
  /-- All names are the template but for its placeholders, each of which is the process number. -/
  elsewhere : ∃ parts, (∀ part ∈ parts, ¬ Occurs part) ∧ placeholder.intercalate parts = template.toList ∧
    ∀ pid, (name pid).toList = (Decimal.digits pid.toNat).intercalate parts
  /-- With a placeholder in the template, different processes have different names. -/
  unambiguous : Occurs template.toList → Function.Injective name

/-- **A placeholder stands for the process number**, wherever it stands, and for nothing else. -/
theorem outfileFor_resolves (i : Interposer) : Resolves i.outfile i.outfileFor := by
  have shown (pid : UInt32) : (i.outfileFor pid).toList = fill (Decimal.digits pid.toNat) i.outfile.toList :=
    String.toList_ofList
  constructor
  case complete =>
    intro pid
    rw [shown]
    exact not_occurs_fill (digits_inert _) _
  case unchanged =>
    intro none pid
    apply String.toList_inj.1
    rw [shown, fill_of_not_occurs none]
  case elsewhere =>
    refine ⟨stretches i.outfile.toList, not_occurs_stretch _, intercalate_stretches _, fun pid => ?_⟩
    rw [shown, fill_eq]
  case unambiguous =>
    intro occurs pid other same
    obtain ⟨none, -⟩ | ⟨-, first, second, more, split⟩ := stretches_cases i.outfile.toList
    · exact absurd occurs none
    have names := congrArg String.toList same
    rw [shown, shown, fill_eq, fill_eq, split] at names
    exact UInt32.toNat_inj.1 (Decimal.digits_injective (intercalate_injective first second more names))

/-- A percent sign in front of a placeholder and a letter behind it are no placeholder when it is filled in. -/
example : outfileFor ⟨⟨[]⟩, "%%pp%p%", "", ""⟩ 12 = "%12p12%" := by
  decide

end Interposer

end HeapSampler

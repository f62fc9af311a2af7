import HeapSampler.Proofs.Places
import HeapSampler.Proofs.Text.Utf8

/-!
# Paths below paths

The names of a path that is put together are those of its parts, and what is appended to a text without a slash
in it belongs to the last name. So where a path below another leads is told by where the other leads
(`place_join`). And what is found below a path is found below every path that agrees with it name by name, as long as
the system takes a path of that length (`locate_join_of_sameAs`).
-/

namespace HeapSampler

/-! ## Cutting at separators -/

namespace Bytes

theorem splitOn_eq (separator : UInt8) (bs : Bytes) : splitOn separator bs = List.splitOn separator bs := by
  rw [List.splitOn_eq_splitOnP]
  induction bs with
  | nil => rfl
  | cons b bs ih =>
    rw [List.splitOnP_cons_eq_if_modifyHead, splitOn, ih]
    by_cases here : b = separator
    · rw [if_pos here, if_pos (beq_iff_eq.2 here)]
    · rw [if_neg here, if_neg (by simpa using here)]
      cases parts : List.splitOnP (· == separator) bs with
      | nil => exact absurd parts (List.splitOnP_ne_nil _ _)
      | cons part parts => rfl

variable {separator : UInt8}

theorem splitOn_append (a b : Bytes) :
    splitOn separator (a ++ separator :: b) = splitOn separator a ++ splitOn separator b := by
  rw [splitOn_eq, splitOn_eq, splitOn_eq, List.splitOn_append_cons_self]

theorem splitOn_whole {bs : Bytes} (whole : separator ∉ bs) : splitOn separator bs = [bs] := by
  rw [splitOn_eq, List.splitOn_eq_splitOnP]
  refine List.splitOnP_eq_singleton fun b found => ?_
  simp only [beq_eq_false_iff_ne]
  rintro rfl
  exact whole found

/-- Whatever is appended without a separator in it is appended to the last part. -/
theorem splitOn_append_whole (separator : UInt8) (front : Bytes) : ∃ earlier last, ∀ bs : Bytes, separator ∉ bs →
    splitOn separator (front ++ bs) = earlier ++ [last ++ bs] := by
  induction front with
  | nil => exact ⟨[], [], fun bs whole => splitOn_whole whole⟩
  | cons b front ih =>
    obtain ⟨earlier, last, parts⟩ := ih
    by_cases here : b = separator
    · refine ⟨[] :: earlier, last, fun bs whole => ?_⟩
      rw [List.cons_append, splitOn, if_pos here, parts bs whole]
      rfl
    · cases earlier with
      | nil =>
        refine ⟨[], b :: last, fun bs whole => ?_⟩
        rw [List.cons_append, splitOn, if_neg here, parts bs whole]
        rfl
      | cons part earlier =>
        refine ⟨(b :: part) :: earlier, last, fun bs whole => ?_⟩
        rw [List.cons_append, splitOn, if_neg here, parts bs whole]
        rfl

/-- A byte that is no separator is in one of the parts. -/
theorem exists_mem_splitOn {b : UInt8} (other : b ≠ separator) {bs : Bytes} :
    (∃ part ∈ splitOn separator bs, b ∈ part) ↔ b ∈ bs := by
  induction bs with
  | nil => simp [splitOn]
  | cons c bs ih =>
    rw [splitOn, List.mem_cons, ← ih]
    by_cases here : c = separator
    · rw [if_pos here]
      have notThis : b ≠ c := here ▸ other
      simp [notThis]
    · rw [if_neg here]
      cases splitOn separator bs with
      | nil => simp
      | cons part parts => simp [or_assoc]

end Bytes

/-! ## Names -/

namespace Path

variable {base p q : Path}

theorem names_append (a b : Bytes) : names ⟨a ++ slash :: b⟩ = names ⟨a⟩ ++ names ⟨b⟩ := by
  rw [names, Bytes.splitOn_append, List.filter_append]
  rfl

theorem names_whole {bs : Bytes} (some : bs ≠ []) (whole : slash ∉ bs) : names ⟨bs⟩ = [bs] := by
  rw [names, Bytes.splitOn_whole whole]
  simp [some]

/-- Whatever is appended without a slash in it is appended to the last name. -/
theorem names_append_whole (front : Bytes) : ∃ earlier last, ∀ bs : Bytes, bs ≠ [] → slash ∉ bs →
    names ⟨front ++ bs⟩ = earlier ++ [last ++ bs] := by
  obtain ⟨earlier, last, parts⟩ := Bytes.splitOn_append_whole slash front
  refine ⟨earlier.filter (!·.isEmpty), last, fun bs some whole => ?_⟩
  rw [names, parts bs whole, List.filter_append]
  simp [some]

/-- A byte that is no slash is in one of the names. -/
theorem exists_mem_names {b : UInt8} (other : b ≠ slash) : (∃ name ∈ p.names, b ∈ name) ↔ b ∈ p.bytes := by
  rw [← Bytes.exists_mem_splitOn other, names]
  constructor
  · rintro ⟨name, found, inside⟩
    exact ⟨name, (List.mem_filter.1 found).1, inside⟩
  · rintro ⟨name, found, inside⟩
    refine ⟨name, List.mem_filter.2 ⟨found, ?_⟩, inside⟩
    cases name with
    | nil => cases inside
    | cons => rfl

/-- Slashes at the end belong to no name. -/
theorem names_append_slashes (bs : Bytes) (n : Nat) : names ⟨bs ++ List.replicate n slash⟩ = names ⟨bs⟩ := by
  induction n generalizing bs with
  | zero => rw [List.replicate_zero, List.append_nil]
  | succ n ih =>
    have none : names ⟨List.replicate n slash⟩ = [] := ih []
    rw [List.replicate_succ, names_append, none, List.append_nil]

theorem isAbsolute_append_whole (front : Bytes) {bs : Bytes} (whole : slash ∉ bs) :
    isAbsolute ⟨front ++ bs⟩ = isAbsolute ⟨front⟩ := by
  cases front with
  | cons b front => rfl
  | nil =>
    cases bs with
    | nil => rfl
    | cons b bs =>
      have other : b ≠ slash := fun same => whole (same ▸ List.mem_cons_self)
      simp [isAbsolute, other]

/-- The names of a path below another are those of the other and its own. -/
theorem names_join (relative : p.isAbsolute = false) : (base.join p).names = base.names ++ p.names := by
  rw [join, if_neg (Bool.eq_false_iff.1 relative)]
  by_cases bare : base.bytes = []
  · have none : base.names = [] := by rw [names, bare]; rfl
    rw [none, bare]
    rfl
  by_cases ends : base.endsInSlash = true
  · obtain ⟨front, bytes⟩ := List.getLast?_eq_some_iff.1 (eq_of_beq ends)
    have own : base.names = names ⟨front⟩ := by
      rw [show base = ⟨front ++ slash :: []⟩ from congrArg mk bytes, names_append]
      exact List.append_nil _
    rw [if_pos (by simp [ends]), own, bytes, List.append_assoc]
    exact names_append front p.bytes
  · rw [if_neg (by simp [bare, ends])]
    exact names_append base.bytes p.bytes

theorem isAbsolute_join (relative : p.isAbsolute = false) : (base.join p).isAbsolute = base.isAbsolute := by
  rw [join, if_neg (Bool.eq_false_iff.1 relative)]
  by_cases bare : base.bytes = []
  · have other : base.isAbsolute = false := by rw [isAbsolute, bare]; rfl
    rw [other, ← relative, bare]
    rfl
  · obtain ⟨b, bs, bytes⟩ := List.exists_cons_of_ne_nil bare
    simp only [isAbsolute, bytes]
    split <;> rfl

theorem join_of_absolute (absolute : p.isAbsolute = true) : base.join p = p :=
  if_pos absolute

/-- What a text is joined to is put in front of it, the same bytes for all relative texts. -/
theorem exists_front (base : Path) : ∃ front, ∀ p : Path, p.isAbsolute = false → base.join p = ⟨front ++ p.bytes⟩ := by
  by_cases ends : (base.bytes.isEmpty || base.endsInSlash) = true
  · refine ⟨base.bytes, fun p relative => ?_⟩
    rw [join, if_neg (Bool.eq_false_iff.1 relative), if_pos ends]
  · refine ⟨base.bytes ++ [slash], fun p relative => ?_⟩
    rw [join, if_neg (Bool.eq_false_iff.1 relative), if_neg ends, List.append_assoc]
    rfl

theorem length_le_join (relative : p.isAbsolute = false) (base : Path) :
    base.bytes.length ≤ (base.join p).bytes.length := by
  rw [join, if_neg (Bool.eq_false_iff.1 relative)]
  split <;> simp

theorem isAbsolute_of_sameAs (same : p.sameAs q = true) : p.isAbsolute = q.isAbsolute :=
  congrArg Prod.fst (eq_of_beq same)

theorem names_of_sameAs (same : p.sameAs q = true) : p.names.filter (· != dot) = q.names.filter (· != dot) :=
  congrArg (·.2.2) (eq_of_beq same)

end Path

/-! ## Places -/

namespace FileTree

variable {t : FileTree} {base p q : Path}

/-- A path below another leads on from where the other leads. -/
theorem place_join (t : FileTree) (base : Path) (relative : p.isAbsolute = false) :
    t.place (base.join p) = p.names.foldl follow (t.place base) := by
  have start : t.start (base.join p) = t.start base := by rw [FileTree.start, Path.isAbsolute_join relative]; rfl
  rw [place, Path.names_join relative, start, List.foldl_append]
  rfl

/-- Whatever is appended without a slash in it only changes the name that the path ends in. -/
theorem place_append_whole (t : FileTree) (front : Bytes) : ∃ here last, ∀ bs : Bytes, bs ≠ [] → Path.slash ∉ bs →
    t.place ⟨front ++ bs⟩ = follow here (last ++ bs) := by
  obtain ⟨earlier, last, names⟩ := Path.names_append_whole front
  refine ⟨earlier.foldl follow (t.start ⟨front⟩), last, fun bs some whole => ?_⟩
  have start : t.start ⟨front ++ bs⟩ = t.start ⟨front⟩ := by
    rw [FileTree.start, Path.isAbsolute_append_whole front whole]
    rfl
  rw [place, names bs some whole, start, List.foldl_append]
  rfl

/-! ## Ways -/

theorem checkPath_eq_ok : checkPath p = .ok () ↔ 0 ∉ p.bytes ∧ p.bytes ≠ [] ∧ p.bytes.length ≤ maxPath := by
  unfold checkPath
  by_cases nul : 0 ∈ p.bytes
  · simp [nul]
  by_cases bare : p.bytes = []
  · simp [bare]
  by_cases long : p.bytes.length > maxPath
  · simp [nul, bare, long, Nat.not_le.2 long]
  · simp [nul, bare, long, Nat.not_lt.1 long]

/-- A single dot on the way is passed over, as long as the way goes on. -/
theorem walk_filter {here l : Location} {names behind : List Bytes} {next : Bytes} :
    (names.filter (· != Path.dot) ++ next :: behind).foldlM t.step here = .ok l ↔
      (names ++ next :: behind).foldlM t.step here = .ok l := by
  induction names generalizing here with
  | nil => rfl
  | cons name names ih =>
    by_cases dot : name = Path.dot
    · subst dot
      rw [List.filter_cons_of_neg (by simp), ih, List.cons_append, List.foldlM_cons, bind_eq_ok]
      constructor
      · -- the next step is made in a directory, so a dot can be looked up there
        intro walked
        obtain ⟨via, further, goesOn⟩ := List.exists_cons_of_ne_nil (List.append_ne_nil_of_right_ne_nil names
          (List.cons_ne_nil next behind))
        have first := walked
        rw [goesOn, List.foldlM_cons, bind_eq_ok] at first
        obtain ⟨_, stepped, -⟩ := first
        have directory := (checkStep_eq_ok.1 (step_eq_ok.1 stepped).1).1
        exact ⟨here, step_eq_ok.2 ⟨checkStep_eq_ok.2 ⟨directory, by decide⟩, by rw [if_pos rfl]⟩, walked⟩
      · rintro ⟨middle, stepped, walked⟩
        rw [step_follows stepped, follow_dot] at walked
        exact walked
    · rw [List.filter_cons_of_pos (by simp [dot]), List.cons_append, List.cons_append, List.foldlM_cons, List.foldlM_cons,
        bind_eq_ok, bind_eq_ok]
      simp only [ih]

variable {r : Path} {name : Bytes}

/-- What is found below a path is found below every path that agrees with it name by name, unless the way to it is
too long to be written. -/
theorem locate_join_of_sameAs (same : p.sameAs q = true) (relative : r.isAbsolute = false) (named : r.names = [name])
    (short : (q.join r).bytes.length ≤ maxPath) {l : Location} (located : t.locate (p.join r) = .ok l) :
    t.locate (q.join r) = .ok l := by
  obtain ⟨⟨⟩, checked, walked⟩ := bind_eq_ok.1 located
  obtain ⟨noNul, -, -⟩ := checkPath_eq_ok.1 checked
  rw [Path.names_join relative, named] at walked
  have checkedToo : checkPath (q.join r) = .ok () := by
    refine checkPath_eq_ok.2 ⟨?_, ?_, short⟩
    · rw [← Path.exists_mem_names (by decide), Path.names_join relative] at noNul ⊢
      rintro ⟨other, found, nul⟩
      rcases List.mem_append.1 found with found | found
      · have plain : other ≠ Path.dot := by
          rintro rfl
          exact absurd nul (by decide)
        have kept : other ∈ q.names.filter (· != Path.dot) := List.mem_filter.2 ⟨found, bne_iff_ne.2 plain⟩
        rw [← Path.names_of_sameAs same] at kept
        exact noNul ⟨other, List.mem_append_left _ (List.mem_filter.1 kept).1, nul⟩
      · exact noNul ⟨other, List.mem_append_right _ found, nul⟩
    · intro bare
      have none : (q.join r).names = [] := by rw [Path.names, bare]; rfl
      rw [Path.names_join relative, named] at none
      exact List.append_ne_nil_of_right_ne_nil _ (List.cons_ne_nil _ _) none
  have start : t.start (q.join r) = t.start (p.join r) := by
    rw [FileTree.start, FileTree.start, Path.isAbsolute_join relative, Path.isAbsolute_join relative,
      Path.isAbsolute_of_sameAs same]
  rw [locate, checkedToo, Path.names_join relative, named, start]
  exact walk_filter.1 (Path.names_of_sameAs same ▸ walk_filter.2 walked)

theorem isDir_join_of_sameAs (same : p.sameAs q = true) (relative : r.isAbsolute = false) (named : r.names = [name])
    (short : (q.join r).bytes.length ≤ maxPath) (directory : t.isDir (p.join r) = true) : t.isDir (q.join r) = true := by
  obtain ⟨l, located, there⟩ := isDir_iff.1 directory
  exact isDir_iff.2 ⟨l, locate_join_of_sameAs same relative named short located, there⟩

end FileTree

end HeapSampler

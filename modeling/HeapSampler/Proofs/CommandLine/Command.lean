import Mathlib
import HeapSampler.CommandLine
import HeapSampler.Proofs.Files

/-!
# The command behind the options

Where the options end, the command begins, and no word of it is looked at. What the arguments up to there do to the
options is a matter of these arguments alone (`Takes`), so two command lines with the same options in front ask for
the same run of two different commands (`parse_command`).
-/

namespace HeapSampler.CommandLine

/-! ## The arguments in front -/

/-- Each of the arguments is an option or the value of one, and together they lead from some options to others. -/
inductive Takes (t : FileTree) : Options → List String → Options → Prop where
  | none {o : Options} : Takes t o [] o
  | options {o next final : Options} {argument : String} {arguments : List String} {flags : List Flag}
      {last : Option (ValueOption × Option String)} (word : Word.ofArgument argument = .options flags last)
      (taken : o.take t flags last = .ok next) (others : Takes t next arguments final) :
      Takes t o (argument :: arguments) final
  | value {o final : Options} {argument text : String} {arguments : List String} {option : ValueOption}
      (word : Word.ofArgument argument = .plain text) (awaited : o.awaiting = some (option, .none))
      (others : Takes t { o with awaiting := some (option, some text) } arguments final) :
      Takes t o (argument :: arguments) final

/-- Whatever stands behind options is read with these options taken. -/
theorem Takes.split_append {t : FileTree} {o final : Options} {front : List String} (takes : Takes t o front final)
    (behind : List String) : split t o (front ++ behind) = split t final behind := by
  induction takes with
  | none => rfl
  | options word taken _ ih =>
    rw [List.cons_append, split, word]
    simp only [taken]
    exact ih
  | value word awaited _ ih =>
    rw [List.cons_append, split, word]
    simp only [awaited]
    exact ih

/-- Behind the mark everything is the command. -/
theorem split_mark (t : FileTree) (o : Options) (command : List String) :
    split t o ("--" :: command) = (do return (← o.settle t, command)) := by
  have mark : Word.ofArgument "--" = .endOfOptions := by decide
  rw [split, mark]

/-- A mark that the command begins behind is reached through options only. -/
theorem takes_of_split {t : FileTree} {o settled : Options} {front : List String} {x : String}
    (read : split t o (front ++ ["--", x]) = .ok (settled, [x])) :
    ∃ final, Takes t o front final ∧ final.settle t = .ok settled := by
  -- A command that began inside the front would have the mark in it, and so more than one word.
  have longer : ∀ {before : List String}, before ++ ["--", x] ≠ [x] := by
    intro before same
    have length := congrArg List.length same
    rw [List.length_append, List.length_cons, List.length_singleton] at length
    omega
  induction front generalizing o with
  | nil =>
    refine ⟨o, .none, ?_⟩
    rw [List.nil_append, split_mark] at read
    obtain ⟨final, ends, same⟩ := FileTree.bind_eq_ok.1 read
    cases same
    exact ends
  | cons argument arguments ih =>
    rw [List.cons_append, split] at read
    split at read
    case h_1 =>
      obtain ⟨final, ends, same⟩ := FileTree.bind_eq_ok.1 read
      exact absurd (Prod.mk.inj (Except.ok.inj same)).2 longer
    case h_2 => cases read
    case h_3 flags last word =>
      obtain ⟨next, taken, read⟩ := FileTree.bind_eq_ok.1 read
      obtain ⟨final, takes, ends⟩ := ih read
      exact ⟨final, .options word taken takes, ends⟩
    case h_4 text word =>
      split at read
      case h_1 option awaited =>
        obtain ⟨final, takes, ends⟩ := ih read
        exact ⟨final, .value word awaited takes, ends⟩
      case h_2 =>
        obtain ⟨final, ends, same⟩ := FileTree.bind_eq_ok.1 read
        exact absurd (Prod.mk.inj (Except.ok.inj same)).2 (@longer (argument :: arguments))

/-! ## The command -/

theorem Word.ofArgument_plain {argument : String} (word : argument.toList.head? ≠ some '-') :
    Word.ofArgument argument = .plain argument := by
  unfold Word.ofArgument
  split
  next whole => simp [whole] at word
  next whole => simp [whole] at word
  next whole => simp [whole] at word
  next => rfl

/-- A word that does not look like an option begins the command, unless an option still awaits it. -/
theorem split_word {t : FileTree} {o settled : Options} (ends : o.settle t = .ok settled) {first : String}
    (word : first.toList.head? ≠ some '-') (others : List String) :
    split t o (first :: others) = .ok (settled, first :: others) := by
  rw [split, Word.ofArgument_plain word]
  dsimp only
  split
  next option awaited =>
    rw [Options.settle, awaited] at ends
    cases ends
  next => rw [ends]; rfl

/-! ## The run asked for -/

/-- What the options ask for together with a command. -/
def Options.asked (o : Options) (command : List String) : Except UsageError Arguments := do
  if 0 < o.verbose ∧ 0 < o.quiet then throw .argumentConflict
  match o.group, o.limit, command with
  | some group, some limit, _ :: _ =>
    return {
      plan := {
        group, command
        memoryLimit := limit
        interval := o.interval.map fun n => .ofSeconds n.toNat
        directory := o.directory }
      config := o.config
      verbosity := .ofCounts o.verbose o.quiet }
  | _, _, _ => throw .missingRequiredArgument

theorem parse_eq (t : FileTree) (arguments : List String) :
    parse t arguments = (do
      let (o, command) ← split t .none arguments
      o.asked command) :=
  rfl

/-- The same request with another command. -/
def Arguments.withCommand (a : Arguments) (command : List String) : Arguments :=
  { a with plan := { a.plan with command } }

theorem Options.asked_command {o : Options} {command : List String} {a : Arguments}
    (asked : o.asked command = .ok a) : a.plan.command = command := by
  unfold Options.asked at asked
  simp only [bind, Except.bind] at asked
  split at asked
  · cases asked
  split at asked
  · cases asked
    rfl
  · cases asked

theorem Options.asked_withCommand {o : Options} {command : List String} {a : Arguments}
    (asked : o.asked command = .ok a) {other : List String} (nonempty : other ≠ []) :
    o.asked other = .ok (a.withCommand other) := by
  obtain ⟨first, others, rfl⟩ := List.exists_cons_of_ne_nil nonempty
  unfold Options.asked at asked ⊢
  simp only [bind, Except.bind] at asked ⊢
  split at asked
  · cases asked
  next clear =>
  simp only [if_neg clear]
  split at asked
  next group limit => cases asked; simp only [group, limit]; rfl
  · cases asked

/-- **The command is taken word for word, and no word of it changes what else is asked for.** -/
theorem parse_command {t : FileTree} {options command : List String} {x : String} {a : Arguments}
    (parsed : parse t (options ++ ["--", x]) = .ok a) (whole : a.plan.command = [x]) (nonempty : command ≠ []) :
    parse t (options ++ "--" :: command) = .ok (a.withCommand command) ∧
      (∀ first ∈ command.head?, first.toList.head? ≠ some '-' →
        parse t (options ++ command) = .ok (a.withCommand command)) := by
  rw [parse_eq] at parsed
  obtain ⟨⟨settled, given⟩, read, parsed⟩ := FileTree.bind_eq_ok.1 parsed
  obtain rfl : given = [x] := (Options.asked_command parsed).symm.trans whole
  obtain ⟨final, takes, ends⟩ := takes_of_split read
  have asked := Options.asked_withCommand parsed nonempty
  constructor
  · rw [parse_eq, takes.split_append, split_mark, ends]
    exact asked
  · intro first begins word
    obtain ⟨others, rfl⟩ := List.head?_eq_some_iff.1 begins
    rw [parse_eq, takes.split_append, split_word ends word]
    exact asked

theorem parse_command_hyphens :
    parse FileTree.empty (["-vc", "bench", "--limit=1G", "-i", "2", "-v"] ++ ["--", "-x"]) = .ok
        ⟨⟨"bench", 1073741824, some (.ofSeconds 2), ["-x"], none⟩, none, .trace⟩ ∧
      parse FileTree.empty (["-vc", "bench", "--limit=1G", "-i", "2", "-v"] ++ "--" :: ["--help", "-l", "--"]) = .ok
        ⟨⟨"bench", 1073741824, some (.ofSeconds 2), ["--help", "-l", "--"], none⟩, none, .trace⟩ ∧
      parse FileTree.empty (["-vc", "bench", "--limit=1G", "-i", "2", "-v"] ++ ["env", "-q", "--", "-l0"]) = .ok
        ⟨⟨"bench", 1073741824, some (.ofSeconds 2), ["env", "-q", "--", "-l0"], none⟩, none, .trace⟩ := by
  have parsed : parse FileTree.empty (["-vc", "bench", "--limit=1G", "-i", "2", "-v"] ++ ["--", "-x"]) = .ok
      ⟨⟨"bench", 1073741824, some (.ofSeconds 2), ["-x"], none⟩, none, .trace⟩ := by cbv
  refine ⟨parsed, (parse_command parsed rfl (List.cons_ne_nil _ _)).1, ?_⟩
  exact (parse_command parsed rfl (List.cons_ne_nil _ _)).2 "env" rfl (by decide)

end HeapSampler.CommandLine

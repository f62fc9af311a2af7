import HeapSampler.CommandLine
import HeapSampler.Proofs.Json.RoundTrip
import HeapSampler.Proofs.Run.WindUp
import HeapSampler.Proofs.Text.Utf8

/-!
# What a summary file tells

A summary is read back from its file, all fields of it, as long as the pause between snapshots is a number of whole
seconds: that is all of it that the file tells, and all that the command line can ask for (`text_tells`).
-/

namespace HeapSampler

/-! ## Reading a summary -/

namespace Json

/-- A string. -/
def string? : Json → Option String
  | .string s => some s
  | _ => none

/-- A number that is not negative. -/
def nat? : Json → Option Nat
  | .number n => if 0 ≤ n then some n.toNat else none
  | _ => none

/-- A number of 64 bits. -/
def word64? (j : Json) : Option UInt64 := do
  let n ← j.nat?
  if n < UInt64.size then some (UInt64.ofNat n) else none

/-- A number of 32 bits. -/
def word32? (j : Json) : Option UInt32 := do
  let n ← j.nat?
  if n < UInt32.size then some (UInt32.ofNat n) else none

/-- An array of such items. -/
def list? {α : Type} (item : Json → Option α) : Json → Option (List α)
  | .array items => items.mapM item
  | _ => none

theorem string?_string (s : String) : string? (.string s) = some s :=
  rfl

theorem nat?_natCast (n : Nat) : nat? (.number n) = some n := by
  rw [nat?, if_pos (Int.natCast_nonneg n), Int.toNat_natCast]

theorem word64?_toNat (n : UInt64) : word64? (.number n.toNat) = some n := by
  rw [word64?, nat?_natCast]
  show (if _ then _ else _) = _
  rw [if_pos n.toNat_lt, UInt64.ofNat_toNat]

theorem word32?_toNat (n : UInt32) : word32? (.number n.toNat) = some n := by
  rw [word32?, nat?_natCast]
  show (if _ then _ else _) = _
  rw [if_pos n.toNat_lt, UInt32.ofNat_toNat]

/-- A list is read back whose items are. -/
theorem list?_map {α : Type} {write : α → Json} {item : Json → Option α} (back : ∀ a, item (write a) = some a)
    (as : List α) : list? item (.array (as.map write)) = some as := by
  have same : item ∘ write = some := funext back
  have kept : as.mapM some = some (as.map id) := List.mapM_pure (m := Option)
  rw [list?, List.mapM_map, same, kept, List.map_id]

end Json

namespace SamplingMode

/-- The mode that a summary tells: a pause in seconds, or the word for none. -/
def ofJson? : Json → Option SamplingMode
  | .number n => (Json.number n).nat?.map fun n => .interval (.ofSeconds n)
  | .string word => if word = "signal-driven" then some .onRequest else none
  | _ => none

/-- A pause is a number of whole seconds. -/
def Whole : SamplingMode → Prop
  | .interval period => ∃ n, period = .ofSeconds n
  | .onRequest => True

theorem ofJson?_toJson {m : SamplingMode} (whole : m.Whole) : ofJson? m.toJson = some m := by
  cases m with
  | onRequest => rfl
  | interval period =>
    obtain ⟨n, rfl⟩ := whole
    have seconds : (Duration.ofSeconds n).seconds = n := Nat.mul_div_cancel n (by decide)
    rw [toJson, seconds, ofJson?, Json.nat?_natCast, Option.map_some]

end SamplingMode

/-! ## Whole seconds -/

theorem RunPlan.whole_of_interval {p : RunPlan} (whole : ∀ period, p.interval = some period → ∃ n, period = .ofSeconds n) :
    p.mode.Whole := by
  unfold RunPlan.mode
  split
  · next period asked => exact whole period asked
  · trivial

/-- Whatever the command line asks for, its pauses are whole seconds. -/
theorem CommandLine.whole_of_parse {t : FileTree} {arguments : List String} {a : Arguments}
    (parsed : parse t arguments = .ok a) : a.plan.mode.Whole := by
  unfold parse at parsed
  rcases options : split t .none arguments with e | ⟨o, command⟩ <;> rw [options] at parsed
  · cases parsed
  simp only [bind, Except.bind] at parsed
  split at parsed
  · cases parsed
  split at parsed
  · cases parsed
    apply RunPlan.whole_of_interval
    intro period asked
    obtain ⟨n, -, rfl⟩ := Option.map_eq_some_iff.1 asked
    exact ⟨n.toNat, rfl⟩
  · cases parsed

/-! ## The fields of a summary -/

namespace Summary

/-- The names under which a summary tells its fields, in their order. -/
def keys : List String := [
  "Executed Command", "Memory Limit", "Interval", "Stacktrace Depth", "Interpose Shift", "Maximum Heapsize",
  "Number Of Output Files", "Pid", "Malloc Output File", "Heap Sizes", "Output Files"]

/-- The summary that an object tells, each field under its name. -/
def ofJson? (j : Json) : Option Summary := do
  return {
    command := ← (← j.get? "Executed Command").string?
    memoryLimit := ← (← j.get? "Memory Limit").word64?
    mode := ← SamplingMode.ofJson? (← j.get? "Interval")
    depth := ← (← j.get? "Stacktrace Depth").string?
    shift := ← (← j.get? "Interpose Shift").string?
    peak := ← (← j.get? "Maximum Heapsize").word64?
    iterations := ← (← j.get? "Number Of Output Files").word32?
    pid := ← (← j.get? "Pid").word32?
    outfile := ← (← j.get? "Malloc Output File").string?
    sizes := ← (← j.get? "Heap Sizes").list? Json.word64?
    artifacts := ← (← j.get? "Output Files").list? Json.string? }

/-- Each field is told under its own name. -/
theorem ofJson?_toJson {s : Summary} (whole : s.mode.Whole) : ofJson? s.toJson = some s := by
  have mode := SamplingMode.ofJson?_toJson whole
  have sizes : (Json.array (s.sizes.map fun n => .number n.toNat)).list? Json.word64? = some s.sizes :=
    Json.list?_map Json.word64?_toNat s.sizes
  have artifacts : (Json.array (s.artifacts.map .string)).list? Json.string? = some s.artifacts :=
    Json.list?_map Json.string?_string s.artifacts
  simp [ofJson?, toJson, Json.get?, List.lookup_cons, mode, sizes, artifacts, Json.word64?_toNat, Json.word32?_toNat,
    Json.string?_string]

/-! ## The file -/

/-- What the file of a summary tells. -/
structure Told (s : Summary) : Prop where
  /-- The text is one object, with the names of the fields in their order. -/
  object : ∃ members, Json.parse? s.text = some (.object members) ∧ members.map Prod.fst = keys
  /-- All fields are read back from it. -/
  recovered : Json.parse? s.text >>= ofJson? = some s
  /-- It is the text that a file holds once the summary is written to it. -/
  written (t t' : FileTree) (p : Path) : s.write t p = .ok t' → t'.readText p = .ok s.text
  /-- No other summary leaves the same file. -/
  own (s' : Summary) (t t' u u' : FileTree) (p q : Path) : s'.mode.Whole → s.write t p = .ok t' →
    s'.write u q = .ok u' → t'.read p = u'.read q → s = s'

theorem parse?_text (s : Summary) : Json.parse? s.text = some s.toJson :=
  Json.parse?_line s.toJson

theorem recovered {s : Summary} (whole : s.mode.Whole) : Json.parse? s.text >>= ofJson? = some s := by
  rw [parse?_text]
  exact ofJson?_toJson whole

/-- A summary with a pause of whole seconds, or none, is told by its file. -/
theorem told_of_whole {s : Summary} (whole : s.mode.Whole) : Told s := by
  constructor
  case object => exact ⟨_, parse?_text s, rfl⟩
  case recovered => exact recovered whole
  case written =>
    intro t t' p wrote
    rw [FileTree.readText, Watch.write_read wrote]
    simp only [bind, Except.bind, pure, Except.pure, Bytes.text?_ofString]
  case own =>
    intro s' t t' u u' p q whole' wrote wrote' same
    rw [Watch.write_read wrote, Watch.write_read wrote'] at same
    have text : s.text = s'.text := Bytes.ofString_injective (Except.ok.inj same)
    have back := recovered whole
    rw [text, recovered whole'] at back
    exact (Option.some.inj back).symm

/-- **A summary is told by its file,** whatever is in it, if its pause is a number of whole seconds; and the command line
asks for no other pause. -/
theorem text_tells : (∀ s : Summary, s.mode.Whole → Told s) ∧
    ∀ t arguments a, CommandLine.parse t arguments = .ok a → a.plan.mode.Whole :=
  ⟨fun _ whole => told_of_whole whole, fun _ _ _ parsed => CommandLine.whole_of_parse parsed⟩

/-- A summary with characters that are written as escapes, and others that stand for themselves. -/
def awkward : Summary where
  command := "./app \"a b\" c:\\d\t\u0001é日🎉"
  memoryLimit := 18446744073709551615
  mode := .interval (.ofSeconds 90)
  depth := "100"
  shift := ""
  peak := 9
  iterations := 2
  pid := 812
  outfile := "signal-driven"
  sizes := [3, 9]
  artifacts := ["a\nb", ""]

/-- It is told by its file, since the command line can ask for its pause. -/
theorem text_tells_awkward :
    (∃ a, CommandLine.parse .empty ["-c", "g", "-l", "4096", "-i", "90", "sleep"] = .ok a ∧ a.plan.mode = awkward.mode) ∧
      awkward.mode.Whole ∧ Json.parse? awkward.text >>= ofJson? = some awkward := by
  obtain ⟨tells, admits⟩ := text_tells
  have parsed : CommandLine.parse .empty ["-c", "g", "-l", "4096", "-i", "90", "sleep"] =
      .ok ⟨⟨"g", 4096, some (.ofSeconds 90), ["sleep"], none⟩, none, .info⟩ := Act.ok_of_toOption (by decide +kernel)
  have whole : awkward.mode.Whole := admits _ _ _ parsed
  exact ⟨⟨_, parsed, rfl⟩, whole, (tells awkward whole).recovered⟩

end Summary

end HeapSampler

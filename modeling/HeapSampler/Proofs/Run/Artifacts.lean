import HeapSampler.Proofs.Paths
import HeapSampler.Proofs.Run.Tally
import HeapSampler.Proofs.Run.WindUp
import HeapSampler.Proofs.Snapshot.Recording
import HeapSampler.Proofs.Text.Decimal

/-!
# The artifacts of a run

An iteration that fails is handed back, and the next one has its number. But no snapshot follows one that has
failed, so every number is handed to the classifier once: what it was handed over a run are the artifacts of the
first iterations, in order, and they are those of the summary, or one more if the last snapshot has failed
(`run_hands_over`).
-/

namespace HeapSampler

open Snapshot (Measures Cycle Take stopping)
open Transition (Attempt Serves)

/-! ## Artifacts of different iterations -/

/-- The bytes of a number in the name of an artifact. -/
def numberBytes (n : Nat) : Bytes :=
  Bytes.ofString (Decimal.padded 4 n)

theorem numberBytes_ne_nil (n : Nat) : numberBytes n ≠ [] := by
  intro none
  have empty : Decimal.padded 4 n = "" := Bytes.ofString_injective none
  have chars := congrArg String.toList empty
  rw [Decimal.padded, String.toList_ofList, Decimal.padZero] at chars
  exact Decimal.digits_ne_nil n (List.append_eq_nil_iff.1 chars).2

theorem numberBytes_injective : Function.Injective numberBytes := by
  intro m n same
  have texts : Decimal.padded 4 m = Decimal.padded 4 n := Bytes.ofString_injective same
  have chars := congrArg String.toList texts
  rw [Decimal.padded, Decimal.padded, String.toList_ofList, String.toList_ofList] at chars
  exact Decimal.padZero_injective 4 chars

/-- A number is written without a slash, and without a dot. -/
theorem numberBytes_plain (n : Nat) : Path.slash ∉ numberBytes n ∧ 0x2E ∉ numberBytes n := by
  have plain : ∀ d < 10, Path.slash ∉ String.utf8EncodeChar (Nat.digitChar d) ∧
      0x2E ∉ String.utf8EncodeChar (Nat.digitChar d) := by decide
  rw [numberBytes, Bytes.ofString, Decimal.padded, String.toList_ofList]
  constructor
  all_goals
    intro found
    obtain ⟨c, listed, inside⟩ := List.mem_flatMap.1 found
    obtain ⟨d, small, rfl⟩ := Decimal.digit_of_mem_padZero listed
  · exact (plain d small).1 inside
  · exact (plain d small).2 inside

/-- Different iterations have different names, also beyond the width to which they are padded. -/
theorem OutputSettings.artifactName_injective (o : OutputSettings) : Function.Injective o.artifactName := by
  intro i j same
  have chars := congrArg String.toList same
  rw [artifactName, artifactName, String.toList_append, String.toList_append] at chars
  have numbers := List.append_cancel_left chars
  rw [Decimal.padded, Decimal.padded, String.toList_ofList, String.toList_ofList] at numbers
  exact UInt32.toNat_inj.1 (Decimal.padZero_injective 4 numbers)

/-- The two paths lead to different places, in whatever tree. -/
def Path.Apart (p q : Path) : Prop :=
  ∀ t : FileTree, t.place p ≠ t.place q

namespace SnapshotPlan

variable (p : SnapshotPlan)

/-- The artifact of an iteration, with its number. -/
def artifact (iteration : UInt32) : UInt32 × Path :=
  (iteration, p.directory / p.output.artifactName iteration)

/-- The artifacts of so many iterations, from the first one on. -/
def artifacts (n : Nat) : List (UInt32 × Path) :=
  (List.range n).map fun k => p.artifact (.ofNat (k + 1))

theorem artifacts_succ (n : Nat) : p.artifacts (n + 1) = p.artifacts n ++ [p.artifact (.ofNat (n + 1))] := by
  rw [artifacts, List.range_succ, List.map_append]
  rfl

theorem artifacts_getElem? {n k : Nat} {a : UInt32 × Path} (found : (p.artifacts n)[k]? = some a) :
    a = p.artifact (.ofNat (k + 1)) := by
  rw [artifacts, List.getElem?_map, Option.map_eq_some_iff] at found
  obtain ⟨k', there, rfl⟩ := found
  obtain ⟨-, rfl⟩ := List.getElem?_eq_some_iff.1 there
  rw [List.getElem_range]

/-- The artifacts of a plan differ in nothing but their numbers. -/
theorem exists_front : ∃ front, ∀ iteration, (p.artifact iteration).2 = ⟨front ++ numberBytes iteration.toNat⟩ := by
  have bytes (iteration : UInt32) : Path.ofString (p.output.artifactName iteration) =
      ⟨Bytes.ofString p.output.artifactPrefix ++ numberBytes iteration.toNat⟩ := by
    simp [Path.ofString, OutputSettings.artifactName, numberBytes, Bytes.ofString, Bytes.ofChars]
  have absolute (iteration : UInt32) : (Path.ofString (p.output.artifactName iteration)).isAbsolute =
      (Path.ofString p.output.artifactPrefix).isAbsolute := by
    rw [bytes]
    exact Path.isAbsolute_append_whole _ (numberBytes_plain _).1
  cases whole : (Path.ofString p.output.artifactPrefix).isAbsolute with
  | true =>
    refine ⟨Bytes.ofString p.output.artifactPrefix, fun iteration => ?_⟩
    rw [← bytes]
    exact Path.join_of_absolute (absolute iteration ▸ whole)
  | false =>
    obtain ⟨front, joined⟩ := Path.exists_front p.directory
    refine ⟨front ++ Bytes.ofString p.output.artifactPrefix, fun iteration => ?_⟩
    rw [List.append_assoc]
    have path := joined (Path.ofString (p.output.artifactName iteration)) (absolute iteration ▸ whole)
    rw [bytes] at path
    exact (congrArg p.directory.join (bytes iteration)).trans path

/-- Artifacts of different iterations lie in different places. -/
theorem artifact_apart {i j : UInt32} (other : i ≠ j) : (p.artifact i).2.Apart (p.artifact j).2 := by
  intro t same
  obtain ⟨front, paths⟩ := p.exists_front
  obtain ⟨here, last, places⟩ := t.place_append_whole front
  have place (iteration : UInt32) :
      t.place (p.artifact iteration).2 = (last ++ numberBytes iteration.toNat) :: here := by
    have some := numberBytes_ne_nil iteration.toNat
    obtain ⟨slashless, dotless⟩ := numberBytes_plain iteration.toNat
    -- a name with a digit at its end is none of the special names
    have special (name : Bytes) (dots : ∀ b ∈ name, b = 0x2E) : last ++ numberBytes iteration.toNat ≠ name := by
      rintro rfl
      obtain ⟨b, found⟩ := List.exists_mem_of_ne_nil _ some
      exact dotless (dots b (List.mem_append_right last found) ▸ found)
    rw [paths, places _ some slashless]
    exact FileTree.follow_name here (special _ (by simp [Path.dot])) (special _ (by simp [Path.dotDot]))
  rw [place i, place j] at same
  have numbers := List.append_cancel_left (List.cons.inj same).1
  exact other (UInt32.toNat_inj.1 (numberBytes_injective numbers))

/-- An artifact comes again only when the numbers of the iterations have gone all round. -/
theorem artifacts_apart {n i j : Nat} {a b : UInt32 × Path} (before : i < j) (near : j - i < UInt32.size)
    (first : (p.artifacts n)[i]? = some a) (second : (p.artifacts n)[j]? = some b) : a.2.Apart b.2 := by
  rw [p.artifacts_getElem? first, p.artifacts_getElem? second]
  apply p.artifact_apart
  intro same
  have numbers : (i + 1) % UInt32.size = (j + 1) % UInt32.size := by
    simpa only [UInt32.toNat_ofNat'] using congrArg UInt32.toNat same
  simp only [UInt32.size] at near numbers
  omega

end SnapshotPlan

/-! ## What the classifier was handed -/

/-- The iteration and the artifact that the classifier was handed, if the event is about that. -/
def Event.classified? : Event → Option (UInt32 × Path)
  | .classified iteration artifact _ => some (iteration, artifact)
  | _ => none

/-- What the classifier was handed, in order, whether or not it succeeded. -/
def handedOver (es : List Event) : List (UInt32 × Path) :=
  es.filterMap Event.classified?

theorem handedOver_append (es fs : List Event) : handedOver (es ++ fs) = handedOver es ++ handedOver fs :=
  List.filterMap_append

/-- Without a classification the classifier was handed nothing. -/
theorem handedOver_eq_nil {es : List Event} (other : ∀ e ∈ es, e.isCounting = false) : handedOver es = [] := by
  apply List.filterMap_eq_nil_iff.2
  intro e found
  have := other e found
  cases e <;> simp_all [Event.isCounting, Event.classified?]

section Snapshots

variable {p : SnapshotPlan} {iteration : UInt32} {h h' : History} {es past : List Event}

theorem Transition.Attempt.handedOver {target : FreezeState} {r : Except Stop Unit} (attempt : Attempt target r es) :
    handedOver es = [] := by
  apply handedOver_eq_nil
  intro e found
  obtain ⟨accepted, rfl⟩ | ⟨answer, rfl⟩ := attempt.serves e found <;> rfl

/-- What a measurement hands over that has come to a result. -/
def Snapshot.due (p : SnapshotPlan) (iteration : UInt32) : Option Sample → List (UInt32 × Path)
  | none => []
  | some _ => [p.artifact iteration]

theorem Snapshot.Measures.handedOver {r : Except Stop (Option Sample)} (measures : Measures p iteration r es) :
    (handedOver es = [] ∨ handedOver es = [p.artifact iteration]) ∧
      ∀ found, r = .ok found → handedOver es = Snapshot.due p iteration found := by
  cases measures with
  | unmapped stop => exact ⟨.inl rfl, by simp⟩
  | noHeap =>
    refine ⟨.inl rfl, ?_⟩
    rintro _ ⟨⟩
    rfl
  | uncounted heap stop => exact ⟨.inr rfl, by simp⟩
  | counted heap pages =>
    refine ⟨.inr rfl, ?_⟩
    rintro _ ⟨⟩
    rfl

theorem Snapshot.Cycle.handedOver {r : Except Stop (Except MonitorError (Option Sample))}
    (cycle : Cycle p iteration r es) : handedOver es = [] ∨ handedOver es = [p.artifact iteration] := by
  cases cycle with
  | unfrozen frozen | freezeFault frozen => exact .inl frozen.handedOver
  | measureFault frozen measures =>
    rw [handedOver_append, frozen.handedOver]
    exact measures.handedOver.1
  | thawFault frozen measures thaws | complete frozen measures thaws =>
    rw [handedOver_append, handedOver_append, frozen.handedOver, thaws.handedOver, List.append_nil]
    exact measures.handedOver.1

/-- A snapshot hands over the artifact of its iteration, unless there is no heap or it fails before. -/
theorem Snapshot.Take.handedOver {r : Except Stop (Option Sample)} (take : Take p h r es h') :
    (handedOver es = [] ∨ handedOver es = [p.artifact (h.iteration + 1)]) ∧
      ∀ found, r = .ok found → handedOver es = Snapshot.due p (h.iteration + 1) found := by
  have around (es : List Event) (result : Option (Option Sample)) :
      HeapSampler.handedOver (.snapshotBegan :: (es ++ [.snapshotEnded result])) = HeapSampler.handedOver es := by
    rw [HeapSampler.handedOver, List.filterMap_cons_none rfl, List.filterMap_append]
    exact List.append_nil _
  refine ⟨?_, ?_⟩
  · cases take with
    | fault cycle => exact cycle.handedOver
    | failed cycle | noHeap cycle | taken cycle =>
      rw [around]
      exact cycle.handedOver
  · rintro found rfl
    obtain ⟨freeze, measuring, thaw, rfl, frozen, measures, thaws⟩ := take.stages
    rw [around, handedOver_append, handedOver_append, frozen.handedOver, thaws.handedOver, List.append_nil]
    exact measures.handedOver.2 found rfl

/-- The history has recorded these counts, and the classifier was handed the artifacts of just as many iterations. -/
structure Matched (p : SnapshotPlan) (es : List Event) (h : History) (counts : List UInt64) : Prop where
  handed : handedOver es = p.artifacts counts.length
  recorded : h = .ofCounts p.output counts

/-- So it is where something has come to a result; where it has stopped, one artifact more may have been handed
over. -/
structure Matches {α : Type} (p : SnapshotPlan) (r : Except Stop α) (es : List Event) (h : History)
    (counts : List UInt64) (n : Nat) : Prop where
  handed : handedOver es = p.artifacts n
  recorded : (∀ f, r ≠ .error (.fault f)) → h = .ofCounts p.output counts
  level : ∀ a, r = .ok a → n = counts.length
  most : n = counts.length ∨ n = counts.length + 1

variable {counts : List UInt64}

theorem Matched.append (matched : Matched p past h counts) (none : handedOver es = []) :
    Matched p (past ++ es) h counts := by
  refine ⟨?_, matched.recorded⟩
  rw [handedOver_append, none, List.append_nil]
  exact matched.handed

theorem Matched.matches {α : Type} (matched : Matched p es h counts) (r : Except Stop α) :
    Matches p r es h counts counts.length :=
  ⟨matched.handed, fun _ => matched.recorded, fun _ _ => rfl, .inl rfl⟩

theorem Matches.matched {α : Type} {a : α} {n : Nat} (met : Matches p (.ok a) es h counts n) :
    Matched p es h counts := by
  refine ⟨?_, met.recorded (by simp)⟩
  rw [← met.level a rfl]
  exact met.handed

theorem Matches.of_stop {α β : Type} {stop : Stop} {n : Nat}
    (met : Matches p (.error stop : Except Stop α) es h counts n) :
    Matches p (.error stop : Except Stop β) es h counts n := by
  refine ⟨met.handed, fun whole => met.recorded ?_, by simp, met.most⟩
  rintro f ⟨⟩
  exact whole f rfl

/-- A snapshot that no error stops keeps the artifacts and the history level. -/
theorem Matched.append_take {r : Except Stop (Option Sample)} (matched : Matched p past h counts)
    (take : Take p h r es h') : ∃ counts' n, Matches p r (past ++ es) h' counts' n := by
  obtain ⟨atMost, all⟩ := take.handedOver
  have next : p.artifact (h.iteration + 1) = p.artifact (.ofNat (counts.length + 1)) := by
    rw [matched.recorded, History.ofCounts_iteration]
  match r with
  | .error stop =>
    have recorded : (∀ f, (.error stop : Except Stop (Option Sample)) ≠ .error (.fault f)) →
        h' = .ofCounts p.output counts := by
      intro whole
      rw [← matched.recorded]
      cases stop with
      | error e => exact take.unsampled (.inr ⟨e, rfl⟩)
      | fault f => exact absurd rfl (whole f)
    rcases atMost with none | one
    · exact ⟨counts, _, (matched.append none).handed, recorded, by simp, .inl rfl⟩
    · refine ⟨counts, counts.length + 1, ?_, recorded, by simp, .inr rfl⟩
      rw [handedOver_append, matched.handed, one, next, p.artifacts_succ]
  | .ok none =>
    obtain rfl : h' = h := take.unsampled (.inl rfl)
    exact ⟨counts, _, (matched.append (all none rfl)).matches _⟩
  | .ok (some sample) =>
    refine ⟨counts ++ [sample.pages], _, Matched.matches ⟨?_, ?_⟩ _⟩
    · rw [handedOver_append, matched.handed, all _ rfl, Snapshot.due, next, List.length_append]
      exact (p.artifacts_succ _).symm
    · obtain ⟨freeze, measuring, thaw, -, -, measures, -⟩ := take.stages
      rw [take.kept, matched.recorded]
      rw [matched.recorded] at measures
      cases measures
      exact History.ofCounts_record rfl

end Snapshots

/-! ## Turns, loops and runs -/

namespace Watch

variable {σ : Type} {w : Watch} {h h' : History} {es past : List Event} {counts : List UInt64}

theorem handedOver_of_aside (aside : ∀ e ∈ es, e.isAside) : handedOver es = [] := by
  apply handedOver_eq_nil
  intro e found
  have := aside e found
  cases e <;> simp_all [Event.isAside, Event.isCounting]

theorem Turn.matches {r : Except Stop (Outcome ⊕ LoopState)} (turn : Turn w h r es h')
    (matched : Matched w.snapshots past h counts) : ∃ counts' n, Matches w.snapshots r (past ++ es) h' counts' n := by
  cases turn with
  | aside goes aside => exact ⟨counts, _, (matched.append (handedOver_of_aside aside)).matches r⟩
  | sampled goes more aside take aside' =>
    obtain ⟨counts', n, met⟩ := (matched.append (handedOver_of_aside aside)).append_take take
    have level := met.matched.append (handedOver_of_aside aside')
    rw [← List.append_assoc, ← List.append_assoc]
    exact ⟨counts', _, level.matches r⟩
  | stopped aside take =>
    obtain ⟨counts', n, met⟩ := (matched.append (handedOver_of_aside aside)).append_take take
    rw [← List.append_assoc]
    exact ⟨counts', n, met.of_stop⟩

/-- Every turn that leads on keeps the artifacts and the history level, so only the last snapshot of a loop can have
handed over an artifact that is not recorded. -/
theorem Loop.matches {r : Except Stop (Option Outcome)} (loop : Loop w h r es h')
    (matched : Matched w.snapshots past h counts) : ∃ counts' n, Matches w.snapshots r (past ++ es) h' counts' n := by
  induction loop generalizing past counts with
  | unfinished h => exact ⟨counts, _, (matched.append rfl).matches _⟩
  | ended turn =>
    obtain ⟨counts', n, met⟩ := turn.matches matched
    exact ⟨counts', _, met.matched.matches _⟩
  | stopped turn =>
    obtain ⟨counts', n, met⟩ := turn.matches matched
    exact ⟨counts', n, met.of_stop⟩
  | next turn rest ih =>
    obtain ⟨counts', n, met⟩ := turn.matches matched
    rw [← List.append_assoc]
    exact ih met.matched

/-- Winding up a run hands nothing over. -/
theorem handedOver_of_unhands {result : Except MonitorError Outcome} (unhands : Unhands result es) :
    handedOver es = [] := by
  by_cases exited : result = .ok .subjectExited
  · rw [unhands.1 exited]
    rfl
  · cases unhands.2 exited <;> rfl

theorem Concludes.handedOver {c : Collaborators σ} {m v : Session σ} {q : Except Stop (Option Outcome)}
    {r : Except Stop (Option Report)} (ends : Concludes c w q m r v es) : handedOver es = [] := by
  cases ends with
  | stopped | unfinished => rfl
  | broken breaks released added => exact handedOver_of_unhands released
  | wound released wrote added left =>
    rw [handedOver_append, handedOver_of_unhands released]
    rfl

/-- The artifacts that a summary lists, each with the number of its iteration. -/
def listed (w : Watch) (summary : Summary) : List (UInt32 × Path) :=
  summary.artifacts.zipIdx.map fun a => (.ofNat (a.2 + 1), w.snapshots.directory / a.1)

theorem listed_ofCounts (w : Watch) (counts : List UInt64) :
    w.listed (w.summary (.ofCounts w.snapshots.output counts)) = w.snapshots.artifacts counts.length := by
  apply List.ext_getElem
  · simp [listed, summary, Summary.ofHistory, History.ofCounts, SnapshotPlan.artifacts]
  · intro k _ _
    simp [listed, summary, Summary.ofHistory, History.ofCounts, SnapshotPlan.artifacts, SnapshotPlan.artifact]

theorem listed_next (w : Watch) (counts : List UInt64) :
    w.snapshots.artifacts (counts.length + 1) = w.listed (w.summary (.ofCounts w.snapshots.output counts)) ++
      [w.snapshots.artifact ((w.summary (.ofCounts w.snapshots.output counts)).iterations + 1)] := by
  rw [listed_ofCounts, SnapshotPlan.artifacts_succ, ← History.ofCounts_iteration (o := w.snapshots.output)]
  rfl

/-- What the classifier was handed in a run with these events. -/
structure HandsOver (c : Collaborators σ) (w : Watch) (turns : Nat) (s : Session σ) (es : List Event) : Prop where
  /-- Different iterations have different names. -/
  named : Function.Injective w.snapshots.output.artifactName
  /-- No artifact is handed over twice, unless as many have been handed over in between as there are numbers to tell the
  iterations apart. -/
  once : ∀ i j a b, i < j → j - i < UInt32.size → (handedOver es)[i]? = some a → (handedOver es)[j]? = some b →
    a.2.Apart b.2
  /-- If the run reports, these are the artifacts of its summary. -/
  reported : ∀ report, (w.run c turns s).1 = .ok (some report) → handedOver es = w.listed report.summary
  /-- If it ends with an error, they are those of the summary that is left to be written, and perhaps the next one. -/
  failed : ∀ e, (w.run c turns s).1 = .error (.error e) → ∃ summary,
    (handedOver es = w.listed summary ∨
      handedOver es = w.listed summary ++ [w.snapshots.artifact (summary.iterations + 1)]) ∧
    summary.iterations = .ofNat summary.artifacts.length ∧
    ∃ files written, summary.write files w.summaryPath = written ∧
      es.getLast? = some (.summaryWritten written.toOption.isSome) ∧
      (w.run c turns s).2.files = written.toOption.getD files

/-- **The artifacts of a run are those of its summary.** -/
theorem run_hands_over (c : Collaborators σ) (w : Watch) (turns : Nat) (s : Session σ) (started : w.Started s) :
    ∃ es, (w.run c turns s).2.events = s.events ++ es ∧ HandsOver c w turns s es := by
  rcases monitored : w.monitor c turns s with ⟨q, m⟩
  obtain ⟨looping, looped, loop⟩ := monitor_loops monitored
  obtain ⟨winding, ends⟩ := run_concludes monitored
  have fresh : Matched w.snapshots [] s.history [] := ⟨rfl, started.history⟩
  obtain ⟨counts, n, met⟩ := loop.matches fresh
  have handed : handedOver (looping ++ winding) = w.snapshots.artifacts n := by
    rw [handedOver_append, ends.handedOver, List.append_nil]
    exact met.handed
  refine ⟨looping ++ winding, by rw [ends.adds.events, looped, List.append_assoc], {
    named := w.snapshots.output.artifactName_injective
    once := ?once
    reported := ?reported
    failed := ?failed }⟩
  case once =>
    rw [handed]
    intro i j a b before near first second
    exact w.snapshots.artifacts_apart before near first second
  case reported =>
    intro report told
    obtain ⟨came, summary, -⟩ := ends.report told
    rw [handed, met.level _ came, summary, met.recorded (by simp [came]), listed_ofCounts]
  case failed =>
    intro e told
    obtain ⟨whole, files, written, wrote, last, left⟩ := ends.writes told
    have recorded := met.recorded whole
    refine ⟨w.summary m.history, ?_, ?_, files, written, wrote, ?_, left⟩
    · rw [handed, recorded, ← listed_next, listed_ofCounts]
      rcases met.most with level | more
      · exact .inl (congrArg w.snapshots.artifacts level)
      · exact .inr (congrArg w.snapshots.artifacts more)
    · rw [recorded]
      simp [summary, Summary.ofHistory, History.ofCounts]
    · rw [List.getLast?_append, last, Option.some_or]

/-- The small run hands over the artifacts of its two snapshots, which lie apart. -/
theorem run_hands_over_small :
    ∃ es, (Small.watch.run Small.machine 10 Small.after).2.events = Small.after.events ++ es ∧
      handedOver es = [(1, Path.ofString "/iteration0001"), (2, Path.ofString "/iteration0002")] ∧
      (Path.ofString "/iteration0001").Apart (Path.ofString "/iteration0002") := by
  obtain ⟨es, events, hands⟩ := run_hands_over Small.machine Small.watch 10 Small.after Small.started
  have handed : handedOver es = [(1, Path.ofString "/iteration0001"), (2, Path.ofString "/iteration0002")] := by
    rw [hands.reported Small.report Small.reports]
    decide
  exact ⟨es, events, handed, hands.once 0 1 _ _ (by decide) (by decide) (by rw [handed]; rfl) (by rw [handed]; rfl)⟩

end Watch

end HeapSampler

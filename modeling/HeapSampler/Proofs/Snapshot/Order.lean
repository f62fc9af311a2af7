import HeapSampler.Proofs.Snapshot.Course

/-!
# The order of a snapshot

A snapshot inspects the subject only while the freezer is known to have stopped it, and it asks for
the thaw afterwards, whatever the inspection came to. `take_orderly` says so of every snapshot: for
every freezer, every source of memory maps, every classifier and every policy.
-/

namespace HeapSampler.Snapshot

open Transition (Attempt Serves)
open Event (Throughout)

variable {σ : Type} {p : SnapshotPlan} {iteration : UInt32} {h h' : History} {es : List Event}

/-- The freezer was seen frozen after a request for that, and no thaw has been requested since. -/
def ConfirmedFrozen (es : List Event) : Prop :=
  ∃ earlier accepted between later,
    es = earlier ++ .requested .frozen accepted :: between ++ .observed (some (some .frozen)) :: later ∧
      ∀ accepted, .requested .thawed accepted ∉ between ++ later

/-- A fault ended the snapshot in the middle of its measurement. -/
def FaultInMeasurement (r : Except Stop (Option Sample)) (es : List Event) : Prop :=
  (∃ f, r = .error (.fault f)) ∧ ∃ e ∈ es.getLast?, e.measures

/-- How a snapshot deals with the freezer and with the subject's memory. -/
structure Orderly (r : Except Stop (Option Sample)) (es : List Event) : Prop where
  /-- The heap is looked up at most once. -/
  mappedOnce : es.countP Event.isMapping ≤ 1
  /-- Pages are classified at most once. -/
  countedOnce : es.countP Event.isCounting ≤ 1
  /-- Only the pages of a heap that was found are classified. -/
  countedHeap : Throughout (fun before e => e.isCounting → ∃ heap, .mapped (some (some heap)) ∈ before) es
  /-- The subject is inspected only while it is known to be frozen. -/
  measuredFrozen : Throughout (fun before e => e.measures → ConfirmedFrozen before) es
  /-- Where the subject was seen frozen, the thaw is requested after the measurement, and nothing
  is inspected from then on. -/
  thawedAfter : .observed (some (some .frozen)) ∈ es → ¬ FaultInMeasurement r es →
    ∃ measured accepted rest, es = measured ++ .requested .thawed accepted :: rest ∧
      ConfirmedFrozen measured ∧ measured.countP Event.isMapping = 1 ∧ ∀ e ∈ rest, e.measures = false
  /-- A snapshot succeeds only if the last it had to do with the freezer was to see it thawed. -/
  okThawed : ∀ sample, r = .ok sample →
    (es.filter Event.touchesFreezer).getLast? = some (.observed (some (some .thawed)))

/-! ## The parts of a snapshot -/

theorem serves_measures {target : FreezeState} {e : Event} (serves : Serves target e) : e.measures = false := by
  obtain ⟨accepted, rfl⟩ | ⟨answer, rfl⟩ := serves <;> rfl

/-- Events that do not inspect the subject neither look up its heap nor classify its pages. -/
theorem countP_of_unmeasured (quiet : ∀ e ∈ es, e.measures = false) :
    es.countP Event.isMapping = 0 ∧ es.countP Event.isCounting = 0 := by
  constructor <;> refine List.countP_eq_zero.2 fun e found => ?_ <;>
    have := quiet e found <;> simp only [Event.measures, Bool.or_eq_false_iff] at this <;> simp [this]

/-- A measurement looks up the heap once and classifies the pages of the heap it found, if any. -/
theorem Measures.counts {r : Except Stop (Option Sample)} (measures : Measures p iteration r es) :
    es.countP Event.isMapping = 1 ∧ es.countP Event.isCounting ≤ 1 := by
  cases measures <;> simp [List.countP_cons, Event.isMapping, Event.isCounting]

theorem Measures.countedHeap {r : Except Stop (Option Sample)} (measures : Measures p iteration r es)
    (earlier : List Event) :
    Throughout (fun before e => e.isCounting → ∃ heap, .mapped (some (some heap)) ∈ earlier ++ before) es := by
  cases measures with
  | unmapped | noHeap => exact .cons (by simp [Event.isCounting]) (.of_forall (by simp))
  | uncounted heap | counted heap =>
    exact .cons (by simp [Event.isCounting]) (.cons (fun _ => ⟨heap, by simp⟩) (.of_forall (by simp)))

theorem Measures.all {r : Except Stop (Option Sample)} (measures : Measures p iteration r es) :
    ∀ e ∈ es, e.measures := by
  cases measures <;> simp [Event.measures, Event.isMapping, Event.isCounting]

/-- Once a transition has frozen the subject, it is known to be frozen until a thaw is requested. -/
theorem confirmed_of_frozen {freeze : List Event} (frozen : Attempt .frozen (.ok ()) freeze) (earlier : List Event)
    {later : List Event} (kept : ∀ e ∈ later, e.measures) : ConfirmedFrozen (earlier ++ freeze ++ later) := by
  have serves := frozen.serves
  obtain ⟨accepted, between, rfl, -⟩ := frozen.settled
  refine ⟨earlier, accepted, between, later, by simp, fun accepted found => ?_⟩
  rcases List.mem_append.1 found with found | found
  · obtain ⟨_, wrong⟩ | ⟨_, wrong⟩ := serves (.requested .thawed accepted) (by simp [found]) <;> cases wrong
  · exact absurd (kept _ found) (by simp [Event.measures, Event.isMapping, Event.isCounting])

/-- The three parts of a snapshot. What is not reached is empty, and nothing is measured unless the
freeze succeeded. -/
structure Parts (p : SnapshotPlan) (iteration : UInt32) (es freeze measuring thaw tail : List Event) : Prop where
  split : es = .snapshotBegan :: (freeze ++ measuring ++ thaw ++ tail)
  freezes : ∃ f, Attempt .frozen f freeze
  measures : measuring = [] ∨ Attempt .frozen (.ok ()) freeze ∧ ∃ m, Measures p iteration m measuring
  thaws : thaw = [] ∨ ∃ t, Attempt .thawed t thaw
  ends : ∀ e ∈ tail, ∃ result, e = .snapshotEnded result

theorem Cycle.parts {r : Except Stop (Except MonitorError (Option Sample))} (cycle : Cycle p iteration r es)
    (tail : List Event) (ends : ∀ e ∈ tail, ∃ result, e = .snapshotEnded result) :
    ∃ freeze measuring thaw, Parts p iteration (.snapshotBegan :: (es ++ tail)) freeze measuring thaw tail := by
  cases cycle with
  | unfrozen frozen | freezeFault frozen =>
    exact ⟨_, [], [], by simp, ⟨_, frozen⟩, .inl rfl, .inl rfl, ends⟩
  | measureFault frozen measures =>
    exact ⟨_, _, [], by simp, ⟨_, frozen⟩, .inr ⟨frozen, _, measures⟩, .inl rfl, ends⟩
  | thawFault frozen measures thaws | complete frozen measures thaws =>
    exact ⟨_, _, _, rfl, ⟨_, frozen⟩, .inr ⟨frozen, _, measures⟩, .inr ⟨_, thaws⟩, ends⟩

theorem Take.parts {r : Except Stop (Option Sample)} (take : Take p h r es h') :
    ∃ freeze measuring thaw tail, Parts p (h.iteration + 1) es freeze measuring thaw tail := by
  cases take with
  | fault cycle =>
    obtain ⟨freeze, measuring, thaw, parts⟩ := cycle.parts [] (by simp)
    exact ⟨freeze, measuring, thaw, [], by simpa using parts⟩
  | failed cycle | noHeap cycle | taken cycle =>
    obtain ⟨freeze, measuring, thaw, parts⟩ := cycle.parts [.snapshotEnded _] (by simp)
    exact ⟨freeze, measuring, thaw, _, parts⟩

/-- A snapshot notes its beginning once and first. -/
theorem Take.inner {r : Except Stop (Option Sample)} (take : Take p h r es h') :
    ∃ rest, es = .snapshotBegan :: rest ∧ ∀ e ∈ rest, e.isInner := by
  obtain ⟨freeze, measuring, thaw, tail, parts⟩ := take.parts
  refine ⟨_, parts.split, fun e found => ?_⟩
  have served {target : FreezeState} (serves : Serves target e) : e.isInner := by
    obtain ⟨accepted, rfl⟩ | ⟨answer, rfl⟩ := serves <;> rfl
  simp only [List.mem_append] at found
  obtain ((found | found) | found) | found := found
  · obtain ⟨f, attempt⟩ := parts.freezes
    exact served (attempt.serves e found)
  · rcases parts.measures with rfl | ⟨-, m, measures⟩
    · cases found
    · have := measures.all e found
      cases e <;> first | rfl | cases this
  · rcases parts.thaws with rfl | ⟨t, attempt⟩
    · cases found
    · exact served (attempt.serves e found)
  · obtain ⟨result, rfl⟩ := parts.ends e found
    rfl

namespace Parts

variable {freeze measuring thaw tail : List Event} (parts : Parts p iteration es freeze measuring thaw tail)
include parts

theorem freeze_unmeasured : ∀ e ∈ freeze, e.measures = false := by
  obtain ⟨f, attempt⟩ := parts.freezes
  exact fun e found => serves_measures (attempt.serves e found)

/-- From the thaw on nothing is inspected. -/
theorem rest_unmeasured : ∀ e ∈ thaw ++ tail, e.measures = false := by
  intro e found
  rcases List.mem_append.1 found with found | found
  · rcases parts.thaws with rfl | ⟨t, attempt⟩
    · cases found
    · exact serves_measures (attempt.serves e found)
  · obtain ⟨result, rfl⟩ := parts.ends e found
    rfl

theorem counts : es.countP Event.isMapping = measuring.countP Event.isMapping ∧
    es.countP Event.isCounting = measuring.countP Event.isCounting := by
  obtain ⟨mapped, counted⟩ := countP_of_unmeasured parts.freeze_unmeasured
  obtain ⟨mapped', counted'⟩ := countP_of_unmeasured parts.rest_unmeasured
  rw [parts.split, List.append_assoc]
  simp [mapped, counted, mapped', counted', Event.isMapping, Event.isCounting]

theorem counts_le : es.countP Event.isMapping ≤ 1 ∧ es.countP Event.isCounting ≤ 1 := by
  rw [parts.counts.1, parts.counts.2]
  rcases parts.measures with rfl | ⟨-, m, measures⟩
  · simp
  · exact ⟨Nat.le_of_eq measures.counts.1, measures.counts.2⟩

/-- A property of measurements holds throughout a snapshot if it holds throughout its measurement. -/
theorem throughout {P : List Event → Event → Prop} (unmeasured : ∀ before e, e.measures = false → P before e)
    (measured : Throughout (fun before => P (.snapshotBegan :: freeze ++ before)) measuring) : Throughout P es := by
  rw [parts.split, List.append_assoc, ← List.cons_append, ← List.cons_append]
  refine .append (.append (.of_forall ?_) measured) (.of_forall fun e found before => ?_)
  · intro e found before
    rcases List.mem_cons.1 found with rfl | found
    · exact unmeasured _ _ rfl
    · exact unmeasured _ _ (parts.freeze_unmeasured e found)
  · exact unmeasured _ _ (parts.rest_unmeasured e found)

theorem countedHeap :
    Throughout (fun before e => e.isCounting → ∃ heap, .mapped (some (some heap)) ∈ before) es := by
  refine parts.throughout (fun before e quiet counting => ?_) ?_
  · simp [Event.measures, counting] at quiet
  · rcases parts.measures with rfl | ⟨-, m, measures⟩
    · exact .of_forall (by simp)
    · exact measures.countedHeap _

theorem measuredFrozen : Throughout (fun before e => e.measures → ConfirmedFrozen before) es := by
  refine parts.throughout (fun before e quiet measures => ?_) ?_
  · simp [measures] at quiet
  · rcases parts.measures with rfl | ⟨frozen, m, measures⟩
    · exact .of_forall (by simp)
    · rintro before e after rfl -
      exact confirmed_of_frozen frozen [.snapshotBegan] fun f found => measures.all f (by simp [found])

end Parts

/-! ## Freeze, measurement and thaw in order -/

/-- After a completed measurement in a frozen subject the thaw is requested. -/
theorem thaw_requested {t : Except Stop Unit} {m : Except Stop (Option Sample)}
    {freeze measuring thaw tail : List Event} (frozen : Attempt .frozen (.ok ()) freeze) (measures : Measures p iteration m measuring)
    (thaws : Attempt .thawed t thaw) (ends : ∀ e ∈ tail, ∃ result, e = .snapshotEnded result) :
    ∃ measured accepted rest,
      .snapshotBegan :: (freeze ++ measuring ++ thaw ++ tail) = measured ++ .requested .thawed accepted :: rest ∧
        ConfirmedFrozen measured ∧ measured.countP Event.isMapping = 1 ∧ ∀ e ∈ rest, e.measures = false := by
  have serves := thaws.serves
  obtain ⟨accepted, rest, rfl, -⟩ := thaws
  refine ⟨[.snapshotBegan] ++ freeze ++ measuring, accepted, rest ++ tail, by simp,
    confirmed_of_frozen frozen [.snapshotBegan] measures.all, ?_, ?_⟩
  · have quiet := (countP_of_unmeasured fun e found => serves_measures (frozen.serves e found)).1
    simp [quiet, measures.counts.1, Event.isMapping]
  · intro e found
    rcases List.mem_append.1 found with found | found
    · exact serves_measures (serves e (by simp [found]))
    · obtain ⟨result, rfl⟩ := ends e found
      rfl

theorem Cycle.thawedAfter {r : Except Stop (Except MonitorError (Option Sample))} (cycle : Cycle p iteration r es)
    (tail : List Event) (ends : ∀ e ∈ tail, ∃ result, e = .snapshotEnded result)
    (seen : .observed (some (some .frozen)) ∈ es)
    (whole : ¬ ((∃ f, r = .error (.fault f)) ∧ ∃ e ∈ es.getLast?, e.measures)) :
    ∃ measured accepted rest, .snapshotBegan :: (es ++ tail) = measured ++ .requested .thawed accepted :: rest ∧
      ConfirmedFrozen measured ∧ measured.countP Event.isMapping = 1 ∧ ∀ e ∈ rest, e.measures = false := by
  cases cycle with
  | unfrozen frozen | freezeFault frozen => exact absurd seen frozen.unsettled
  | measureFault frozen measures =>
    refine absurd ⟨⟨_, rfl⟩, ?_⟩ whole
    have all := measures.all
    cases measures <;> simp [Event.measures, Event.isMapping, Event.isCounting]
  | thawFault frozen measures thaws | complete frozen measures thaws =>
    exact thaw_requested frozen measures thaws ends

theorem Take.thawedAfter {r : Except Stop (Option Sample)} (take : Take p h r es h')
    (seen : .observed (some (some .frozen)) ∈ es) (whole : ¬ FaultInMeasurement r es) :
    ∃ measured accepted rest, es = measured ++ .requested .thawed accepted :: rest ∧
      ConfirmedFrozen measured ∧ measured.countP Event.isMapping = 1 ∧ ∀ e ∈ rest, e.measures = false := by
  cases take with
  | fault cycle =>
    have inside := cycle.thawedAfter [] (by simp) (by simpa using seen) (by
      rintro ⟨faulted, e, last, measures⟩
      refine whole ⟨⟨_, rfl⟩, e, ?_, measures⟩
      rw [List.getLast?_cons, Option.mem_def.1 last]
      rfl)
    simpa using inside
  | failed cycle | noHeap cycle | taken cycle =>
    exact cycle.thawedAfter [.snapshotEnded _] (by simp) (by simpa using seen) (by simp)

/-- The last dealing with the freezer of a snapshot that succeeds is to see the subject thawed. -/
theorem Take.okThawed {sample : Option Sample} (take : Take p h (.ok sample) es h') :
    (es.filter Event.touchesFreezer).getLast? = some (.observed (some (some .thawed))) := by
  obtain ⟨freeze, measuring, thaw, rfl, -, -, thaws⟩ := take.stages
  obtain ⟨accepted, between, rfl, -⟩ := thaws.settled
  simp [Event.touchesFreezer]

/-- **The order of a snapshot.** However the freezer, the memory maps and the classifier behave, the
subject is inspected at most once and only while it is known to be frozen, the thaw is requested
afterwards, and a snapshot succeeds only once the subject was seen thawed. -/
theorem take_orderly (c : Collaborators σ) (p : SnapshotPlan) (pid : UInt32) (s : Session σ) :
    ∃ es, (take c p pid s).2.events = s.events ++ es ∧ Orderly (take c p pid s).1 es := by
  rcases ran : take c p pid s with ⟨r, s'⟩
  obtain ⟨es, added, taken⟩ := take_takes ran
  obtain ⟨freeze, measuring, thaw, tail, parts⟩ := taken.parts
  refine ⟨es, added, ?_⟩
  exact {
    mappedOnce := parts.counts_le.1
    countedOnce := parts.counts_le.2
    countedHeap := parts.countedHeap
    measuredFrozen := parts.measuredFrozen
    thawedAfter := taken.thawedAfter
    okThawed := by
      rintro sample ⟨⟩
      exact taken.okThawed }

end HeapSampler.Snapshot

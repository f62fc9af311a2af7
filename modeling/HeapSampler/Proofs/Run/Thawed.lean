import HeapSampler.Proofs.Run.Course
import HeapSampler.Proofs.Run.Start

/-!
# The subject is not left frozen

A snapshot that succeeds has seen the subject thawed, and a loop that goes on has only taken such
snapshots. A loop that ends otherwise, in the middle of a freeze perhaps, is followed by a release.
`run_leaves_thawed` puts the two together for every run that returns, whatever the freezer, the memory
maps and the classifier do, and whenever the run is interrupted or the subject ends.
-/

namespace HeapSampler

open Event (requests looks)
open Snapshot (Take stopping)
open Transition (Attempt Serves)

/-! ## Settled events -/

namespace Event

variable {es fs : List Event}

@[simp] theorem requests_append (es fs : List Event) : requests (es ++ fs) = requests es ++ requests fs :=
  List.filterMap_append

@[simp] theorem looks_append (es fs : List Event) : looks (es ++ fs) = looks es ++ looks fs :=
  List.filterMap_append

/-- Nothing is left open with the freezer: it was not touched, or the last request was for the thaw,
and the last look showed it. -/
def Settled (es : List Event) : Prop :=
  requests es = [] ∧ looks es = [] ∨
    (requests es).getLast? = some .thawed ∧ (looks es).getLast? = some (some (some .thawed))

theorem Settled.append (first : Settled es) (second : Settled fs) : Settled (es ++ fs) := by
  obtain ⟨asked, looked⟩ | ⟨asked, looked⟩ := second
  · rw [Settled, requests_append, looks_append, asked, looked, List.append_nil, List.append_nil]
    exact first
  · apply Or.inr
    rw [requests_append, looks_append, List.getLast?_append, List.getLast?_append, asked, looked]
    exact ⟨rfl, rfl⟩

theorem Settled.of_untouched (untouched : ∀ e ∈ es, e.touchesFreezer = false) : Settled es := by
  refine .inl ⟨List.filterMap_eq_nil_iff.2 ?_, List.filterMap_eq_nil_iff.2 ?_⟩
  all_goals
    intro e found
    have := untouched e found
    cases e <;> simp_all [touchesFreezer, request?, look?]

theorem Settled.of_aside (aside : ∀ e ∈ es, e.isAside) : Settled es := by
  apply Settled.of_untouched
  intro e found
  have := aside e found
  cases e <;> simp_all [touchesFreezer, isAside]

end Event

open Event (Settled)

/-- A transition asks for its target only. -/
theorem Transition.requests_of_serves {target : FreezeState} {es : List Event}
    (serves : ∀ e ∈ es, Serves target e) : ∀ t ∈ requests es, t = target := by
  intro t asked
  obtain ⟨e, found, same⟩ := List.mem_filterMap.1 asked
  obtain ⟨accepted, rfl⟩ | ⟨answer, rfl⟩ := serves e found
  · exact (Option.some.inj same).symm
  · cases same

/-- A thaw that succeeds settles whatever was open. -/
theorem Transition.Attempt.settles {es : List Event} (thaws : Attempt .thawed (.ok ()) es) :
    (requests es).getLast? = some .thawed ∧ (looks es).getLast? = some (some (some .thawed)) := by
  have only := requests_of_serves thaws.serves
  obtain ⟨accepted, between, rfl, -⟩ := thaws.settled
  constructor
  · have asked :
        requests (.requested .thawed accepted :: (between ++ [.observed (some (some .thawed))])) ≠ [] := by
      simp [requests, Event.request?]
    rw [List.getLast?_eq_some_getLast asked]
    exact congrArg some (only _ (List.getLast_mem asked))
  · rw [← List.cons_append, Event.looks_append, List.getLast?_append]
    rfl

/-! ## Snapshots, turns and loops -/

theorem Snapshot.Take.settled {p : SnapshotPlan} {h h' : History} {sample : Option Sample} {es : List Event}
    (take : Take p h (.ok sample) es h') : Settled es := by
  obtain ⟨freeze, measuring, thaw, rfl, -, -, thaws⟩ := take.stages
  obtain ⟨asked, looked⟩ := thaws.settles
  refine .inr ⟨?_, ?_⟩
  · rw [← List.cons_append, ← List.cons_append, Event.requests_append, Event.requests_append, List.getLast?_append,
      List.getLast?_append, asked]
    rfl
  · rw [← List.cons_append, ← List.cons_append, Event.looks_append, Event.looks_append, List.getLast?_append,
      List.getLast?_append, looked]
    rfl

namespace Watch

variable {σ : Type} {w : Watch} {h h' : History} {es : List Event}

theorem Turn.settled {next : Outcome ⊕ LoopState} {r : Except Stop (Outcome ⊕ LoopState)} (turn : Turn w h r es h')
    (went : r = .ok next) : Settled es := by
  cases turn with
  | aside goes aside => exact .of_aside aside
  | sampled goes more aside take aside' =>
    exact ((Settled.of_aside aside).append take.settled).append (.of_aside aside')
  | stopped => cases went

/-- A loop that no error or fault stops leaves nothing open with the freezer. -/
theorem Loop.settled {ended : Option Outcome} {r : Except Stop (Option Outcome)} (loop : Loop w h r es h')
    (went : r = .ok ended) : Settled es := by
  induction loop with
  | unfinished h => exact .inl ⟨rfl, rfl⟩
  | ended turn => exact turn.settled rfl
  | stopped turn => cases went
  | next turn rest ih => exact (turn.settled rfl).append (ih went)

/-- What a run that returns has done with the freezer, in its loop and in winding up. -/
structure LeavesThawed (result : Except MonitorError Outcome) (looping winding : List Event) : Prop where
  /-- The last request of all was for the thaw, if there was any. -/
  lastRequest : requests (looping ++ winding) = [] ∨ (requests (looping ++ winding)).getLast? = some .thawed
  /-- A loop that did not find the subject ended is followed by a release, before the groups are removed. -/
  released : result ≠ .ok .subjectExited → ∃ accepted looked written,
    winding = .requested .thawed accepted :: (looked ++ [.groupsRemoved, .summaryWritten written]) ∧
      requests looked = []
  /-- A subject that was found ended was seen thawed after the last request. -/
  exited : result = .ok .subjectExited → requests (looping ++ winding) ≠ [] →
    (looks (looping ++ winding)).getLast? = some (some (some .thawed))

section LeavesThawed

variable {result : Except MonitorError Outcome} {looping released : List Event} {written : Bool}

theorem LeavesThawed.of_exited (settled : Settled looping) :
    LeavesThawed (.ok .subjectExited) looping [.groupsRemoved, .summaryWritten written] where
  lastRequest := by
    rw [Event.requests_append]
    obtain ⟨asked, -⟩ | ⟨asked, -⟩ := settled
    · exact .inl (by rw [asked]; rfl)
    · exact .inr (by rw [List.getLast?_append, asked]; rfl)
  released other := absurd rfl other
  exited _ some := by
    rw [Event.looks_append]
    obtain ⟨asked, -⟩ | ⟨-, looked⟩ := settled
    · rw [Event.requests_append, asked] at some
      exact absurd rfl some
    · rw [List.getLast?_append, looked]
      rfl

theorem LeavesThawed.of_released (other : result ≠ .ok .subjectExited) (releases : Releases released) :
    LeavesThawed result looping (released ++ [.groupsRemoved, .summaryWritten written]) where
  lastRequest := by
    apply Or.inr
    rw [Event.requests_append, Event.requests_append, List.getLast?_append, List.getLast?_append]
    cases releases <;> rfl
  released _ := by
    cases releases with
    | refused => exact ⟨_, [], _, rfl, rfl⟩
    | granted answer => exact ⟨_, [.observed answer], _, rfl, rfl⟩
  exited same := absurd same other

end LeavesThawed

/-- **The subject is not left frozen.** For every run that returns, whatever its collaborators do and
however its loop ends, the last request to the freezer was for the thaw. -/
theorem run_leaves_thawed (c : Collaborators σ) (w : Watch) (turns : Nat) (s : Session σ)
    (r : Except MonitorError Report) (returned : (w.run c turns s).1 = stopping (r.map some)) :
    ∃ result looping winding, (w.monitor c turns s).1 = stopping (result.map some) ∧
      (w.monitor c turns s).2.events = s.events ++ looping ∧
      (w.run c turns s).2.events = s.events ++ looping ++ winding ∧ LeavesThawed result looping winding := by
  obtain ⟨result, looping, released, files, written, course⟩ := run_course returned
  refine ⟨result, looping, _, course.monitored, course.looped, course.events, ?_⟩
  by_cases exited : result = .ok .subjectExited
  · subst exited
    rw [course.unhands.1 rfl]
    exact .of_exited (course.loop.settled rfl)
  · exact .of_released exited (course.unhands.2 exited)

/-- The small run is released after it was stopped. -/
theorem run_leaves_thawed_small :
    ∃ result looping winding,
      (Small.watch.monitor Small.machine 10 Small.after).1 = stopping (result.map some) ∧
      (Small.watch.monitor Small.machine 10 Small.after).2.events = Small.after.events ++ looping ∧
      (Small.watch.run Small.machine 10 Small.after).2.events = Small.after.events ++ looping ++ winding ∧
      LeavesThawed result looping winding :=
  run_leaves_thawed Small.machine Small.watch 10 Small.after (.ok Small.report) Small.reports

end Watch

end HeapSampler

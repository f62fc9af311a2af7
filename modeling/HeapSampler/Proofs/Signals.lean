import HeapSampler.Signals

/-!
# What becomes of signals

As long as events are taken and the run has not been asked to stop, each signal is passed on as the event that it
stands for. The first signal that stands for none asks the run to stop, and no signal is looked at after it. So what is
passed on of a number of signals are the events of those before the first request to stop, in their order, and the
request itself is never lost (`start_forwards`).
-/

namespace HeapSampler

/-- The signal asks the run to stop. -/
def Signal.stops (s : Signal) : Bool :=
  s.event?.isNone

namespace Forwarding

variable {f : Forwarding} {s : Signal} {signals : List Signal}

/-- Signals arrive one after the other: the events that are passed on, and the state afterwards. -/
def receiveAll (f : Forwarding) : List Signal → List ControlEvent × Forwarding
  | [] => ([], f)
  | s :: signals =>
    let (event, f) := f.receive s
    let (events, f) := f.receiveAll signals
    (event.toList ++ events, f)

/-- Signals are passed on. -/
structure GoesOn (f : Forwarding) : Prop where
  receiving : f.receiving = true
  unfinished : f.finished = false

/-! ## One signal -/

theorem receive_of_finished (finished : f.finished = true) (s : Signal) : f.receive s = (none, f) := by
  rw [receive, if_pos finished]

theorem receive_event (goesOn : f.GoesOn) {e : ControlEvent} (event : s.event? = some e) :
    f.receive s = (some e, f) := by
  rw [receive, goesOn.unfinished, event]
  simp only [goesOn.receiving, Bool.false_eq_true, if_false, if_true]

/-- A request to stop is heeded even if nobody takes events. -/
theorem receive_stop (unfinished : f.finished = false) (stops : s.stops = true) :
    f.receive s = (none, { f with cancelled := true, finished := true }) := by
  rw [receive, unfinished, Option.isNone_iff_eq_none.1 stops]
  rfl

/-- If nobody takes events, none is passed on, and nobody takes events afterwards either. -/
theorem receive_unheard (unheard : f.receiving = false) (s : Signal) :
    (f.receive s).1 = none ∧ (f.receive s).2.receiving = false := by
  unfold receive
  cases f.finished <;> cases s.event? <;> simp [unheard]

/-! ## Any number of signals -/

/-- After the forwarding has ended, whoever ended it, signals have no effect. -/
theorem receiveAll_of_finished (finished : f.finished = true) (signals : List Signal) :
    f.receiveAll signals = ([], f) := by
  induction signals with
  | nil => rfl
  | cons s signals ih =>
    rw [receiveAll, receive_of_finished finished]
    simp only [ih]
    rfl

theorem receiveAll_unheard (unheard : f.receiving = false) (signals : List Signal) : (f.receiveAll signals).1 = [] := by
  induction signals generalizing f with
  | nil => rfl
  | cons s signals ih =>
    obtain ⟨silent, unheard'⟩ := receive_unheard unheard s
    rw [receiveAll]
    simp only [silent, ih unheard']
    rfl

/-- What has become of signals. -/
structure Forwards (f : Forwarding) (signals : List Signal) : Prop where
  /-- The events of the signals before the first request to stop were passed on, each once and in order. -/
  passed : (f.receiveAll signals).1 = (signals.takeWhile (!·.stops)).filterMap Signal.event?
  /-- The run has been asked to stop if one of the signals asked for it, or somebody had before. -/
  asked : (f.receiveAll signals).2.cancelled = (f.cancelled || signals.any Signal.stops)
  /-- Signals are still passed on unless one of them has asked the run to stop. -/
  finished : (f.receiveAll signals).2.finished = signals.any Signal.stops
  /-- They have no effect if somebody else had asked the run to stop before, -/
  settled : f.cancel.receiveAll signals = ([], f.cancel)
  /-- and none is passed on if nobody takes events any more. -/
  unheard : (f.dropReceiver.receiveAll signals).1 = []

/-- **Signals arrive.** While they are passed on, no signal is lost and none is passed on twice, up to the first request
to stop. -/
theorem receiveAll_forwards (goesOn : f.GoesOn) (signals : List Signal) : Forwards f signals := by
  have settled (signals : List Signal) : f.cancel.receiveAll signals = ([], f.cancel) := receiveAll_of_finished rfl _
  have unheard (signals : List Signal) : (f.dropReceiver.receiveAll signals).1 = [] := receiveAll_unheard rfl _
  induction signals with
  | nil => exact ⟨rfl, (Bool.or_false _).symm, goesOn.unfinished, settled [], unheard []⟩
  | cons s signals ih =>
    cases event : s.event? with
    | none =>
      have stops : s.stops = true := by rw [Signal.stops, event]; rfl
      have ended : f.receiveAll (s :: signals) = ([], { f with cancelled := true, finished := true }) := by
        rw [receiveAll, receive_stop goesOn.unfinished stops]
        simp only [receiveAll_of_finished]
        rfl
      refine ⟨?_, ?_, ?_, settled _, unheard _⟩ <;> simp [ended, stops]
    | some e =>
      have other : s.stops = false := by rw [Signal.stops, event]; rfl
      have next : f.receiveAll (s :: signals) = (e :: (f.receiveAll signals).1, (f.receiveAll signals).2) := by
        rw [receiveAll, receive_event goesOn event]
        rfl
      refine ⟨?_, ?_, ?_, settled _, unheard _⟩
      · simp [next, other, event, ih.passed]
      · simp [next, other, ih.asked]
      · simp [next, other, ih.finished]

/-- So it is from the start on. -/
theorem start_forwards (signals : List Signal) : Forwards start signals :=
  receiveAll_forwards ⟨rfl, rfl⟩ signals

/-- A sample and the state of the run are asked for before the run is stopped, and another sample after that. -/
example : start.receiveAll [.user1, .user2, .terminate, .user1] = ([.sampleNow, .dumpStatus], ⟨true, true, true⟩) := by
  decide

end Forwarding

end HeapSampler

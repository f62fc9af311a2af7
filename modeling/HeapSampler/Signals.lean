import HeapSampler.Monitor.Session

/-!
# Signals

Process signals become events for the monitor. Forwarding them ends with the first request to
stop, or when nobody is left to take an event.
-/

namespace HeapSampler

/-- The signals that the monitor listens to. -/
inductive Signal where
  | interrupt
  | terminate
  | user1
  | user2
  deriving DecidableEq, Repr

/-- The control event that a signal stands for; the others ask the monitor to stop. -/
def Signal.event? : Signal → Option ControlEvent
  | user1 => some .sampleNow
  | user2 => some .dumpStatus
  | interrupt | terminate => none

/-- The state of the forwarding of signals. -/
structure Forwarding where
  /-- Somebody takes events. -/
  receiving : Bool
  /-- The run has been asked to stop. -/
  cancelled : Bool
  /-- No more signals are forwarded. -/
  finished : Bool
  deriving DecidableEq, Repr

namespace Forwarding

/-- The forwarding that has just begun. -/
def start : Forwarding := ⟨true, false, false⟩

/-- A signal arrives: the event that is passed on, and the state afterwards. -/
def receive (f : Forwarding) (s : Signal) : Option ControlEvent × Forwarding :=
  if f.finished then (none, f)
  else
    match s.event? with
    | none => (none, { f with cancelled := true, finished := true })
    | some e => if f.receiving then (some e, f) else (none, { f with finished := true })

/-- The run is asked to stop by somebody else. -/
def cancel (f : Forwarding) : Forwarding :=
  { f with cancelled := true, finished := true }

/-- Nobody takes events any more. -/
def dropReceiver (f : Forwarding) : Forwarding :=
  { f with receiving := false }

end Forwarding

end HeapSampler

import HeapSampler.Monitor.Session
import HeapSampler.Settings.Basic

/-!
# Freezing and thawing

A state is requested, and the freezer is looked at after every pause until it reports the state.
When the timeout has passed without that, the request is repeated; when no repetition is left, the
freezer counts as stuck.
-/

namespace HeapSampler

/-- How long a state is waited for. -/
structure TransitionPolicy where
  pause : Duration
  timeout : Duration
  retries : UInt32
  deriving DecidableEq, Repr

namespace TransitionPolicy

/-- The policy that settings describe. -/
def ofSettings (s : GroupSettings) : TransitionPolicy :=
  ⟨s.pollInterval, s.transitionTimeout, s.retries⟩

/-- The policy that holds unless settings say otherwise. -/
def default : TransitionPolicy :=
  ofSettings .default

/-- How often the freezer is looked at, at most, after one request. A pause of no time counts as
the shortest one. -/
def looksPerRequest (p : TransitionPolicy) : Nat :=
  let pause := max p.pause.nanos 1
  max 1 ((p.timeout.nanos + (pause - 1)) / pause)

/-- How often the freezer is looked at, at most. -/
def maxLooks (p : TransitionPolicy) : Nat :=
  (p.retries.toNat + 1) * p.looksPerRequest

end TransitionPolicy

namespace Transition

/-- Waits for a state until a deadline, with so many repetitions left. The last argument bounds
the looks at the freezer. -/
def await (c : Collaborators σ) (target : FreezeState) (p : TransitionPolicy) :
    (looks retries : Nat) → (deadline : Instant) → Act σ Unit
  | 0, _, _ => throw (.fault .stalledClock)
  | looks + 1, retries, deadline => do
    Act.sleep c p.pause
    if (← Act.observe c) = some target then return ()
    if (← Act.now) < deadline then await c target p looks retries deadline
    else
      match retries with
      | 0 => Act.fail (.freezerStuck target)
      | retries + 1 => do
        Act.request c target
        let deadline ← Act.deadlineIn p.timeout
        await c target p looks retries deadline

/-- Brings the freezer into a state. -/
def run (c : Collaborators σ) (target : FreezeState) (p : TransitionPolicy) : Act σ Unit := do
  Act.request c target
  let deadline ← Act.deadlineIn p.timeout
  await c target p p.maxLooks p.retries.toNat deadline

end Transition

end HeapSampler

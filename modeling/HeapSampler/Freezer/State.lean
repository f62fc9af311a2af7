import HeapSampler.Text.Blank

/-!
# Freezer states

A freezer group is thawed or frozen; while its tasks are being stopped it reports neither.
-/

namespace HeapSampler

/-- A settled state of a freezer group. -/
inductive FreezeState where
  | thawed
  | frozen
  deriving DecidableEq, Repr

namespace FreezeState

/-- The word for a state in the group's state file. -/
def word : FreezeState → String
  | thawed => "THAWED"
  | frozen => "FROZEN"

/-- The word that the state file holds while tasks are being stopped. -/
def freezingWord : String := "FREEZING"

/-- What the content of a state file says: a settled state, none yet, or, in the error, a word
that is no state. -/
def parse (raw : String) : Except String (Option FreezeState) :=
  let word := String.ofList (trimBlank raw.toList)
  if word = thawed.word then .ok (some thawed)
  else if word = frozen.word then .ok (some frozen)
  else if word = freezingWord then .ok none
  else .error word

end FreezeState

end HeapSampler

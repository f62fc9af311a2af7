import HeapSampler.Monitor.Session
import HeapSampler.Run.Plan

/-!
# Starting and ending the subject

The subject gets an environment of its own, and its output goes to a file, which is emptied before
the subject is started.
-/

namespace HeapSampler

namespace Act

/-- Starts a command as the subject. -/
def launch (launcher : Launcher) (command : List String) (env : Environment) (output : Path) :
    Act σ UInt32 := do
  if command.isEmpty then fail (.invalidPlan .emptyCommand)
  let failed := MonitorError.launchFailed (String.intercalate " " command)
  onFiles fun t => match t.write output [] with
    | .ok t => (.ok (), t)
    | .error cause => (.error (failed cause), t)
  let s ← get
  match launcher command env s.files with
  | .error cause => fail (failed cause)
  | .ok started =>
    let files := match s.files.write output started.output with
      | .ok t => t
      | .error _ => s.files
    note (.launched started.pid)
    modify fun s =>
      { s with files, subject := some ⟨started.pid, none, false⟩ }.schedule
        (started.course.map fun (delay, what) => (s.now.later delay, what))
    return started.pid

/-- Kills the subject. That it has ended is noticed when it is looked at again. -/
def kill : Act σ Unit :=
  modify fun s => s.happen (.subjectEnds (.signal killSignal))

end Act

end HeapSampler

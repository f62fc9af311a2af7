import HeapSampler.Monitor.Launch
import HeapSampler.Monitor.Loop
import HeapSampler.Run.Summary

/-!
# Whole runs

A run is started step by step, and a step that fails undoes what the steps before it made. However
a started run ends, the subject is thawed if it may still be frozen, the groups are removed as far
as possible, and a summary of what was recorded is written.
-/

namespace HeapSampler

/-- The directory that takes all files of a run: the one asked for, or the working directory if
there is no such directory. -/
def outputDirectory (t : FileTree) (requested : Option Path) : Except MonitorError Path := do
  let here ← t.currentDir.mapError .io
  match requested with
  | none => return here
  | some p => return if t.isDir (here.join p) then here.join p else here

/-- What a run that ended leaves to tell. -/
structure Report where
  outcome : Outcome
  summary : Summary
  summaryPath : Path
  deriving DecidableEq, Repr

namespace Watch

/-- Does something for the groups of a run, and removes the groups again if it fails. -/
def orDestroy (groups : Groups) (act : Act σ α) : Act σ α := do
  match ← Snapshot.attempt act with
  | .ok a => return a
  | .error e =>
    modify fun s => { s with files := groups.destroy s.files }
    Act.fail e

/-- Moves the subject into its groups, and kills it if that fails. -/
def attachOrKill (groups : Groups) (pid : UInt32) : Act σ Unit := do
  match ← Snapshot.attempt (Act.onFiles (groups.attach pid)) with
  | .ok () => return ()
  | .error e =>
    Act.kill
    Act.fail e

/-- Starts a run. -/
def start (launcher : Launcher) (plan : RunPlan) (settings : Settings) (env : Environment) :
    Act σ Watch := do
  Act.fromFiles fun _ => plan.validate
  let mount ← Act.fromFiles fun t => locateMount t settings.groups.mountCandidates
  let library ← Act.fromFiles fun t => findInterposer t env settings.subject
  let directory ← Act.fromFiles fun t => outputDirectory t plan.directory
  let (interposer, env) := Interposer.install env library directory settings.subject
  let groups := Groups.under mount plan.group settings.groups.leaf
  Act.onFiles groups.create
  orDestroy groups (Act.onFiles (groups.limit plan.memoryLimit))
  let pid ← orDestroy groups
    (Act.launch launcher plan.command env (directory / settings.subject.outputFile))
  orDestroy groups (attachOrKill groups pid)
  return {
    plan, settings, groups, interposer, pid
    snapshots := ⟨.ofSettings settings.groups, directory, settings.output⟩
    summaryPath := directory / settings.output.summaryFile }

/-- Thaws the subject, as far as possible. -/
def release (c : Collaborators σ) : Act σ Unit := do
  discard <| Snapshot.attempt do
    Act.request c .thawed
    discard <| Act.observe c

/-- The summary of a run in its present state. -/
def summary (w : Watch) (h : History) : Summary :=
  .ofHistory w.plan w.interposer w.pid h

/-- Writes the summary. -/
def writeSummary (w : Watch) : Act σ Summary := do
  let summary := w.summary (← get).history
  let written ← Snapshot.attempt <| Act.onFiles fun t => match summary.write t w.summaryPath with
    | .ok t => (.ok (), t)
    | .error e => (.error e, t)
  Act.note (.summaryWritten written.toOption.isSome)
  match written with
  | .ok () => return summary
  | .error e => Act.fail e

/-- Winds up a run. An error of the loop is what the run ends with, whatever happens here. -/
def finish (c : Collaborators σ) (w : Watch) (result : Except MonitorError Outcome) :
    Act σ Report := do
  match result with
  | .ok .subjectExited => pure ()
  | _ => release c
  modify fun s => { s with files := w.groups.destroy s.files }
  Act.note .groupsRemoved
  let written ← Snapshot.attempt w.writeSummary
  match result with
  | .error e => Act.fail e
  | .ok outcome =>
    match written with
    | .ok summary => return { outcome, summary, summaryPath := w.summaryPath }
    | .error e => Act.fail e

/-- Watches the subject to the end of the run and winds the run up, unless so many turns of the
loop are not enough. -/
def run (c : Collaborators σ) (w : Watch) (turns : Nat) : Act σ (Option Report) := do
  match ← Snapshot.attempt (w.monitor c turns) with
  | .ok none => return none
  | .ok (some outcome) => return some (← w.finish c (.ok outcome))
  | .error e => return some (← w.finish c (.error e))

end Watch

end HeapSampler

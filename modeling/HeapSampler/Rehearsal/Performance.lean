import HeapSampler.Rehearsal.Scenes

/-!
# Rehearsals of whole runs

A whole run is rehearsed against a cast, with actions that are taken before the loop begins or at
given times. The whole program is rehearsed on files alone.
-/

namespace HeapSampler.Rehearsal

/-- How many turns of the loop a rehearsal may take. -/
def maxTurns : Nat := 1000000000000

/-- What a run is rehearsed with. -/
structure Part where
  plan : RunPlan
  settings : Settings
  env : Environment
  /-- The freezer's script; without one the freezer is the state file of the run's group. -/
  freezer : Option FreezerScript
  maps : MapsPart
  classifier : ClassifierPart
  /-- The subject ends by itself before the loop begins. -/
  subjectEnds : Bool
  /-- What is done before the loop begins. -/
  queue : List Action
  /-- What is done at a number of milliseconds after the loop began. -/
  timeline : List (Nat × Action)

/-- What a rehearsed run came to. -/
structure Performance where
  freezerDirectory : Path
  treeStarted : List (Bytes × Option Bytes)
  historyStarted : History
  result : Except Stop Report
  summary : Option Json
  freezer : Option FreezerReport
  millis : Nat
  tree : List (Bytes × Option Bytes)

/-- The cast of a run. -/
def Part.cast (p : Part) (g : Groups) : Cast where
  freezer := match p.freezer with
    | some script => .scripted script
    | none => .file g.stateFile
  maps := p.maps
  classifier := p.classifier

/-- What the summary file holds. -/
def readSummary (t : FileTree) (p : Path) : Option Json :=
  match t.readText p with
  | .ok text => Json.parse? text
  | .error _ => none

/-- The path that a summary is looked up at if the run has none to report. -/
def usualSummary (s : Settings) : Path :=
  Path.ofString "/@/out" / s.output.summaryFile

/-- How a command ends that is left to itself. -/
def naturalEnd (command : List String) (env : Environment) (t : FileTree) : List Happening :=
  match Shell.launch command env t with
  | .ok started => started.course.filterMap fun (_, h) =>
      match h with
      | .subjectEnds _ => some h
      | _ => none
  | .error _ => []

/-- Rehearses a run. A run that does not start leaves only its error and the stage. -/
def Part.perform (p : Part) (files : FileTree) :
    Except (Stop × List (Bytes × Option Bytes)) (Option Performance) :=
  let opening := opened files (p.cast ⟨⟨[]⟩, ⟨[]⟩⟩)
  match Watch.start launchStill p.plan p.settings p.env opening with
  | (.error stop, s) => .error (stop, Stage.listing s.files)
  | (.ok w, s) =>
    let treeStarted := Stage.listing s.files
    let historyStarted := s.history
    let ending := if p.subjectEnds then naturalEnd p.plan.command p.env files else []
    let s := (ending ++ p.queue.map Action.happening).foldl Session.happen s
    let s := s.schedule (p.timeline.map fun (ms, a) => (s.now.later (.ofMillis ms), a.happening))
    let (result, s) := w.run (p.cast w.groups).collaborators maxTurns s
    let performance := fun (result : Except Stop Report) =>
      let summaryPath := match result with
        | .ok report => report.summaryPath
        | .error _ => usualSummary p.settings
      { freezerDirectory := w.groups.freezer
        treeStarted, historyStarted, result
        summary := readSummary s.files summaryPath
        freezer := p.freezer.map fun _ => s.state.report
        millis := millisSince Stage.opening s.now
        tree := Stage.listing s.files : Performance }
    match result with
    | .ok none => .ok none
    | .ok (some report) => .ok (some (performance (.ok report)))
    | .error stop => .ok (some (performance (.error stop)))

/-- What the rehearsed program came to. -/
structure ProgramPerformance where
  exit : Nat
  error : Option String
  summary : Option Json
  tree : List (Bytes × Option Bytes)

/-- Rehearses the program with arguments and an environment. -/
def performProgram (files : FileTree) (arguments : List String) (env : Environment) :
    Option ProgramPerformance :=
  let cast := Cast.real ⟨⟨[]⟩, ⟨[]⟩⟩
  match Program.run Shell.launch (fun g => (Cast.real g).collaborators) maxTurns arguments env
      (opened files cast) with
  | (none, _) => none
  | (some result, s) =>
    let tree := (Stage.listing s.files).filter fun (path, _) =>
      ["mount/", "out/"].any fun dir => (Bytes.ofString dir).isPrefixOf path
    some {
      exit := Program.exitStatus result
      error := Program.errorLine? result
      summary := readSummary s.files (Path.ofString "/@/out/FOMSummary.json")
      tree }

end HeapSampler.Rehearsal

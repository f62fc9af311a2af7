import HeapSampler.CommandLine
import HeapSampler.LogFilter
import HeapSampler.Monitor.Run
import HeapSampler.Settings.Files

/-!
# The program

The whole program: it reads its arguments, its log filter and its settings, runs the plan, and
turns the result into an exit status. Zero says that the subject ended and the summary was written,
130 that the run was interrupted and the summary written, 2 that the arguments were wrong, and 1
that something failed.
-/

namespace HeapSampler

/-- Why the program ended without a report. -/
inductive ProgramError where
  | usage (e : CommandLine.UsageError)
  | logFilter (f : LogFilter.Flaw)
  | settings (e : SettingsError)
  | run (e : MonitorError)
  | fault (f : Fault)
  deriving DecidableEq, Repr

namespace Program

/-- The exit status of an interrupted run. -/
def interruptedStatus : Nat := 130

/-- The exit status of a program that a fault ended. -/
def faultStatus : Nat := 134

/-- The exit status of the program. -/
def exitStatus : Except ProgramError Report → Nat
  | .ok report =>
    match report.outcome with
    | .subjectExited => 0
    | .interrupted => interruptedStatus
  | .error (.usage e) => e.exitStatus
  | .error (.logFilter _) | .error (.settings _) | .error (.run _) => 1
  | .error (.fault _) => faultStatus

/-- What the program says about an error that ends it with status 1. -/
def errorLine? : Except ProgramError Report → Option String
  | .error (.logFilter f) => some ("Error: " ++ f.message)
  | .error (.settings e) => some ("Error: " ++ e.message)
  | .error (.run e) => some ("Error: " ++ e.message)
  | _ => none

/-- The file with the settings of the machine. -/
def machineSettings : Path := Path.ofString "/etc/heapfreeze/config.toml"

/-- The directory with further files of settings. -/
def machineSettingsDirectory : Path := Path.ofString "/etc/heapfreeze/config.d"

/-- The further files of settings, in the order of their names. -/
def furtherSettings (t : FileTree) : List Path :=
  match t.find machineSettingsDirectory with
  | .ok (l, .directory) =>
    let names := (t.listing l).filterMap fun (name, _) =>
      let name := if name.getLast? = some Path.slash then name.dropLast else name
      if !name.contains Path.slash && (Bytes.ofString ".toml").isSuffixOf name then some name else none
    names.map fun name => machineSettingsDirectory.join ⟨name⟩
  | _ => []

/-- The settings of a run: those of the file that is asked for, or those of the machine. -/
def settings (t : FileTree) (config : Option Path) : Except SettingsError Settings :=
  match config with
  | some p => Settings.load t p
  | none => Settings.loadLayers t (machineSettings :: furtherSettings t)

/-- Starts a run and watches it to its end, for at most so many turns of the loop. Whom the run
deals with depends on its groups, which say where the freezer is. -/
def runPlan (launcher : Launcher) (c : Groups → Collaborators σ) (turns : Nat) (plan : RunPlan)
    (s : Settings) (env : Environment) : Act σ (Option Report) := do
  let w ← Watch.start launcher plan s env
  w.run (c w.groups) turns

/-- Runs the program, unless so many turns of the loop are not enough. -/
def run (launcher : Launcher) (c : Groups → Collaborators σ) (turns : Nat)
    (arguments : List String) (env : Environment) (s : Session σ) :
    Option (Except ProgramError Report) × Session σ :=
  match CommandLine.parse s.files arguments with
  | .error e => (some (.error (.usage e)), s)
  | .ok arguments =>
    match LogFilter.checkIn env with
    | .error f => (some (.error (.logFilter f)), s)
    | .ok () =>
      match settings s.files arguments.config with
      | .error e => (some (.error (.settings e)), s)
      | .ok tuned =>
        match runPlan launcher c turns arguments.plan tuned env s with
        | (.ok none, s) => (none, s)
        | (.ok (some report), s) => (some (.ok report), s)
        | (.error (.error e), s) => (some (.error (.run e)), s)
        | (.error (.fault f), s) => (some (.error (.fault f)), s)

end Program

end HeapSampler

import HeapSampler.Proofs.Groups
import HeapSampler.Proofs.Run.Start

/-!
# Starts that fail

A start surveys the tree, makes and limits the groups, launches the subject and moves it into them. `Starts`
lists the ways in which that can go, with what each leaves. Whatever fails, no run is left behind; but the
groups are removed then even if they were there before.
-/

namespace HeapSampler

/-- The error is one of those with which a start ends before it has made both groups. -/
def MonitorError.isBeforehand : MonitorError → Bool
  | .invalidPlan _ | .noMemoryController _ | .interposerMissing _ _ | .groupNotCreated _ _ | .io _ => true
  | _ => false

namespace Watch

open Act (bind_cases)

variable {σ α : Type} {launcher : Launcher} {plan : RunPlan} {settings : Settings} {env : Environment} {s t : Session σ}

/-! ## What is found -/

/-- What a start finds before it changes anything. -/
structure Site where
  mount : Path
  library : Path
  directory : Path

/-- What is found, or what is missing or wrong. -/
def survey (plan : RunPlan) (settings : Settings) (env : Environment) (t : FileTree) : Except MonitorError Site := do
  plan.validate
  let mount ← locateMount t settings.groups.mountCandidates
  let library ← findInterposer t env settings.subject
  let directory ← outputDirectory t plan.directory
  return ⟨mount, library, directory⟩

namespace Site

/-- The groups of a run. -/
def groups (site : Site) (plan : RunPlan) (settings : Settings) : Groups :=
  .under site.mount plan.group settings.groups.leaf

/-- What the interposer is told, and the environment of the subject. -/
def interposer (site : Site) (settings : Settings) (env : Environment) : Interposer × Environment :=
  Interposer.install env site.library site.directory settings.subject

/-- The file for the subject's output. -/
def output (site : Site) (settings : Settings) : Path :=
  site.directory / settings.subject.outputFile

/-- The file for the summary. -/
def summary (site : Site) (settings : Settings) : Path :=
  site.directory / settings.output.summaryFile

/-- The run that is started. -/
def watch (site : Site) (plan : RunPlan) (settings : Settings) (env : Environment) (pid : UInt32) : Watch where
  plan := plan
  settings := settings
  groups := site.groups plan settings
  interposer := (site.interposer settings env).1
  pid := pid
  snapshots := ⟨.ofSettings settings.groups, site.directory, settings.output⟩
  summaryPath := site.summary settings

/-- What a start does after the survey. -/
def begin (site : Site) (launcher : Launcher) (plan : RunPlan) (settings : Settings) (env : Environment) :
    Act σ Watch := do
  let groups := site.groups plan settings
  Act.onFiles groups.create
  orDestroy groups (Act.onFiles (groups.limit plan.memoryLimit))
  let pid ← orDestroy groups
    (Act.launch launcher plan.command (site.interposer settings env).2 (site.output settings))
  orDestroy groups (attachOrKill groups pid)
  return site.watch plan settings env pid

end Site

theorem fromFiles_bind {β : Type} (look : FileTree → Except MonitorError α) (f : α → Act σ β) (s : Session σ) :
    (Act.fromFiles look >>= f) s =
      match look s.files with
      | .error e => (.error (.error e), s)
      | .ok a => f a s := by
  cases found : look s.files with
  | error e => exact Act.bind_error (by rw [Act.fromFiles, found]; rfl)
  | ok a => exact Act.bind_ok (by rw [Act.fromFiles, found]; rfl)

/-- A start that finds all it needs begins with the groups; any other ends with nothing done. -/
theorem start_eq (launcher : Launcher) (plan : RunPlan) (settings : Settings) (env : Environment) (s : Session σ) :
    start launcher plan settings env s =
      match survey plan settings env s.files with
      | .error e => (.error (.error e), s)
      | .ok site => site.begin launcher plan settings env s := by
  rw [start, survey, fromFiles_bind]
  cases plan.validate with
  | error e => rfl
  | ok =>
    simp only [fromFiles_bind]
    cases locateMount s.files settings.groups.mountCandidates with
    | error e => rfl
    | ok mount =>
      cases findInterposer s.files env settings.subject with
      | error e => rfl
      | ok library => cases outputDirectory s.files plan.directory <;> rfl

/-! ## The steps of a start -/

theorem onFiles_cases {change : FileTree → Except MonitorError α × FileTree} {r : Except Stop α}
    (ran : Act.onFiles change s = (r, t)) :
    ∃ r' files, change s.files = (r', files) ∧ r = r'.mapError .error ∧ t = { s with files } := by
  cases ran
  exact ⟨_, _, rfl, rfl, rfl⟩

/-- What follows an attempt goes on from a value or from an error. -/
theorem attempt_bind_cases {β : Type} {act : Act σ α} {f : Except MonitorError α → Act σ β} {r : Except Stop β}
    (ran : (Snapshot.attempt act >>= f) s = (r, t)) :
    (∃ a u, act s = (.ok a, u) ∧ f (.ok a) u = (r, t)) ∨
      (∃ e u, act s = (.error (.error e), u) ∧ f (.error e) u = (r, t)) ∨
      ∃ fault, act s = (.error (.fault fault), t) ∧ r = .error (.fault fault) := by
  obtain ⟨stop, attempted, rfl⟩ | ⟨result, u, attempted, ran⟩ := bind_cases ran
  · obtain ⟨a, -, ⟨⟩⟩ | ⟨e, -, ⟨⟩⟩ | ⟨fault, acted, ⟨⟩⟩ := Act.attempt_cases attempted
    exact .inr (.inr ⟨fault, acted, rfl⟩)
  · obtain ⟨a, acted, ⟨⟩⟩ | ⟨e, acted, ⟨⟩⟩ | ⟨fault, -, ⟨⟩⟩ := Act.attempt_cases attempted
    · exact .inl ⟨a, u, acted, ran⟩
    · exact .inr (.inl ⟨e, u, acted, ran⟩)

/-- Only an error makes the groups go; a fault passes through. -/
theorem orDestroy_cases {groups : Groups} {act : Act σ α} {r : Except Stop α} (ran : orDestroy groups act s = (r, t)) :
    (∃ a, act s = (.ok a, t) ∧ r = .ok a) ∨
      (∃ e u, act s = (.error (.error e), u) ∧ r = .error (.error e) ∧
        t = { u with files := groups.destroy u.files }) ∨
      ∃ fault, act s = (.error (.fault fault), t) ∧ r = .error (.fault fault) := by
  obtain ⟨a, u, acted, ran⟩ | ⟨e, u, acted, ran⟩ | faulted := attempt_bind_cases ran
  · cases ran
    exact .inl ⟨a, acted, rfl⟩
  · cases ran
    exact .inr (.inl ⟨e, u, acted, rfl, rfl⟩)
  · exact .inr (.inr faulted)

/-- What a launch has done when the command was started. -/
structure Launches (launcher : Launcher) (command : List String) (env : Environment) (output : Path) (s : Session σ)
    (pid : UInt32) (files : FileTree) (t : Session σ) : Prop where
  emptied : s.files.write output [] = .ok files
  started : ∃ started, launcher command env files = .ok started ∧ started.pid = pid
  wrote : t.files = files ∨ ∃ content, files.write output content = .ok t.files
  events : t.events = s.events ++ [.launched pid]

/-- A launch fails with its own error, having emptied the output file at most, or starts the command. -/
theorem launch_cases {command : List String} {output : Path} {r : Except Stop UInt32} (some : command.isEmpty = false)
    (ran : Act.launch launcher command env output s = (r, t)) :
    (∃ cause files, r = .error (.error (.launchFailed (String.intercalate " " command) cause)) ∧
        t = { s with files } ∧ (files = s.files ∨ s.files.write output [] = .ok files)) ∨
      ∃ pid files, r = .ok pid ∧ Launches launcher command env output s pid files t := by
  unfold Act.launch at ran
  rw [some] at ran
  obtain ⟨stop, refused, rfl⟩ | ⟨⟨⟩, u, emptied, ran⟩ := Act.bind_cases ran
  · obtain ⟨r', files, wrote, failed, rfl⟩ := onFiles_cases refused
    cases opened : s.files.write output [] <;> rw [opened] at wrote <;> cases wrote <;> cases failed
    exact .inl ⟨_, _, rfl, rfl, .inl rfl⟩
  obtain ⟨r', files, wrote, done, rfl⟩ := onFiles_cases emptied
  cases opened : s.files.write output [] <;> rw [opened] at wrote <;> cases wrote <;> cases done
  obtain ⟨-, ⟨⟩, -⟩ | ⟨_, _, ⟨⟩, ran⟩ := Act.bind_cases ran
  cases launched : launcher command env files with
  | error cause =>
    simp only [launched] at ran
    cases ran
    exact .inl ⟨cause, files, rfl, rfl, .inr rfl⟩
  | ok started =>
    simp only [launched] at ran
    cases ran
    refine .inr ⟨_, files, rfl, opened, ⟨started, launched, rfl⟩, ?_, Session.events_note _ _⟩
    cases wrote : files.write output started.output with
    | error cause => exact .inl rfl
    | ok after => exact .inr ⟨_, wrote⟩

theorem kill_alive (s : Session σ) (status : ExitStatus) : (s.happen (.subjectEnds status)).alive = false := by
  rcases subject : s.subject with _ | ⟨pid, _ | earlier, noticed⟩ <;> simp [Session.happen, Session.alive, subject]

/-- A subject that cannot be moved is killed. -/
theorem attachOrKill_cases {groups : Groups} {pid : UInt32} {r : Except Stop Unit}
    (ran : attachOrKill groups pid s = (r, t)) :
    t.trace = s.trace ∧ (r = .ok () ∨ ∃ p cause, r = .error (.error (.notAttached pid p cause)) ∧ t.alive = false ∧
      ∃ r', groups.attach pid s.files = (r', t.files)) := by
  obtain ⟨⟨⟩, u, acted, ran⟩ | ⟨e, u, acted, ran⟩ | ⟨fault, acted, -⟩ := attempt_bind_cases ran <;>
    obtain ⟨r', files, attached, ended, rfl⟩ := onFiles_cases acted <;> cases r' <;> cases ended
  · cases ran
    exact ⟨rfl, .inl rfl⟩
  · cases ran
    obtain ⟨p, cause, rfl⟩ := Groups.attach_error attached
    exact ⟨Session.happen_trace _ _, .inr ⟨p, cause, rfl, kill_alive _ _, _, attached⟩⟩

/-! ## How a start goes -/

/-- The files that a start writes to. -/
def Site.written (site : Site) (plan : RunPlan) (settings : Settings) (t : FileTree) : List Location :=
  let groups := site.groups plan settings
  [groups.limitFile, site.output settings, Groups.tasksFile groups.memory, Groups.tasksFile groups.freezer].map t.place

/-- The directories that a start removes when it fails. -/
def Site.cleared (site : Site) (plan : RunPlan) (settings : Settings) (t : FileTree) : List Location :=
  let groups := site.groups plan settings
  [groups.memory, groups.freezer].map t.place

/-- A tree is as it was before but for what a start writes and removes. -/
def Site.Spares (site : Site) (plan : RunPlan) (settings : Settings) (before files : FileTree) : Prop :=
  FileTree.Spares (site.written plan settings before) (site.cleared plan settings before) before files

/-- The subject is launched when all that has to come before has been done; `files` is what the launcher finds. -/
structure Prepared (launcher : Launcher) (plan : RunPlan) (settings : Settings) (env : Environment) (before : FileTree)
    (site : Site) (files : FileTree) (pid : UInt32) : Prop where
  valid : plan.validate = .ok ()
  mount : locateMount before settings.groups.mountCandidates = .ok site.mount
  library : findInterposer before env settings.subject = .ok site.library
  memory : files.isDir (site.groups plan settings).memory = true
  freezer : files.isDir (site.groups plan settings).freezer = true
  limited : ∃ made limited, (site.groups plan settings).create before = (.ok (), made) ∧
    made.write (site.groups plan settings).limitFile (Groups.limitText plan.memoryLimit) = .ok limited ∧
    limited.write (site.output settings) [] = .ok files
  launched : ∃ started, launcher plan.command (site.interposer settings env).2 files = .ok started ∧ started.pid = pid

/-- How a start goes, and what it leaves behind. -/
inductive Starts (launcher : Launcher) (plan : RunPlan) (settings : Settings) (env : Environment) (s : Session σ) :
    Except Stop Watch → Session σ → Prop
  /-- Something is missing or wrong, or the groups cannot be made. -/
  | unready {e} : Starts launcher plan settings env s (.error (.error e)) s
  /-- The limit cannot be set, or the subject cannot be started. -/
  | unlaunched {site e files} (found : survey plan settings env s.files = .ok site) (late : e.isBeforehand = false)
      (spares : site.Spares plan settings s.files files) :
      Starts launcher plan settings env s (.error (.error e)) { s with files }
  /-- The subject cannot be moved into its groups. -/
  | unattached {site e files pid t} (found : survey plan settings env s.files = .ok site)
      (late : e.isBeforehand = false) (prepared : Prepared launcher plan settings env s.files site files pid)
      (spares : site.Spares plan settings s.files t.files)
      (gone : t.alive = false) (events : t.events = s.events ++ [.launched pid]) :
      Starts launcher plan settings env s (.error (.error e)) t
  | started {site files pid t} (prepared : Prepared launcher plan settings env s.files site files pid)
      (events : t.events = s.events ++ [.launched pid]) :
      Starts launcher plan settings env s (.ok (site.watch plan settings env pid)) t

/-- What is found is what was looked for. -/
theorem survey_eq_ok {files : FileTree} {site : Site} (found : survey plan settings env files = .ok site) :
    plan.validate = .ok () ∧ locateMount files settings.groups.mountCandidates = .ok site.mount ∧
      findInterposer files env settings.subject = .ok site.library := by
  obtain ⟨⟨⟩, valid, found⟩ := FileTree.bind_eq_ok.1 found
  obtain ⟨mount, located, found⟩ := FileTree.bind_eq_ok.1 found
  obtain ⟨library, there, found⟩ := FileTree.bind_eq_ok.1 found
  obtain ⟨directory, -, found⟩ := FileTree.bind_eq_ok.1 found
  cases found
  exact ⟨valid, located, there⟩

theorem command_of_validate (valid : plan.validate = .ok ()) : plan.command.isEmpty = false := by
  cases command : plan.command with
  | cons word rest => rfl
  | nil =>
    have flawed : plan.flaw? ≠ none := by
      unfold RunPlan.flaw?
      by_cases group : plan.group.isEmpty = true <;> simp [group, command]
    unfold RunPlan.validate at valid
    cases flaw : plan.flaw? with
    | none => exact absurd flaw flawed
    | some flaw' =>
      rw [flaw] at valid
      cases valid

theorem isDir_write {t t' : FileTree} {p q : Path} {content : Bytes} (wrote : t.write p content = .ok t')
    (there : t.isDir q = true) : t'.isDir q = true := by
  obtain ⟨name, parent, targets, noSlash, hl, hp, rfl⟩ := FileTree.write_puts wrote
  exact FileTree.isDir_keeps .put there

section Stages

variable {site : Site} {before : FileTree} {pid : UInt32}

/-- Removing the groups leaves everything else as it was. -/
theorem Site.Spares.destroy {files : FileTree} (spares : site.Spares plan settings before files) :
    site.Spares plan settings before ((site.groups plan settings).destroy files) := by
  refine FileTree.Spares.trans spares (Groups.destroy_spares ?_ ?_) <;>
    rw [FileTree.Spares.place_eq spares] <;> simp [Site.cleared]

/-- Writing to one of a start's files leaves everything else as it was. -/
theorem Site.Spares.write {files files' : FileTree} {p : Path} {content : Bytes}
    (spares : site.Spares plan settings before files) (wrote : files.write p content = .ok files')
    (named : before.place p ∈ site.written plan settings before) : site.Spares plan settings before files' :=
  FileTree.Spares.trans spares (.write wrote (by rwa [FileTree.Spares.place_eq spares]))

theorem limit_stage {r : Except Stop Unit} (spares : site.Spares plan settings before s.files)
    (ran : orDestroy (site.groups plan settings) (Act.onFiles ((site.groups plan settings).limit plan.memoryLimit)) s =
      (r, t)) :
    (∃ e files, r = .error (.error e) ∧ e.isBeforehand = false ∧ t = { s with files } ∧
        site.Spares plan settings before files) ∨
      ∃ files, r = .ok () ∧ t = { s with files } ∧
        s.files.write (site.groups plan settings).limitFile (Groups.limitText plan.memoryLimit) = .ok files := by
  obtain ⟨⟨⟩, ended, rfl⟩ | ⟨e, u, ended, rfl, rfl⟩ | ⟨fault, ended, rfl⟩ := orDestroy_cases ran <;>
    obtain ⟨r', files, limited, ended, rfl⟩ := onFiles_cases ended <;> cases r' <;> cases ended
  · exact .inr ⟨files, rfl, rfl, Groups.limit_ok limited⟩
  · obtain ⟨rfl, cause, rfl⟩ := Groups.limit_error limited
    exact .inl ⟨_, _, rfl, rfl, rfl, spares.destroy⟩

theorem launch_stage {r : Except Stop UInt32} (valid : plan.validate = .ok ())
    (spares : site.Spares plan settings before s.files)
    (ran : orDestroy (site.groups plan settings)
      (Act.launch launcher plan.command (site.interposer settings env).2 (site.output settings)) s = (r, t)) :
    (∃ e files, r = .error (.error e) ∧ e.isBeforehand = false ∧ t = { s with files } ∧
        site.Spares plan settings before files) ∨
      ∃ pid files, r = .ok pid ∧ site.Spares plan settings before t.files ∧
        Launches launcher plan.command (site.interposer settings env).2 (site.output settings) s pid files t := by
  have named : before.place (site.output settings) ∈ site.written plan settings before := by simp [Site.written]
  obtain ⟨pid, launched, rfl⟩ | ⟨e, u, failed, rfl, rfl⟩ | ⟨fault, faulted, -⟩ := orDestroy_cases ran
  · obtain ⟨-, -, ⟨⟩, -⟩ | ⟨_, files, ⟨⟩, launches⟩ := launch_cases (command_of_validate valid) launched
    have emptied : site.Spares plan settings before files := spares.write launches.emptied named
    refine .inr ⟨pid, files, rfl, ?_, launches⟩
    obtain same | ⟨content, wrote⟩ := launches.wrote
    · rwa [same]
    · exact emptied.write wrote named
  · obtain ⟨cause, files, ⟨⟩, rfl, rfl | emptied⟩ | ⟨pid, files, ⟨⟩, -⟩ :=
      launch_cases (command_of_validate valid) failed
    · exact .inl ⟨_, _, rfl, rfl, rfl, spares.destroy⟩
    · exact .inl ⟨_, _, rfl, rfl, rfl, (spares.write emptied named).destroy⟩
  · obtain ⟨-, -, ⟨⟩, -⟩ | ⟨-, -, ⟨⟩, -⟩ := launch_cases (command_of_validate valid) faulted

theorem attach_stage {r : Except Stop Unit} (spares : site.Spares plan settings before s.files)
    (ran : orDestroy (site.groups plan settings) (attachOrKill (site.groups plan settings) pid) s = (r, t)) :
    t.events = s.events ∧ (r = .ok () ∨ ∃ e, r = .error (.error e) ∧ e.isBeforehand = false ∧ t.alive = false ∧
      site.Spares plan settings before t.files) := by
  obtain ⟨⟨⟩, ended, rfl⟩ | ⟨e, u, ended, rfl, rfl⟩ | ⟨fault, ended, rfl⟩ := orDestroy_cases ran
  · obtain ⟨trace, -⟩ := attachOrKill_cases ended
    exact ⟨Session.events_congr trace, .inl rfl⟩
  · obtain ⟨trace, ⟨⟨⟩⟩ | ⟨p, cause, ⟨⟩, gone, r', attached⟩⟩ := attachOrKill_cases ended
    have moved : site.Spares plan settings before u.files := by
      refine FileTree.Spares.trans spares (Groups.attach_spares attached ?_ ?_) <;>
        rw [FileTree.Spares.place_eq spares] <;> simp [Site.written]
    exact ⟨Session.events_congr trace, .inr ⟨_, rfl, rfl, gone, moved.destroy⟩⟩
  · obtain ⟨-, ⟨⟨⟩⟩ | ⟨-, -, ⟨⟩, -⟩⟩ := attachOrKill_cases ended

end Stages

theorem Site.begin_starts {site : Site} {r : Except Stop Watch} (found : survey plan settings env s.files = .ok site)
    (ran : site.begin launcher plan settings env s = (r, t)) : Starts launcher plan settings env s r t := by
  obtain ⟨valid, mount, library⟩ := survey_eq_ok found
  -- the groups
  obtain ⟨stop, failed, rfl⟩ | ⟨⟨⟩, u, created, ran⟩ := bind_cases ran
  · obtain ⟨r', files, ended, failed, rfl⟩ := onFiles_cases failed
    cases r' <;> cases failed
    obtain ⟨rfl, -⟩ := Groups.create_undone ended
    exact .unready
  obtain ⟨r', made, created, done, rfl⟩ := onFiles_cases created
  cases r' <;> cases done
  have spares : site.Spares plan settings s.files made := Groups.create_spares created
  -- the limit
  obtain ⟨stop, failed, rfl⟩ | ⟨⟨⟩, u, done, ran⟩ := bind_cases ran
  · obtain ⟨e, files, ⟨⟩, late, rfl, spares⟩ | ⟨-, ⟨⟩, -⟩ := limit_stage spares failed
    exact .unlaunched found late spares
  obtain ⟨-, -, ⟨⟩, -⟩ | ⟨limited, -, rfl, set⟩ := limit_stage spares done
  replace spares := spares.write set (by simp [Site.written])
  -- the launch
  obtain ⟨stop, failed, rfl⟩ | ⟨pid, u, launched, ran⟩ := bind_cases ran
  · obtain ⟨e, files, ⟨⟩, late, rfl, spares⟩ | ⟨-, -, ⟨⟩, -⟩ := launch_stage valid spares failed
    exact .unlaunched found late spares
  obtain ⟨-, -, ⟨⟩, -⟩ | ⟨_, emptied, ⟨⟩, spares, launches⟩ := launch_stage valid spares launched
  have prepared : Prepared launcher plan settings env s.files site emptied pid := by
    obtain ⟨memory, freezer⟩ := Groups.create_isDir created
    exact ⟨valid, mount, library, isDir_write launches.emptied (isDir_write set memory),
      isDir_write launches.emptied (isDir_write set freezer), ⟨made, limited, created, set, launches.emptied⟩,
      launches.started⟩
  -- the move
  obtain ⟨stop, failed, rfl⟩ | ⟨⟨⟩, v, attached, ran⟩ := bind_cases ran
  · obtain ⟨events, ⟨⟨⟩⟩ | ⟨e, ⟨⟩, late, gone, spares⟩⟩ := attach_stage spares failed
    exact .unattached found late prepared spares gone (events.trans launches.events)
  · cases ran
    exact .started prepared ((attach_stage spares attached).1.trans launches.events)

/-- Every start goes in one of these ways. -/
theorem start_starts {r : Except Stop Watch} (ran : start launcher plan settings env s = (r, t)) :
    Starts launcher plan settings env s r t := by
  rw [start_eq] at ran
  cases found : survey plan settings env s.files with
  | error e =>
    rw [found] at ran
    cases ran
    exact .unready
  | ok site =>
    rw [found] at ran
    exact Site.begin_starts found ran

/-! ## What a failed start leaves behind -/

/-- What a start that failed with an error leaves behind in session `t`. -/
structure LeavesNoRun (plan : RunPlan) (settings : Settings) (env : Environment) (s : Session σ) (e : MonitorError)
    (t : Session σ) : Prop where
  /-- Before the groups are made, nothing is changed. -/
  beforehand : e.isBeforehand = true → t.files = s.files
  /-- The file for the summary is neither made nor changed, unless it is one that a start writes to. -/
  summary : t.files = s.files ∨ ∃ site, survey plan settings env s.files = .ok site ∧
    (s.files.place (site.summary settings) ∉ site.written plan settings s.files → ∀ content,
      t.files.node? (s.files.place (site.summary settings)) = some (.file content) ↔
        s.files.node? (s.files.place (site.summary settings)) = some (.file content))
  /-- The freezer is not asked for anything. -/
  requests : Event.requests t.events = Event.requests s.events
  /-- A subject that was started has ended. -/
  subject : t.subject = s.subject ∨ t.alive = false

theorem requests_launched {pid : UInt32} (events : t.events = s.events ++ [.launched pid]) :
    Event.requests t.events = Event.requests s.events := by
  rw [events, Event.requests, List.filterMap_append]
  exact List.append_nil _

/-- **A start that fails leaves no run behind.** However a start goes, the subject is launched only when all is
prepared; and if the start fails, then with an error, and it leaves no run behind. -/
theorem start_leaves_no_run {r : Except Stop Watch} (ran : start launcher plan settings env s = (r, t)) :
    (∃ new, t.events = s.events ++ new ∧ ∀ pid, .launched pid ∈ new →
      ∃ site files, Prepared launcher plan settings env s.files site files pid) ∧
    ∀ stop, r = .error stop → ∃ e, stop = .error e ∧ LeavesNoRun plan settings env s e t := by
  cases start_starts ran with
  | @unready e =>
    refine ⟨⟨[], by simp, by simp⟩, ?_⟩
    rintro _ ⟨⟩
    exact ⟨e, rfl, fun _ => rfl, .inl rfl, rfl, .inl rfl⟩
  | @unlaunched site e files found late spares =>
    refine ⟨⟨[], by simp [Session.events, Session.timeline], by simp⟩, ?_⟩
    rintro _ ⟨⟩
    refine ⟨e, rfl, fun early => ?_, .inr ⟨site, found, fun apart => spares.same _ apart⟩, rfl, .inl rfl⟩
    simp [late] at early
  | @unattached site e files pid _ found late prepared spares gone events =>
    refine ⟨⟨_, events, ?_⟩, ?_⟩
    · rintro _ (_ | ⟨_, ⟨⟩⟩)
      exact ⟨site, files, prepared⟩
    rintro _ ⟨⟩
    refine ⟨e, rfl, fun early => ?_, .inr ⟨site, found, fun apart => spares.same _ apart⟩,
      requests_launched events, .inr gone⟩
    simp [late] at early
  | @started site files pid _ prepared events =>
    refine ⟨⟨_, events, ?_⟩, ?_⟩
    · rintro _ (_ | ⟨_, ⟨⟩⟩)
      exact ⟨site, files, prepared⟩
    · rintro _ ⟨⟩

namespace Small

/-- What stopped an act, if it was stopped. -/
def stop? {α : Type} : Except Stop α → Option Stop
  | .error stop => some stop
  | .ok _ => none

theorem error_of_stop? {α : Type} {r : Except Stop α} {stop : Stop} (told : stop? r = some stop) : r = .error stop := by
  cases r with
  | error other => exact congrArg Except.error (Option.some.inj told)
  | ok a => cases told

/-- The groups of the run are there already. -/
def reused : FileTree :=
  ((watch.groups).create files).2

/-- The subject cannot be moved into its second group. -/
def blocked : FileTree :=
  match reused.createDir (Groups.tasksFile watch.groups.freezer) with
  | .ok t => t
  | .error _ => reused

/-- The start on that machine. -/
def blockedStart : Except Stop Watch × Session (Nat × FreezeState) :=
  start Small.launcher Small.plan Small.settings environment { before with files := blocked }

theorem blockedStart_fails : blockedStart.1 =
    .error (.error (.notAttached 7 (Groups.tasksFile watch.groups.freezer) (.system .isDirectory))) :=
  error_of_stop? (by decide +kernel)

/-- No command can be started. -/
def refusing : Launcher :=
  fun _ _ _ => .error (.system .noEntry)

end Small

/-- A subject that cannot be moved into its second group is not left behind. -/
theorem start_leaves_no_run_blocked : Small.blockedStart.2.events = [.launched 7] ∧ ∃ e,
    LeavesNoRun Small.plan Small.settings Small.environment { Small.before with files := Small.blocked } e
      Small.blockedStart.2 := by
  obtain ⟨e, -, leaves⟩ := (start_leaves_no_run (Prod.ext Small.blockedStart_fails rfl)).2 _ rfl
  exact ⟨by decide +kernel, e, leaves⟩

/-- A summary's file that is a file of the groups is written by a start that fails. -/
theorem failed_start_writes_summary_within_groups :
    let settings := { Small.settings with
      output := { Small.settings.output with summaryFile := "/m/memory/g/heapfreeze/memory.limit_in_bytes" } }
    let ran := start Small.refusing Small.plan settings Small.environment Small.before
    let summary := Path.ofString settings.output.summaryFile
    ran.1 = .error (.error (.launchFailed "sleep" (.system .noEntry))) ∧
      Small.before.files.place summary ≠ Small.before.files.place (Path.ofString "/output") ∧
      Small.before.files.isFile summary = false ∧ ran.2.files.isFile summary = true := by
  intro settings ran summary
  exact ⟨Small.error_of_stop? (by decide +kernel), by decide +kernel, by decide +kernel, by decide +kernel⟩

/-! ## What a failed start removes -/

/-- **What a failed start removes.** A directory that a failed start removes is a group in which there were no
files, and the start did not fail before it had both groups. -/
theorem failed_start_removes {e : MonitorError} {l : Location}
    (failed : start launcher plan settings env s = (.error (.error e), t))
    (there : s.files.node? l = some .directory) (gone : t.files.node? l ≠ some .directory) :
    e.isBeforehand = false ∧ (∀ name content, s.files.node? (name :: l) ≠ some (.file content)) ∧
      ∃ site, survey plan settings env s.files = .ok site ∧ l ∈ site.cleared plan settings s.files := by
  have removes {site : Site} {u : Session σ} (spares : site.Spares plan settings s.files u.files)
      (gone : u.files.node? l ≠ some .directory) :
      (∀ name content, s.files.node? (name :: l) ≠ some (.file content)) ∧ l ∈ site.cleared plan settings s.files :=
    ⟨fun name content inside => gone (FileTree.Spares.directory_of_file spares inside),
      Classical.byContradiction fun kept => gone (spares.directories l kept there)⟩
  cases start_starts failed with
  | unready => exact absurd there gone
  | @unlaunched site _ _ found late spares =>
    exact ⟨late, (removes spares gone).1, site, found, (removes spares gone).2⟩
  | @unattached site _ _ _ _ found late prepared spares =>
    exact ⟨late, (removes spares gone).1, site, found, (removes spares gone).2⟩

namespace Small

/-- The start of a command that cannot be started, where the groups are there already. -/
def refusedStart : Except Stop Watch × Session (Nat × FreezeState) :=
  start refusing Small.plan Small.settings environment { before with files := reused }

theorem refusedStart_fails : refusedStart.1 = .error (.error (.launchFailed "sleep" (.system .noEntry))) :=
  error_of_stop? (by decide +kernel)

end Small

/-- That failure is not one beforehand, and the freezer group that is removed had no files. -/
theorem failed_start_removes_bare : (MonitorError.launchFailed "sleep" (.system .noEntry)).isBeforehand = false ∧
    ∀ name content,
      Small.reused.node? (name :: Small.reused.place Small.watch.groups.freezer) ≠ some (.file content) := by
  have there : Small.reused.node? (Small.reused.place Small.watch.groups.freezer) = some .directory := by
    decide +kernel
  have gone : Small.refusedStart.2.files.node? (Small.reused.place Small.watch.groups.freezer) ≠ some .directory := by
    decide +kernel
  obtain ⟨late, bare, -⟩ := failed_start_removes (Prod.ext Small.refusedStart_fails rfl) there gone
  exact ⟨late, bare⟩

/-- A failed start removes a freezer group that it has not made. -/
theorem failed_start_removes_reused :
    Small.refusedStart.1 = .error (.error (.launchFailed "sleep" (.system .noEntry))) ∧
      Small.reused.isDir Small.watch.groups.freezer = true ∧
      Small.refusedStart.2.files.isDir Small.watch.groups.freezer = false :=
  ⟨Small.refusedStart_fails, by decide +kernel, by decide +kernel⟩

end Watch

end HeapSampler

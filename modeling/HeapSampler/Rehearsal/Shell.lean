import HeapSampler.Monitor.Session
import HeapSampler.Text.Blank

/-!
# Rehearsed commands

What a few small programs do when they are started: what they write, which signals they send, and
when and how they end. A shell script is a list of simple commands between semicolons or line
ends, with quotes and variables but without control structures.
-/

namespace HeapSampler.Rehearsal

/-- The process number that every rehearsed subject has. -/
def subjectPid : UInt32 := 3141592

/-- The process number of the monitor that started it. -/
def monitorPid : UInt32 := 3141591

namespace Shell

/-- What a process has done so far, and how it ended if it did. What it has written is kept with
the time at which it did. -/
structure Progress where
  env : Environment
  elapsed : Duration
  output : List (Duration × Bytes)
  course : List (Duration × Happening)
  last : UInt8
  ended : Option ExitStatus

namespace Progress

/-- A process that was just started. -/
def start (env : Environment) : Progress :=
  ⟨env, .zero, [], [], 0, none⟩

/-- The process has written something. -/
def write (p : Progress) (bs : Bytes) : Progress :=
  { p with output := p.output ++ [(p.elapsed, bs)] }

/-- What the process has written until a time after its start. -/
def outputUntil (p : Progress) (d : Duration) : Bytes :=
  (p.output.filter fun (time, _) => time.nanos ≤ d.nanos).flatMap fun (_, bs) => bs

/-- The process has written a text. -/
def say (p : Progress) (s : String) : Progress :=
  p.write (Bytes.ofString s)

/-- A command of the process has come to an end. -/
def status (p : Progress) (n : UInt8) : Progress :=
  { p with last := n }

/-- The process has ended. -/
def finish (p : Progress) (status : ExitStatus) : Progress :=
  { p with ended := some status }

/-- Something has happened through the process. -/
def cause (p : Progress) (h : Happening) : Progress :=
  { p with course := p.course ++ [(p.elapsed, h)] }

/-- The process has waited. -/
def wait (p : Progress) (d : Duration) : Progress :=
  { p with elapsed := ⟨p.elapsed.nanos + d.nanos⟩ }

end Progress

/-! ## Signals -/

/-- The numbers of signals by name. -/
def signalNumbers : List (String × Nat) := [
  ("HUP", 1), ("INT", 2), ("QUIT", 3), ("ILL", 4), ("TRAP", 5), ("ABRT", 6), ("BUS", 7),
  ("FPE", 8), ("KILL", 9), ("USR1", 10), ("SEGV", 11), ("USR2", 12), ("PIPE", 13), ("ALRM", 14),
  ("TERM", 15), ("STKFLT", 16), ("CHLD", 17), ("CONT", 18), ("STOP", 19), ("TSTP", 20),
  ("TTIN", 21), ("TTOU", 22), ("URG", 23), ("XCPU", 24), ("XFSZ", 25), ("VTALRM", 26),
  ("PROF", 27), ("WINCH", 28), ("IO", 29), ("PWR", 30), ("SYS", 31)]

/-- The signal that a word names, by number or by name. -/
def signal? (word : String) : Option Nat :=
  match Decimal.ofDigits? 10 word.toList with
  | some n => some n
  | none =>
    let name := if word.startsWith "SIG" then (word.drop 3).toString else word
    signalNumbers.lookup name

/-- The signals without consequence for a process that has made no provision for them. -/
def harmless : List Nat := [0, 17, 18, 23, 28]

/-- The signals that stop a process until it is told to go on. -/
def stopping : List Nat := [19, 20, 21, 22]

/-- As good as forever. -/
def forever : Duration := .ofSeconds 0x100000000

/-- What a signal means to the monitor. -/
def toMonitor (signal : Nat) : Option Happening :=
  match signal with
  | 2 | 15 => some .interrupt
  | 10 => some (.control .sampleNow)
  | 12 => some (.control .dumpStatus)
  | _ => none

/-- Sends a signal to a process. -/
def send (p : Progress) (signal : Nat) (target : String) : Progress :=
  if target = Decimal.text subjectPid.toNat then
    if harmless.contains signal then p.status 0
    else if stopping.contains signal then (p.wait forever).status 0
    else p.finish (.signal signal)
  else if target = Decimal.text monitorPid.toNat then
    match toMonitor signal with
    | some h => (p.cause h).status 0
    | none => p.status 0
  else (p.say ("kill: (" ++ target ++ ") - No such process\n")).status 1

/-- Sends the signal that the arguments name, by default the one that asks a process to end. -/
def kill (p : Progress) (arguments : List String) : Progress :=
  match arguments with
  | [] => p.status 2
  | first :: rest =>
    if first = "-s" then
      match rest with
      | name :: targets =>
        match signal? name with
        | some n => targets.foldl (fun p t => if p.ended.isSome then p else send p n t) p
        | none => p.status 2
      | [] => p.status 2
    else if first.startsWith "-" then
      match signal? (first.drop 1).toString with
      | some n => rest.foldl (fun p t => if p.ended.isSome then p else send p n t) p
      | none => p.status 2
    else arguments.foldl (fun p t => if p.ended.isSome then p else send p 15 t) p

/-! ## Programs -/

/-- A number of seconds with an optional fraction. -/
def seconds? (word : String) : Option Duration := do
  let cs := word.toList
  let whole := cs.takeWhile (· != '.')
  let fraction := (cs.dropWhile (· != '.')).drop 1
  let n ← if whole.isEmpty ∧ !fraction.isEmpty then some 0 else Decimal.ofDigits? 10 whole
  if fraction.isEmpty then return .ofSeconds n
  else
    let digits := (fraction ++ List.replicate 9 '0').take 9
    return .ofParts n (← Decimal.ofDigits? 10 digits)

/-- The digits of a base at the front of a text, so many at most. -/
def leadingDigits (base most : Nat) (cs : List Char) : List Char :=
  (cs.take most).takeWhile fun c => (Decimal.digitValue? base c).isSome

/-- The letters that stand for one byte behind a backslash. -/
def escapes : List (Char × UInt8) := [
  ('a', 0x07), ('b', 0x08), ('t', 0x09), ('n', 0x0A), ('v', 0x0B), ('f', 0x0C), ('r', 0x0D),
  ('\\', 0x5C), ('"', 0x22)]

/-- The byte that a text behind a backslash begins with, and how many characters it takes up. A
backslash without such a text stands for itself. -/
def escapedByte (cs : List Char) : UInt8 × Nat :=
  let octal := leadingDigits 8 3 cs
  let hexadecimal := leadingDigits 16 2 (cs.drop 1)
  match cs.head?.bind fun c => escapes.lookup c with
  | some b => (b, 1)
  | none =>
    if cs.head? = some 'x' ∧ !hexadecimal.isEmpty then
      (UInt8.ofNat ((Decimal.ofDigits? 16 hexadecimal).getD 0), hexadecimal.length + 1)
    else if !octal.isEmpty then (UInt8.ofNat ((Decimal.ofDigits? 8 octal).getD 0), octal.length)
    else (0x5C, 0)

/-- A text with its backslash sequences and string directives carried out, and the arguments that
are left. -/
def directives (cs : List Char) (arguments : List String) : Bytes × List String :=
  match cs with
  | [] => ([], arguments)
  | '\\' :: rest =>
    let (b, length) := escapedByte rest
    let (bs, left) := directives (rest.drop length) arguments
    (b :: bs, left)
  | '%' :: '%' :: rest =>
    let (bs, left) := directives rest arguments
    (0x25 :: bs, left)
  | '%' :: 's' :: rest =>
    let (bs, left) := directives rest (arguments.drop 1)
    (Bytes.ofString (arguments.head?.getD "") ++ bs, left)
  | '%' :: 'd' :: rest =>
    let (bs, left) := directives rest (arguments.drop 1)
    (Bytes.ofString (arguments.head?.getD "0") ++ bs, left)
  | c :: rest =>
    let (bs, left) := directives rest arguments
    (Bytes.ofChars [c] ++ bs, left)
termination_by cs.length
decreasing_by all_goals simp only [List.length_drop, List.length_cons]; omega

/-- A format applied to arguments, again and again until none is left. -/
def format (text : List Char) : Nat → List String → Bytes
  | 0, _ => []
  | rounds + 1, arguments =>
    let (bs, left) := directives text arguments
    if left.isEmpty ∨ left.length = arguments.length then bs else bs ++ format text rounds left

/-- A text with its backslash sequences carried out. -/
def unescaped (cs : List Char) : Bytes :=
  match cs with
  | [] => []
  | '\\' :: rest =>
    let (b, length) := escapedByte rest
    b :: unescaped (rest.drop length)
  | c :: rest => Bytes.ofChars [c] ++ unescaped rest
termination_by cs.length
decreasing_by all_goals simp only [List.length_drop, List.length_cons]; omega

/-- The argument is made of the options of `echo`. -/
def isEchoOption (argument : String) : Bool :=
  match argument.toList with
  | '-' :: c :: cs => (c :: cs).all fun c => c == 'n' || c == 'e' || c == 'E'
  | _ => false

/-- Writes the arguments behind the options, with the backslash sequences carried out if `escapes`,
and without the end of the line if `openLine`. -/
def echo (p : Progress) (escapes openLine : Bool) : List String → Progress
  | [] => if openLine then p.status 0 else (p.say "\n").status 0
  | argument :: rest =>
    if isEchoOption argument then
      let chosen := (argument.toList.filter fun c => c == 'e' || c == 'E').getLast?
      echo p (chosen.map (· == 'e') |>.getD escapes) (openLine || argument.toList.contains 'n') rest
    else
      let text := String.intercalate " " (argument :: rest)
      let bs := if escapes then unescaped text.toList else Bytes.ofString text
      (p.write (if openLine then bs else bs ++ [0x0A])).status 0

/-- The programs that can be rehearsed. -/
def programs : List String :=
  ["true", "false", "sleep", "env", "printf", "echo", "pwd", "cat", "kill", "sh"]

/-- Runs a program other than the shell within a process. -/
def runTool (t : FileTree) (p : Progress) (name : String) (arguments : List String) : Progress :=
  match name with
  | "true" => p.status 0
  | "false" => p.status 1
  | "sleep" =>
    match arguments.mapM seconds? with
    | some (d :: ds) => ((d :: ds).foldl Progress.wait p).status 0
    | some [] => (p.say "sleep: missing operand\n").status 1
    | none => (p.say "sleep: invalid time interval\n").status 1
  | "env" =>
    let line := fun (name, value) => name ++ [0x3D] ++ value ++ [0x0A]
    (p.write (p.env.toList.flatMap line)).status 0
  | "printf" =>
    match arguments with
    | [] => (p.say "printf: missing operand\n").status 1
    | text :: rest =>
      (p.write (format text.toList (rest.length + 1) rest)).status 0
  | "echo" => echo p false false arguments
  | "pwd" =>
    match t.currentDir with
    | .ok here => (p.write (here.bytes ++ [0x0A])).status 0
    | .error cause => (p.say ("pwd: " ++ cause.message ++ "\n")).status 1
  | "cat" =>
    match arguments with
    | [] => p.wait forever
    | _ =>
      arguments.foldl (fun p file =>
        match t.read (Path.ofString file) with
        | .ok content => p.write content
        | .error (.system errno) =>
          (p.say ("cat: " ++ file ++ ": " ++ errno.text ++ "\n")).status 1
        | .error _ => p.status 1) (p.status 0)
  | "kill" => kill p arguments
  | _ => p.status 127

/-! ## Scripts -/

/-- A word of a script with its value, built up while it is read. -/
structure WordReader where
  /-- The words so far of the commands so far. -/
  commands : List (List String)
  /-- The word that is being read, if one is. -/
  word : Option (List Char)

/-- The word being read has one more character. -/
def WordReader.add (r : WordReader) (cs : List Char) : WordReader :=
  { r with word := some (r.word.getD [] ++ cs) }

/-- The word being read is complete. -/
def WordReader.endWord (r : WordReader) : WordReader :=
  match r.word with
  | none => r
  | some cs =>
    let commands := match r.commands.reverse with
      | [] => [[String.ofList cs]]
      | command :: before => (before.reverse ++ [command ++ [String.ofList cs]])
    ⟨commands, none⟩

/-- The command being read is complete. -/
def WordReader.endCommand (r : WordReader) : WordReader :=
  let r := r.endWord
  { r with commands := r.commands ++ [[]] }

/-- The value of a variable in a script. -/
def valueOf (env : Environment) (name : List Char) : List Char :=
  if name = ['$'] then Decimal.digits subjectPid.toNat
  else if name = "PPID".toList then Decimal.digits monitorPid.toNat
  else ((env.get? (Bytes.ofChars name)).map fun v => v.lossyText.toList).getD []

/-- The word being read has more characters; white space among them ends it. -/
def WordReader.addWords (r : WordReader) (cs : List Char) : WordReader :=
  cs.foldl (fun r c => if isBlank c then r.endWord else r.add [c]) r

/-- The name of the variable that a text behind a dollar sign begins with, and how many characters
it takes up. A name may stand in braces. -/
def variableName (cs : List Char) : List Char × Nat :=
  match cs with
  | '$' :: _ => (['$'], 1)
  | '\x7b' :: rest =>
    let name := rest.takeWhile (· != '\x7d')
    (name, name.length + 2)
  | _ =>
    let name := cs.takeWhile fun c => c.isAlphanum || c == '_'
    (name, name.length)

/-- The characters that a backslash keeps from their meaning between double quotes. -/
def special : List Char := ['"', '\\', '$']

/-- Reads a script into commands. -/
def readScript (env : Environment) : Nat → (quoted : Bool) → WordReader → List Char → WordReader
  | 0, _, r, _ => r.endWord
  | _, _, r, [] => r.endWord
  | fuel + 1, quoted, r, c :: rest =>
    let (name, length) := variableName rest
    if c = '"' then readScript env fuel (!quoted) (r.add []) rest
    else if c = '$' ∧ !name.isEmpty then
      let value := valueOf env name
      readScript env fuel quoted (if quoted then r.add value else r.addWords value)
        (rest.drop length)
    else if c = '\\' ∧ (!quoted ∨ rest.head?.any special.contains) then
      readScript env fuel quoted (r.add (rest.take 1)) (rest.drop 1)
    else if quoted then readScript env fuel quoted (r.add [c]) rest
    else if c = '\'' then
      let inside := rest.takeWhile (· != '\'')
      readScript env fuel quoted (r.add inside) (rest.drop (inside.length + 1))
    else if c = ';' ∨ c = '\n' then readScript env fuel quoted r.endCommand rest
    else if c = ' ' ∨ c = '\t' then readScript env fuel quoted r.endWord rest
    else readScript env fuel quoted (r.add [c]) rest

/-- The commands of a script, without redirections among the process' own outputs. -/
def commandsOf (env : Environment) (script : String) : List (List String) :=
  let cs := script.toList
  let commands := (readScript env (cs.length + 1) false ⟨[[]], none⟩ cs).commands
  (commands.map fun command => command.filter fun w => w != ">&2" && w != "2>&1" && w != "1>&2").filter
    (!·.isEmpty)

/-- The shell's own `echo` carries out backslash sequences and knows one option. -/
def shellEcho (p : Progress) : List String → Progress
  | "-n" :: rest => (p.write (unescaped (String.intercalate " " rest).toList)).status 0
  | arguments =>
    (p.write (unescaped (String.intercalate " " arguments).toList ++ [0x0A])).status 0

/-- Runs one command of a script. -/
def runCommand (t : FileTree) (p : Progress) (command : List String) : Progress :=
  match p.ended, command with
  | some _, _ | none, [] => p
  | none, "exit" :: arguments =>
    match arguments.head?.bind fun n => Decimal.ofDigits? 10 n.toList with
    | some n => p.finish (.code (UInt8.ofNat n))
    | none => p.finish (.code p.last)
  | none, ":" :: _ => p.status 0
  | none, "echo" :: arguments => shellEcho p arguments
  | none, "exec" :: name :: arguments =>
    let p := runTool t p name arguments
    if p.ended.isSome then p else p.finish (.code p.last)
  | none, name :: arguments =>
    if programs.contains name then runTool t p name arguments
    else (p.say ("sh: 1: " ++ name ++ ": not found\n")).status 127

/-- Runs a program in a process of its own. -/
def runProgram (t : FileTree) (env : Environment) (name : String) (arguments : List String) :
    Progress :=
  match name, arguments with
  | "sh", "-c" :: script :: _ =>
    (commandsOf env script).foldl (runCommand t) (.start env)
  | "sh", _ => .start env
  | _, _ => runTool t (.start env) name arguments

/-! ## Finding programs -/

/-- The file of a program lies in one of these directories. -/
def programDirectories : List Path :=
  ["/usr/bin", "/bin"].map Path.ofString

/-- The search path of an environment that has none. -/
def defaultSearchPath : Bytes := Bytes.ofString "/bin:/usr/bin"

/-- The program in a file, unless it cannot be started. -/
def programAt (t : FileTree) (p : Path) : Except IoError String :=
  match t.find p with
  | .error cause => .error cause
  | .ok (l, .file _) =>
    let known := programDirectories.any fun dir =>
      programs.any fun name => FileTree.pathOf l == dir / name
    match known, l.head?.bind Bytes.text? with
    | true, some name => .ok name
    | _, _ => .error (.system ⟨13⟩)
  | .ok (_, .directory) => .error (.system ⟨13⟩)

/-- The first program among some files. A file that is there but no program is reported only if
nothing else is found. -/
def firstProgram (t : FileTree) (last : IoError) (refused : Bool) :
    List Path → Except IoError String
  | [] => .error (if refused then .system ⟨13⟩ else last)
  | p :: ps =>
    match programAt t p with
    | .ok name => .ok name
    | .error cause =>
      if cause = .system ⟨13⟩ then firstProgram t last true ps else firstProgram t cause refused ps

/-- The program that a command's first word names: a path, or a name on the search path. -/
def findProgram (t : FileTree) (env : Environment) (word : String) : Except IoError String :=
  if word.isEmpty then .error (.system .noEntry)
  else if word.toList.contains '/' then programAt t (Path.ofString word)
  else
    let searchPath := (env.get? (Bytes.ofString "PATH")).getD defaultSearchPath
    firstProgram t (.system .noEntry) false
      ((searchPath.splitOn 0x3A).map fun dir => (⟨dir⟩ : Path) / word)

/-- What a command does, if it can be started. -/
def perform (command : List String) (env : Environment) (t : FileTree) :
    Except IoError Progress := do
  if command.any fun w => w.toList.contains '\x00' then throw .nulInCommand
  if env.vars.any fun (name, value) => name.contains 0 || value.contains 0 then
    throw .nulInCommand
  let name ← findProgram t env (command.head?.getD "")
  return runProgram t env name (command.drop 1)

/-- Starts a command. -/
def launch (command : List String) (env : Environment) (t : FileTree) : Except IoError Launch := do
  let p ← perform command env t
  let status := p.ended.getD (.code p.last)
  return ⟨subjectPid, p.outputUntil .zero, p.course ++ [(p.elapsed, .subjectEnds status)]⟩

end Shell

end HeapSampler.Rehearsal

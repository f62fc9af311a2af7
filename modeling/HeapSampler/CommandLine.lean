import HeapSampler.Host.FileTree
import HeapSampler.Run.Plan
import HeapSampler.Text.Blank
import HeapSampler.Text.Quoted

/-!
# The command line

Options come first, then the command of the subject. The first argument that is no option and no
option's value starts the command, and so does whatever follows `--`; from there on every argument
belongs to the command, whatever it looks like. Arguments that look like options but are not known
also start the command.
-/

namespace HeapSampler.CommandLine

/-! ## Values -/

/-- Why the value of an option is refused; the texts are shown as they are. -/
abbrev Refusal := String

/-- The number of bytes that a suffix of a memory limit stands for. -/
def suffixUnit? (c : Char) : Option Nat :=
  match c with
  | 'k' | 'K' => some 1024
  | 'm' | 'M' => some 1048576
  | 'g' | 'G' => some 1073741824
  | _ => none

/-- The bytes of a trimmed memory limit without its suffix, and the unit that the suffix stands for.
Only the last byte is looked at. -/
def splitLimit (bs : Bytes) : Bytes × Nat :=
  match bs.getLast?.bind fun b => suffixUnit? (Char.ofUInt8 b) with
  | some unit => (bs.dropLast, unit)
  | none => (bs, 1)

/-- A positive number of bytes, with an optional suffix, that fits 64 bits. What stands before the
suffix must be a text again: cutting off a byte of a longer character would leave none. -/
def parseLimit (text : String) : Except Refusal UInt64 :=
  let invalid := "`" ++ text ++ "` is not a valid memory limit"
  let (digits, unit) := splitLimit (Bytes.ofChars (trimBlank text.toList))
  match digits.chars? >>= Decimal.parseWord64? with
  | none => .error invalid
  | some 0 => .error "Memory limit must be positive"
  | some n => if n * unit < UInt64.size then .ok (UInt64.ofNat (n * unit)) else .error invalid

/-- A positive number of seconds. -/
def parseInterval (text : String) : Except Refusal UInt64 :=
  match Decimal.parseWord64? text.toList with
  | none => .error ("`" ++ text ++ "` is not a valid number of seconds")
  | some 0 => .error "Interval must be at least one second"
  | some n => .ok (UInt64.ofNat n)

/-- A path that names something. -/
def parseExisting (t : FileTree) (text : String) : Except Refusal Path :=
  let p := Path.ofString text
  if t.contains p then .ok p else .error ("File not found: " ++ Quoted.ofBytes p.bytes)

/-! ## Usage errors -/

/-- Why the command line is not carried out. -/
inductive UsageError where
  /-- An option has no value, or an empty one where none is allowed. -/
  | invalidValue
  /-- An option is given twice, or together with one that excludes it. -/
  | argumentConflict
  /-- An option without a value is given one. -/
  | tooManyValues
  /-- An option or the command is missing. -/
  | missingRequiredArgument
  /-- The value of an option is refused. -/
  | valueValidation (reason : Refusal)
  /-- Help is asked for. -/
  | displayHelp
  /-- The version is asked for. -/
  | displayVersion
  deriving DecidableEq, Repr

/-- The status that the program exits with. Asking for help or the version is no failure. -/
def UsageError.exitStatus : UsageError → Nat
  | displayHelp | displayVersion => 0
  | _ => 2

/-! ## Options -/

/-- The options that take a value. -/
inductive ValueOption where
  | group
  | limit
  | interval
  | directory
  | config
  deriving DecidableEq, Repr

/-- The options that take none. -/
inductive Flag where
  | verbose
  | quiet
  | help
  | version
  deriving DecidableEq, Repr

/-- An option of either kind. -/
inductive Known where
  | withValue (o : ValueOption)
  | flag (f : Flag)
  deriving DecidableEq, Repr

/-- The option with a long name. -/
def long? (name : String) : Option Known :=
  match name with
  | "cgroup" => some (.withValue .group)
  | "limit" => some (.withValue .limit)
  | "interval" => some (.withValue .interval)
  | "directory" => some (.withValue .directory)
  | "config" => some (.withValue .config)
  | "verbose" => some (.flag .verbose)
  | "quiet" => some (.flag .quiet)
  | "help" => some (.flag .help)
  | "version" => some (.flag .version)
  | _ => none

/-- The option with a one-letter name. -/
def short? (c : Char) : Option Known :=
  match c with
  | 'c' => some (.withValue .group)
  | 'l' => some (.withValue .limit)
  | 'i' => some (.withValue .interval)
  | 'd' => some (.withValue .directory)
  | 'v' => some (.flag .verbose)
  | 'q' => some (.flag .quiet)
  | 'h' => some (.flag .help)
  | 'V' => some (.flag .version)
  | _ => none

/-- What an argument is, as long as the command has not begun. -/
inductive Word where
  /-- The mark behind which the command begins. -/
  | endOfOptions
  /-- Options in one argument: flags, then at most one option with the value it has there. -/
  | options (flags : List Flag) (last : Option (ValueOption × Option String))
  /-- A flag with a value. -/
  | flagWithValue
  /-- The value of an option, or the first word of the command. -/
  | plain (text : String)
  deriving DecidableEq, Repr

/-- One-letter options in a row. The rest behind one that takes a value is its value. -/
def cluster : List Char → List Flag × Option (ValueOption × Option String)
  | [] => ([], none)
  | c :: rest =>
    match short? c with
    | some (.flag f) => let (flags, last) := cluster rest; (f :: flags, last)
    | some (.withValue o) => ([], some (o, if rest.isEmpty then none else some (String.ofList rest)))
    | none => cluster rest

/-- What an argument is. -/
def Word.ofArgument (argument : String) : Word :=
  match argument.toList with
  | ['-', '-'] => .endOfOptions
  | '-' :: '-' :: cs =>
    let name := String.ofList (cs.takeWhile (· != '='))
    let attached := match cs.dropWhile (· != '=') with
      | [] => none
      | _ :: value => some (String.ofList value)
    match long? name with
    | some (.withValue o) => .options [] (some (o, attached))
    | some (.flag f) => if attached.isSome then .flagWithValue else .options [f] none
    | none => .plain argument
  | '-' :: c :: cs =>
    if (c :: cs).all fun c => (short? c).isSome then
      let (flags, last) := cluster (c :: cs)
      .options flags last
    else .plain argument
  | _ => .plain argument

/-! ## Arguments -/

/-- The options so far. An option whose value has not been looked at yet is awaiting it. -/
structure Options where
  group : Option String
  limit : Option UInt64
  interval : Option UInt64
  directory : Option Path
  config : Option Path
  verbose : Nat
  quiet : Nat
  awaiting : Option (ValueOption × Option String)
  deriving DecidableEq, Repr

namespace Options

/-- No options. -/
def none : Options := ⟨.none, .none, .none, .none, .none, 0, 0, .none⟩

/-- The option has been given a value. -/
def has (o : Options) : ValueOption → Bool
  | .group => o.group.isSome
  | .limit => o.limit.isSome
  | .interval => o.interval.isSome
  | .directory => o.directory.isSome
  | .config => o.config.isSome

/-- The options with a value for one that has none yet. -/
def store (t : FileTree) (o : Options) (option : ValueOption) (value : String) :
    Except UsageError Options := do
  if o.has option then throw .argumentConflict
  match option with
  | .group => return { o with group := some value }
  | .limit => return { o with limit := some (← (parseLimit value).mapError .valueValidation) }
  | .interval =>
    return { o with interval := some (← (parseInterval value).mapError .valueValidation) }
  | .directory =>
    if value.isEmpty then throw .invalidValue
    return { o with directory := some (Path.ofString value) }
  | .config =>
    return { o with config := some (← (parseExisting t value).mapError .valueValidation) }

/-- The options with the awaited value looked at. -/
def settle (t : FileTree) (o : Options) : Except UsageError Options :=
  match o.awaiting with
  | .none => .ok o
  | some (_, .none) => .error .invalidValue
  | some (option, some value) => { o with awaiting := .none }.store t option value

/-- The options with a further flag. -/
def raise (t : FileTree) (o : Options) (f : Flag) : Except UsageError Options := do
  let o ← o.settle t
  match f with
  | .verbose => return { o with verbose := o.verbose + 1 }
  | .quiet => return { o with quiet := o.quiet + 1 }
  | .help => throw .displayHelp
  | .version => throw .displayVersion

/-- The options with those of one argument. -/
def take (t : FileTree) (o : Options) (flags : List Flag)
    (last : Option (ValueOption × Option String)) : Except UsageError Options := do
  let o ← flags.foldlM (raise t) o
  match last with
  | .none => return o
  | some (option, some value) => (← o.settle t).store t option value
  | some (option, .none) => return { ← o.settle t with awaiting := some (option, .none) }

end Options

/-- The options at the front of the arguments, and the command behind them. -/
def split (t : FileTree) : Options → List String → Except UsageError (Options × List String)
  | o, [] => do return (← o.settle t, [])
  | o, argument :: rest =>
    match Word.ofArgument argument with
    | .endOfOptions => do return (← o.settle t, rest)
    | .flagWithValue => .error .tooManyValues
    | .options flags last => do split t (← o.take t flags last) rest
    | .plain text =>
      match o.awaiting with
      | some (option, none) => split t { o with awaiting := some (option, some text) } rest
      | _ => do return (← o.settle t, argument :: rest)

/-- How much is logged. -/
inductive Verbosity where
  | off
  | error
  | warn
  | info
  | debug
  | trace
  deriving DecidableEq, Repr

/-- The verbosity that flags ask for: one step up from `info` for each `verbose`, one down for
each `quiet`. -/
def Verbosity.ofCounts (verbose quiet : Nat) : Verbosity :=
  match 3 + verbose - quiet with
  | 0 => .off
  | 1 => .error
  | 2 => .warn
  | 3 => .info
  | 4 => .debug
  | _ => .trace

/-- The name of a verbosity. -/
def Verbosity.name : Verbosity → String
  | off => "OFF"
  | error => "ERROR"
  | warn => "WARN"
  | info => "INFO"
  | debug => "DEBUG"
  | trace => "TRACE"

/-- What the command line asks for. -/
structure Arguments where
  plan : RunPlan
  config : Option Path
  verbosity : Verbosity
  deriving DecidableEq, Repr

/-- Reads the arguments of the program. The file tree tells which configuration files exist. -/
def parse (t : FileTree) (arguments : List String) : Except UsageError Arguments := do
  let (o, command) ← split t .none arguments
  if 0 < o.verbose ∧ 0 < o.quiet then throw .argumentConflict
  match o.group, o.limit, command with
  | some group, some limit, _ :: _ =>
    return {
      plan := {
        group, command
        memoryLimit := limit
        interval := o.interval.map fun n => .ofSeconds n.toNat
        directory := o.directory }
      config := o.config
      verbosity := .ofCounts o.verbose o.quiet }
  | _, _, _ => throw .missingRequiredArgument

end HeapSampler.CommandLine

import HeapSampler.Host.Environment
import HeapSampler.Text.Blank
import HeapSampler.Text.Decimal

/-!
# Log filters

A log filter is a list of directives with commas between them. A directive is a level for
everything, a target that is logged in full, or a target, a span in square brackets with fields in
braces, or both, with a level of their own. Only whether a filter is well formed is of interest
here: what a field's value has to match is not looked into.
-/

namespace HeapSampler.LogFilter

/-- What is wrong with a filter. -/
inductive Flaw where
  /-- A directive has no such form. -/
  | form
  /-- A directive ends in a level that there is not. -/
  | level
  deriving DecidableEq, Repr

/-- The wording of a flaw. -/
def Flaw.message : Flaw → String
  | form => "invalid filter directive"
  | level => "error parsing level filter: expected one of \"off\", \"error\", \"warn\", " ++
      "\"info\", \"debug\", \"trace\", or a number 0-5"

/-- Where in a directive a reader is. -/
inductive Place where
  | start
  /-- In a level or a target. -/
  | name
  /-- In the name of a span. -/
  | span
  /-- In a field of a span; it is empty so far or not. -/
  | field (empty : Bool)
  /-- Behind the fields of a span. -/
  | fieldsEnd
  /-- Behind a span. -/
  | spanEnd
  /-- In a level, of which some characters have been read, newest first. -/
  | level (text : List Char)
  deriving DecidableEq, Repr

/-- The names of the levels. -/
def levelNames : List String := ["off", "error", "warn", "info", "debug", "trace"]

/-- A text names a level: by a number up to five, or by a word in any case. No text at all counts
as a level too. -/
def isLevel (cs : List Char) : Bool :=
  match Decimal.parseWord64? cs with
  | some n => n ≤ 5
  | none => cs.isEmpty || levelNames.contains (String.ofList (cs.map Char.toLower))

/-- A character can begin a directive that begins with a name. Letters and digits beyond ASCII are
not told from other characters there. -/
def beginsName (c : Char) : Bool :=
  c.isAlphanum || c == '-' || c == ':' || c == '_' || 0x7F < c.toNat

/-- Where a reader is one character later. -/
def step (p : Place) (c : Char) : Except Flaw Place :=
  match p with
  | .start =>
    if c = '[' then .ok .span else if beginsName c then .ok .name else .error .form
  | .name =>
    if c = '=' then .ok (.level []) else if c = '[' then .ok .span else .ok .name
  | .span =>
    if c = ']' then .ok .spanEnd else if c = '\x7b' then .ok (.field true) else .ok .span
  | .field empty =>
    if c = '\x7d' then (if empty then .error .form else .ok .fieldsEnd) else .ok (.field false)
  | .fieldsEnd => if c = ']' then .ok .spanEnd else .error .form
  | .spanEnd => if c = '=' then .ok (.level []) else .error .form
  | .level text => .ok (.level (c :: text))

/-- A directive may end where a reader is. -/
def finish : Place → Except Flaw Unit
  | .name | .spanEnd => .ok ()
  | .level text => if isLevel text.reverse then .ok () else .error .level
  | .start | .span | .field _ | .fieldsEnd => .error .form

/-- Checks one directive; white space around it does not count. -/
def checkDirective (cs : List Char) : Except Flaw Unit := do
  finish (← (trimBlank cs).foldlM step .start)

/-- Checks a filter; nothing between two commas is no directive. -/
def check (filter : String) : Except Flaw Unit :=
  ((filter.toList.splitOn ',').filter fun cs => !cs.isEmpty).forM checkDirective

/-- The variable with the filter. -/
def filterVariable : Bytes := Bytes.ofString "HEAPFREEZE_LOG"

/-- Checks the filter of an environment. One that is not text counts as none. -/
def checkIn (env : Environment) : Except Flaw Unit :=
  match (env.get? filterVariable).bind Bytes.text? with
  | some filter => check filter
  | none => .ok ()

end HeapSampler.LogFilter

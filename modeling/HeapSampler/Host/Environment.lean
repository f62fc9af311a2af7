import HeapSampler.Text.Utf8

/-!
# The environment of a process

An environment gives values to names, both byte strings; every name has at most one value. Shown
as a list, it is in the order of the names' bytes.
-/

namespace HeapSampler

/-- The variables of a process. -/
structure Environment where
  vars : List (Bytes × Bytes)
  deriving DecidableEq, Repr

namespace Environment

/-- The environment without variables. -/
def empty : Environment := ⟨[]⟩

/-- The value of a name. -/
def get? (e : Environment) (name : Bytes) : Option Bytes :=
  e.vars.lookup name

/-- Variables with a name's value replaced, or with a new name at the end. -/
def put (vars : List (Bytes × Bytes)) (name value : Bytes) : List (Bytes × Bytes) :=
  match vars with
  | [] => [(name, value)]
  | (n, v) :: rest => if n = name then (n, value) :: rest else (n, v) :: put rest name value

/-- The environment with a value for a name. -/
def set (e : Environment) (name value : Bytes) : Environment :=
  ⟨put e.vars name value⟩

/-- The value of a name, which is set if it has none. -/
def setDefault (e : Environment) (name value : Bytes) : Bytes × Environment :=
  match e.get? name with
  | some v => (v, e)
  | none => (value, e.set name value)

/-- The environment of a list of variables; later ones win. -/
def ofList (vars : List (Bytes × Bytes)) : Environment :=
  vars.foldl (fun e (name, value) => e.set name value) empty

/-- The variables in the order of their names. -/
def toList (e : Environment) : List (Bytes × Bytes) :=
  e.vars.mergeSort fun a b => Bytes.le a.1 b.1

end Environment

end HeapSampler

import HeapSampler.Toml.Reader

/-!
# TOML documents

A document is a tree of tables. It is built statement by statement, and a statement that would
define something twice is refused. Documents are merged table by table, and a document can be
written out as statements again: first the values of the root, then each table in the order of the
headers that opened the tables.
-/

namespace HeapSampler.Toml

/-- How a table came to be. -/
inductive Form where
  /-- By its own header, the given number of headers into the document. -/
  | headed (position : Nat)
  /-- By the header of a table below it. -/
  | implied
  /-- By a dotted key. -/
  | dotted
  deriving DecidableEq, Repr

/-- What a key stands for: a value, a table, or an array of tables with the positions of their
headers. -/
inductive Item where
  | value (v : Value)
  | table (form : Form) (entries : List (String × Item))
  | tables (elements : List (Nat × List (String × Item)))

/-- The entries of a table, in the order in which they were first defined. -/
abbrev Entries := List (String × Item)

namespace Entries

/-- The entries with a key's item replaced, or with a new entry at the end. -/
def put (es : Entries) (key : String) (item : Item) : Entries :=
  match es with
  | [] => [(key, item)]
  | (k, i) :: rest => if k = key then (k, item) :: rest else (k, i) :: put rest key item

/-- The entries without a key. -/
def remove (es : Entries) (key : String) : Entries :=
  es.filter (·.1 != key)

/-! ## Building -/

/-- Changes the table that a header's path leads to. Missing tables are implied, and an array of
tables stands for its last element. A path cannot lead through a value. -/
def atPath (change : Entries → Option Entries) : List String → Entries → Option Entries
  | [], es => change es
  | name :: names, es =>
    match es.lookup name with
    | none => do return es.put name (.table .implied (← atPath change names []))
    | some (.table form inner) => do
      return es.put name (.table form (← atPath change names inner))
    | some (.tables elements) =>
      match elements.getLast? with
      | none => none
      | some (position, inner) => do
        let inner ← atPath change names inner
        return es.put name (.tables (elements.dropLast ++ [(position, inner)]))
    | some (.value _) => none

/-- Adds a value under a dotted key. Tables on the way are made by dotted keys; one with a header
of its own, an array of tables or a value cannot be extended, and one that a header implied can
only be passed through. -/
def assign (key : String) (v : Value) : List String → Entries → Option Entries
  | [], es =>
    match es.lookup key with
    | none => some (es.put key (.value v))
    | some _ => none
  | name :: names, es =>
    match es.lookup name with
    | none => do return es.put name (.table .dotted (← assign key v names []))
    | some (.table .dotted inner) => do
      return es.put name (.table .dotted (← assign key v names inner))
    | some (.table .implied inner) =>
      if names.isEmpty then none
      else do return es.put name (.table .implied (← assign key v names inner))
    | some _ => none

/-- Opens a table with its header. A table that was only implied so far is defined by it and moves
to the end. -/
def openTable (key : String) (position : Nat) (es : Entries) : Option Entries :=
  match es.lookup key with
  | none => some (es.put key (.table (.headed position) []))
  | some (.table .implied inner) =>
    some ((es.remove key).put key (.table (.headed position) inner))
  | some _ => none

/-- Opens a further element of an array of tables. -/
def openElement (key : String) (position : Nat) (es : Entries) : Option Entries :=
  match es.lookup key with
  | none => some (es.put key (.tables [(position, [])]))
  | some (.tables elements) => some (es.put key (.tables (elements ++ [(position, [])])))
  | some _ => none

end Entries

/-- A document while it is built: what it holds so far, the path of the table that is open, and
the number of headers so far. -/
structure Builder where
  root : Entries
  current : List String
  headers : Nat

namespace Builder

/-- Takes up one statement. -/
def take (b : Builder) : Statement → Option Builder
  | .assign path key v => do
    let root ← Entries.atPath (Entries.assign key v path) b.current b.root
    return { b with root }
  | .table path key => do
    let root ← Entries.atPath (Entries.openTable key (b.headers + 1)) path b.root
    return ⟨root, path ++ [key], b.headers + 1⟩
  | .element path key => do
    let root ← Entries.atPath (Entries.openElement key (b.headers + 1)) path b.root
    return ⟨root, path ++ [key], b.headers + 1⟩

end Builder

/-- The document that statements make, unless one of them defines something twice. -/
def Entries.ofStatements? (statements : List Statement) : Option Entries := do
  let b ← statements.foldlM Builder.take ⟨[], [], 0⟩
  return b.root

/-- The document that a text describes. -/
def Entries.parse? (text : String) : Option Entries := do
  Entries.ofStatements? (← statements? text)

/-! ## Merging -/

mutual

/-- An item with another laid over it. Tables are merged, arrays of tables are joined, and
anything else replaces what was there. -/
def Item.over (lower : Option Item) : Item → Item
  | .value v => .value v
  | .table form entries =>
    match lower with
    | some (.table lowerForm lowerEntries) => .table lowerForm (Entries.over lowerEntries entries)
    | _ => .table form entries
  | .tables elements =>
    match lower with
    | some (.tables lowerElements) => .tables (lowerElements ++ elements)
    | _ => .tables elements

/-- The entries of a table with those of another laid over them. -/
def Entries.over (lower : Entries) : List (String × Item) → Entries
  | [] => lower
  | (key, item) :: rest =>
    Entries.over (Entries.put lower key (Item.over (lower.lookup key) item)) rest

end

/-! ## Writing out -/

mutual

/-- The assignments that a table's own values and the tables of its dotted keys need. -/
def Item.assignments (path : List String) (key : String) : Item → List Statement
  | .value v => [.assign path key v]
  | .table .dotted entries => Entries.assignments (path ++ [key]) entries
  | _ => []

/-- The assignments for the entries of a table; `path` leads from its header to them. -/
def Entries.assignments (path : List String) : List (String × Item) → List Statement
  | [] => []
  | (key, item) :: rest => item.assignments path key ++ Entries.assignments path rest

end

/-- The statements of one table with the position at which they are written. -/
structure Block where
  position : Nat
  statements : List Statement

/-- The block of a table under a header. An implied table without values needs none. -/
def Block.ofTable (form : Form) (position : Nat) (header : Statement) (entries : Entries) :
    List Block :=
  let assignments := Entries.assignments [] entries
  match form with
  | .dotted => []
  | .implied => if assignments.isEmpty then [] else [⟨position, header :: assignments⟩]
  | .headed _ => [⟨position, header :: assignments⟩]

mutual

/-- The blocks of an item, and the position of the last table that has one of its own. A table
without one takes that of the last table before it. -/
def Item.blocks (path : List String) (key : String) (last : Nat) : Item → List Block × Nat
  | .value _ => ([], last)
  | .table form entries =>
    let position := match form with
      | .headed position => position
      | _ => last
    let (below, last) := Entries.blocks (path ++ [key]) position entries
    (Block.ofTable form position (.table path key) entries ++ below, last)
  | .tables elements => Item.elementBlocks path key last elements

/-- The blocks of the elements of an array of tables. -/
def Item.elementBlocks (path : List String) (key : String) (last : Nat) :
    List (Nat × List (String × Item)) → List Block × Nat
  | [] => ([], last)
  | (position, entries) :: rest =>
    let (below, last) := Entries.blocks (path ++ [key]) position entries
    let own := ⟨position, .element path key :: Entries.assignments [] entries⟩
    let (more, last) := Item.elementBlocks path key last rest
    (own :: below ++ more, last)

/-- The blocks of the entries of a table. -/
def Entries.blocks (path : List String) (last : Nat) : List (String × Item) → List Block × Nat
  | [] => ([], last)
  | (key, item) :: rest =>
    let (own, last) := item.blocks path key last
    let (more, last) := Entries.blocks path last rest
    (own ++ more, last)

end

/-- The statements that a document is written out as. -/
def Entries.toStatements (es : Entries) : List Statement :=
  let blocks := (Entries.blocks [] 0 es).1.mergeSort fun a b => a.position ≤ b.position
  Entries.assignments [] es ++ blocks.flatMap Block.statements

end HeapSampler.Toml

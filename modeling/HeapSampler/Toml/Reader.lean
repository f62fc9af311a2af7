import HeapSampler.Toml.Quoted
import HeapSampler.Toml.Scalar

/-!
# Reading TOML

`statements?` reads a whole document as the list of what its lines say. Readers take the text that
is left and return what they read with the text behind it; a reader that meets anything else has
no result. Loops over a list of things count down the length of the text, which they shorten on
every round.
-/

namespace HeapSampler.Toml

/-- A reader of something at the front of a text. -/
abbrev Reader (α : Type) := List Char → Option (α × List Char)

/-- How deep arrays and inline tables may be nested, and how many names a dotted key may have. -/
def maxDepth : Nat := 80

namespace Reader

/-- A space or a tab. -/
def isSpace (c : Char) : Bool :=
  c == ' ' || c == '\t'

/-- The text behind spaces and tabs. -/
def skipSpace (cs : List Char) : List Char :=
  cs.dropWhile isSpace

/-- The text behind a comment, which ends before the end of its line, if its characters may stand
in one. -/
def skipComment (cs : List Char) : Option (List Char) :=
  match cs with
  | [] => some []
  | '\n' :: _ => some cs
  | '\r' :: '\n' :: _ => some cs
  | c :: rest => if Quoted.isControl c then none else skipComment rest

/-- The text behind the end of a line. -/
def lineEnd? (cs : List Char) : Option (List Char) :=
  match cs with
  | '\n' :: rest => some rest
  | '\r' :: '\n' :: rest => some rest
  | _ => none

/-- The text behind spaces, comments and line ends. -/
def skipLines : Nat → List Char → Option (List Char)
  | 0, cs => some cs
  | fuel + 1, cs =>
    match skipSpace cs with
    | '#' :: rest => do skipLines fuel (← skipComment rest)
    | cs =>
      match lineEnd? cs with
      | some rest => skipLines fuel rest
      | none => some cs

/-- The text behind spaces, comments and line ends. -/
def skipTrivia (cs : List Char) : Option (List Char) :=
  skipLines cs.length cs

/-- The text behind the rest of a line on which nothing more may stand but a comment. -/
def finishLine (cs : List Char) : Option (List Char) := do
  let cs ← match skipSpace cs with
    | '#' :: rest => skipComment rest
    | cs => some cs
  match cs with
  | [] => some []
  | _ => lineEnd? cs

/-! ## Keys -/

/-- A character of a key without quotes. -/
def isBare (c : Char) : Bool :=
  c.isAlphanum || c == '_' || c == '-'

/-- One name of a key. -/
def name : Reader String := fun cs =>
  match Quoted.readKey cs with
  | some result => some result
  | none =>
    let bare := cs.takeWhile isBare
    if bare.isEmpty then none else some (String.ofList bare, cs.drop bare.length)

/-- The further names of a dotted key, each behind a dot. -/
def moreNames : Nat → Reader (List String)
  | 0, cs => some ([], cs)
  | fuel + 1, cs =>
    match skipSpace cs with
    | '.' :: rest => do
      let (n, rest) ← name (skipSpace rest)
      let (ns, rest) ← moreNames fuel rest
      return (n :: ns, rest)
    | cs => some ([], cs)

/-- A key: the names it is dotted from, and its last name. -/
def key : Reader (List String × String) := fun cs => do
  let (first, rest) ← name (skipSpace cs)
  let (more, rest) ← moreNames rest.length rest
  let names := first :: more
  if names.length > maxDepth then none
  else return ((names.dropLast, names.getLast (by simp [names])), skipSpace rest)

/-! ## Values -/

/-- The items of an array behind its bracket, up to the closing one. -/
def items (item : Reader Value) : Nat → Reader (List Value)
  | 0, _ => none
  | fuel + 1, cs => do
    match ← skipTrivia cs with
    | ']' :: rest => return ([], rest)
    | cs =>
      let (v, rest) ← item cs
      match ← skipTrivia rest with
      | ',' :: rest =>
        let (vs, rest) ← items item fuel rest
        return (v :: vs, rest)
      | ']' :: rest => return ([v], rest)
      | _ => none

/-- A field under construction: a value that was given, or a table that dotted keys fill. -/
inductive Field where
  | given (value : Value)
  | filled (fields : List (String × Field))

/-- Adds a value under a dotted key, unless the key is taken or leads through a given value. -/
def addField (value : Value) (last : String) : List String → List (String × Field) →
    Option (List (String × Field))
  | [], fields =>
    match fields.lookup last with
    | some _ => none
    | none => some (fields ++ [(last, .given value)])
  | name :: names, fields =>
    match fields.lookup name with
    | none => do return fields ++ [(name, .filled (← addField value last names []))]
    | some (.given _) => none
    | some (.filled inner) => do
      let inner ← addField value last names inner
      return fields.map fun (k, f) => if k = name then (k, .filled inner) else (k, f)

mutual

/-- The value of a field. -/
def Field.value : Field → Value
  | .given value => value
  | .filled fields => .inlineTable (values fields)

/-- The values of fields. -/
def values : List (String × Field) → List (String × Value)
  | [] => []
  | (k, f) :: rest => (k, f.value) :: values rest

end

/-- The fields of an inline table behind its brace, up to the closing one. -/
def fields (item : Reader Value) : Nat → List (String × Field) → Reader (List (String × Field))
  | 0, _, _ => none
  | fuel + 1, sofar, cs => do
    match ← skipTrivia cs with
    | '\x7d' :: rest => return (sofar, rest)
    | cs =>
      let ((path, last), rest) ← key cs
      let '=' :: rest := rest | none
      let (v, rest) ← item (skipSpace rest)
      let sofar ← addField v last path sofar
      match ← skipTrivia rest with
      | ',' :: rest => fields item fuel sofar rest
      | '\x7d' :: rest => return (sofar, rest)
      | _ => none

/-- A value in which arrays and inline tables are nested at most as deep as given. -/
def value : Nat → Reader Value
  | depth, cs =>
    match cs with
    | '[' :: rest =>
      match depth with
      | 0 => none
      | depth + 1 => (items (value depth) (rest.length + 1) rest).map fun (vs, r) => (.array vs, r)
    | '\x7b' :: rest =>
      match depth with
      | 0 => none
      | depth + 1 =>
        (fields (value depth) (rest.length + 1) [] rest).map fun (fs, r) =>
          (.inlineTable (values fs), r)
    | _ =>
      if cs.head? = some '"' ∨ cs.head? = some '\'' then
        (Quoted.read cs).map fun (s, r) => (.string s, r)
      else
        let (run, rest) := Scalar.run cs
        (Scalar.parse run).map fun v => (v, rest)

/-! ## Statements -/

/-- A header behind its opening bracket or brackets. -/
def header (cs : List Char) : Option (Statement × List Char) :=
  match cs with
  | '[' :: rest => do
    let ((path, last), rest) ← key rest
    let ']' :: ']' :: rest := rest | none
    return (.element path last, rest)
  | _ => do
    let ((path, last), rest) ← key cs
    let ']' :: rest := rest | none
    return (.table path last, rest)

/-- A key, an equals sign and a value. -/
def assignment (cs : List Char) : Option (Statement × List Char) := do
  let ((path, last), rest) ← key cs
  let '=' :: rest := rest | none
  let (v, rest) ← value maxDepth (skipSpace rest)
  return (.assign path last v, rest)

/-- The statements of a document. -/
def document : Nat → List Char → Option (List Statement)
  | 0, cs => if cs.isEmpty then some [] else none
  | fuel + 1, cs => do
    match ← skipTrivia cs with
    | [] => return []
    | cs =>
      let (statement, rest) ← match cs with
        | '[' :: rest => header rest
        | _ => assignment cs
      let rest ← finishLine rest
      return statement :: (← document fuel rest)

end Reader

/-- The statements of a TOML document; a byte order mark at its front is not part of it. -/
def statements? (text : String) : Option (List Statement) :=
  let cs := match text.toList with
    | '\uFEFF' :: rest => rest
    | cs => cs
  Reader.document (cs.length + 1) cs

end HeapSampler.Toml

import HeapSampler.Json.Value
import HeapSampler.Text.Decimal

/-!
# Reading JSON

Readers take the text that is left and return what they read with the text behind it. Numbers with
a fraction or an exponent are not read.
-/

namespace HeapSampler.Json

/-- A reader of something at the front of a text. -/
abbrev Reader (α : Type) := List Char → Option (α × List Char)

namespace Reader

/-- The white space of JSON. -/
def isSpace (c : Char) : Bool :=
  c == ' ' || c == '\n' || c == '\r' || c == '\t'

/-- The text behind white space. -/
def skipSpace (cs : List Char) : List Char :=
  cs.dropWhile isSpace

/-- The character that a letter behind a backslash stands for. -/
def escaped? (c : Char) : Option Char :=
  match c with
  | '"' => some '"'
  | '\\' => some '\\'
  | '/' => some '/'
  | 'b' => some '\x08'
  | 'f' => some '\x0c'
  | 'n' => some '\n'
  | 'r' => some '\r'
  | 't' => some '\t'
  | _ => none

/-- Where a reader of a string stands. -/
inductive Mode where
  /-- Between characters. -/
  | plain
  /-- Behind a backslash. -/
  | escape
  /-- Behind `\u`: the high half of a pair if there is one, the digits still to come, and the
  number so far. -/
  | hex (high : Option Nat) (left : Nat) (value : Nat)
  /-- Behind the high half of a pair. -/
  | pair (high : Nat)
  /-- Behind the high half of a pair and a backslash. -/
  | pairEscape (high : Nat)

/-- What a number behind `\u` stands for: a character, or the high half of a pair. -/
def unit? (high : Option Nat) (value : Nat) : Option (Char ⊕ Nat) :=
  match high with
  | some high =>
    if 0xDC00 ≤ value ∧ value ≤ 0xDFFF then
      some (.inl (Char.ofNat (0x10000 + (high - 0xD800) * 0x400 + (value - 0xDC00))))
    else none
  | none =>
    if 0xD800 ≤ value ∧ value ≤ 0xDBFF then some (.inr value)
    else if 0xDC00 ≤ value ∧ value ≤ 0xDFFF then none
    else some (.inl (Char.ofNat value))

/-- Reads the characters of a string up to the closing quote. -/
def stringBody : Mode → Reader (List Char)
  | _, [] => none
  | .plain, c :: rest =>
    if c = '"' then some ([], rest)
    else if c = '\\' then stringBody .escape rest
    else if c.toNat < 0x20 then none
    else (stringBody .plain rest).map fun (s, r) => (c :: s, r)
  | .escape, c :: rest =>
    if c = 'u' then stringBody (.hex none 4 0) rest
    else
      match escaped? c with
      | some d => (stringBody .plain rest).map fun (s, r) => (d :: s, r)
      | none => none
  | .hex high left value, c :: rest =>
    match Decimal.digitValue? 16 c with
    | none => none
    | some d =>
      let value := value * 16 + d
      if left ≤ 1 then
        match unit? high value with
        | some (.inl d) => (stringBody .plain rest).map fun (s, r) => (d :: s, r)
        | some (.inr high) => stringBody (.pair high) rest
        | none => none
      else stringBody (.hex high (left - 1) value) rest
  | .pair high, c :: rest => if c = '\\' then stringBody (.pairEscape high) rest else none
  | .pairEscape high, c :: rest =>
    if c = 'u' then stringBody (.hex (some high) 4 0) rest else none

/-- Reads a string behind its opening quote. -/
def string : Reader String := fun cs =>
  (stringBody .plain cs).map fun (s, r) => (String.ofList s, r)

/-- Reads a whole number without leading zeros. -/
def number : Reader Int := fun cs =>
  let (negative, unsigned) := match cs with
    | '-' :: rest => (true, rest)
    | _ => (false, cs)
  let digits := unsigned.takeWhile Char.isDigit
  let rest := unsigned.drop digits.length
  match Decimal.ofDigits? 10 digits with
  | none => none
  | some n =>
    if digits.length > 1 ∧ digits.head? = some '0' then none
    else if rest.head?.any fun c => c == '.' || c == 'e' || c == 'E' then none
    else some (if negative then -n else n, rest)

/-- Reads the items of an array behind its first. -/
def moreItems (item : Reader Json) : Nat → Reader (List Json)
  | 0, _ => none
  | fuel + 1, cs =>
    match skipSpace cs with
    | ']' :: rest => some ([], rest)
    | ',' :: rest => do
      let (v, rest) ← item rest
      let (vs, rest) ← moreItems item fuel rest
      return (v :: vs, rest)
    | _ => none

/-- Reads the items of an array behind its bracket. -/
def items (item : Reader Json) : Reader (List Json) := fun cs =>
  match skipSpace cs with
  | ']' :: rest => some ([], rest)
  | cs => do
    let (v, rest) ← item cs
    let (vs, rest) ← moreItems item rest.length rest
    return (v :: vs, rest)

/-- Reads a member of an object. -/
def member (item : Reader Json) : Reader (String × Json) := fun cs => do
  let '"' :: rest := skipSpace cs | none
  let (name, rest) ← string rest
  let ':' :: rest := skipSpace rest | none
  let (v, rest) ← item rest
  return ((name, v), rest)

/-- Reads the members of an object behind its first. -/
def moreMembers (item : Reader Json) : Nat → Reader (List (String × Json))
  | 0, _ => none
  | fuel + 1, cs =>
    match skipSpace cs with
    | '\x7d' :: rest => some ([], rest)
    | ',' :: rest => do
      let (m, rest) ← member item rest
      let (ms, rest) ← moreMembers item fuel rest
      return (m :: ms, rest)
    | _ => none

/-- Reads the members of an object behind its brace. -/
def members (item : Reader Json) : Reader (List (String × Json)) := fun cs =>
  match skipSpace cs with
  | '\x7d' :: rest => some ([], rest)
  | cs => do
    let (m, rest) ← member item cs
    let (ms, rest) ← moreMembers item rest.length rest
    return (m :: ms, rest)

/-- Reads a value nested at most as deep as given. -/
def value : Nat → Reader Json
  | depth, cs =>
    match skipSpace cs with
    | '[' :: rest =>
      match depth with
      | 0 => none
      | depth + 1 => (items (value depth) rest).map fun (vs, r) => (.array vs, r)
    | '\x7b' :: rest =>
      match depth with
      | 0 => none
      | depth + 1 => (members (value depth) rest).map fun (ms, r) => (.object ms, r)
    | '"' :: rest => (string rest).map fun (s, r) => (.string s, r)
    | 'n' :: 'u' :: 'l' :: 'l' :: rest => some (.null, rest)
    | 't' :: 'r' :: 'u' :: 'e' :: rest => some (.bool true, rest)
    | 'f' :: 'a' :: 'l' :: 's' :: 'e' :: rest => some (.bool false, rest)
    | cs => (number cs).map fun (n, r) => (.number n, r)

end Reader

/-- The value that a document holds. -/
def parse? (text : String) : Option Json :=
  let cs := text.toList
  match Reader.value cs.length cs with
  | some (v, rest) => if (Reader.skipSpace rest).isEmpty then some v else none
  | none => none

end HeapSampler.Json

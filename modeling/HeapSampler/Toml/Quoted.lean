import HeapSampler.Text.Decimal

/-!
# TOML strings

A string is basic, with escapes, or literal, without them; each kind is written on one line
between single delimiters or on several lines between triple ones. The readers here take the text
behind the opening delimiter and return what stands before the closing one, with the text behind
it. The writers print a given string in each of the four forms.
-/

namespace HeapSampler.Toml.Quoted

/-- Control characters that may not stand in a string as they are. -/
def isControl (c : Char) : Bool :=
  (c.toNat < 0x20 && c != '\t') || c.toNat == 0x7F

/-- The character with a number, if there is one. -/
def scalar? (n : Nat) : Option Char :=
  if n.isValidChar then some (Char.ofNat n) else none

/-- The character that a letter behind a backslash stands for. -/
def escaped? (c : Char) : Option Char :=
  match c with
  | 'b' => some '\x08'
  | 't' => some '\t'
  | 'n' => some '\n'
  | 'f' => some '\x0c'
  | 'r' => some '\r'
  | 'e' => some '\x1b'
  | '"' => some '"'
  | '\\' => some '\\'
  | _ => none

/-- How many hexadecimal digits follow a letter behind a backslash. -/
def hexCount? (c : Char) : Option Nat :=
  match c with
  | 'x' => some 2
  | 'u' => some 4
  | 'U' => some 8
  | _ => none

/-- Where a reader of a basic string stands. -/
inductive Mode where
  /-- Between characters. -/
  | plain
  /-- Behind a backslash. -/
  | escape
  /-- Behind `\x`, `\u` or `\U`: the digits still to come and the number so far. -/
  | hex (left : Nat) (value : Nat)
  /-- Behind a backslash and blanks: only the end of the line may follow. -/
  | lineEnd
  /-- Behind a backslash at the end of a line: blanks and line ends are skipped. -/
  | skip
  deriving DecidableEq, Repr

/-- Reads a basic string on one line. -/
def readBasic : Mode → List Char → Option (List Char × List Char)
  | _, [] => none
  | .plain, c :: rest =>
    if c = '"' then some ([], rest)
    else if c = '\\' then readBasic .escape rest
    else if isControl c then none
    else (readBasic .plain rest).map fun (s, r) => (c :: s, r)
  | .escape, c :: rest =>
    match escaped? c with
    | some d => (readBasic .plain rest).map fun (s, r) => (d :: s, r)
    | none =>
      match hexCount? c with
      | some n => readBasic (.hex n 0) rest
      | none => none
  | .hex left value, c :: rest =>
    match Decimal.digitValue? 16 c with
    | none => none
    | some d =>
      let value := value * 16 + d
      if left ≤ 1 then
        match scalar? value with
        | none => none
        | some d => (readBasic .plain rest).map fun (s, r) => (d :: s, r)
      else readBasic (.hex (left - 1) value) rest
  | .lineEnd, _ => none
  | .skip, _ => none

/-- Reads a literal string on one line. -/
def readLiteral : List Char → Option (List Char × List Char)
  | [] => none
  | c :: rest =>
    if c = '\'' then some ([], rest)
    else if isControl c then none
    else (readLiteral rest).map fun (s, r) => (c :: s, r)

/-- Behind up to two delimiters that belong to the string, the closing triple delimiter: how many
belong to the string, and the text behind. -/
def closing? (quote : Char) (cs : List Char) : Option (Nat × List Char) :=
  let n := (cs.takeWhile (· == quote)).length
  if n < 3 then none
  else
    let extra := min (n - 3) 2
    some (extra, cs.drop (extra + 3))

/-- A character of a string on several lines may stand at the front of a text: a carriage return
only before a line feed, and no other control character but tab and line feed. -/
def mayStand (c : Char) (rest : List Char) : Bool :=
  if c = '\r' then rest.head? == some '\n' else c == '\n' || !isControl c

/-- Reads a basic string on several lines. -/
def readBasicLines : Mode → List Char → Option (List Char × List Char)
  | _, [] => none
  | mode, c :: rest =>
    match mode with
    | .escape =>
      match escaped? c with
      | some d => (readBasicLines .plain rest).map fun (s, r) => (d :: s, r)
      | none =>
        match hexCount? c with
        | some n => readBasicLines (.hex n 0) rest
        | none =>
          if c = '\n' then readBasicLines .skip rest
          else if c = ' ' ∨ c = '\t' ∨ c = '\r' ∧ rest.head? = some '\n' then
            readBasicLines .lineEnd rest
          else none
    | .hex left value =>
      match Decimal.digitValue? 16 c with
      | none => none
      | some d =>
        let value := value * 16 + d
        if left ≤ 1 then
          match scalar? value with
          | none => none
          | some d => (readBasicLines .plain rest).map fun (s, r) => (d :: s, r)
        else readBasicLines (.hex (left - 1) value) rest
    | .lineEnd =>
      if c = '\n' then readBasicLines .skip rest
      else if c = ' ' ∨ c = '\t' ∨ c = '\r' ∧ rest.head? = some '\n' then
        readBasicLines .lineEnd rest
      else none
    | mode =>
      if mode = .skip ∧ (c = ' ' ∨ c = '\t' ∨ c = '\n' ∨ c = '\r' ∧ rest.head? = some '\n') then
        readBasicLines .skip rest
      else
        match closing? '"' (c :: rest) with
        | some (extra, behind) => some (List.replicate extra '"', behind)
        | none =>
          if c = '\\' then readBasicLines .escape rest
          else if mayStand c rest then
            (readBasicLines .plain rest).map fun (s, r) => (c :: s, r)
          else none

/-- Reads a literal string on several lines. -/
def readLiteralLines : List Char → Option (List Char × List Char)
  | [] => none
  | c :: rest =>
    match closing? '\'' (c :: rest) with
    | some (extra, behind) => some (List.replicate extra '\'', behind)
    | none =>
      if mayStand c rest then (readLiteralLines rest).map fun (s, r) => (c :: s, r)
      else none

/-- The line end right behind a triple delimiter is not part of the string. -/
def dropLineEnd (cs : List Char) : List Char :=
  match cs with
  | '\n' :: rest => rest
  | '\r' :: '\n' :: rest => rest
  | _ => cs

/-- Reads a string of any form at the front of a text. -/
def read (cs : List Char) : Option (String × List Char) :=
  let text := fun (p : List Char × List Char) => (String.ofList p.1, p.2)
  match cs with
  | '"' :: '"' :: '"' :: rest => (readBasicLines .plain (dropLineEnd rest)).map text
  | '\'' :: '\'' :: '\'' :: rest => (readLiteralLines (dropLineEnd rest)).map text
  | '"' :: rest => (readBasic .plain rest).map text
  | '\'' :: rest => (readLiteral rest).map text
  | _ => none

/-- Reads a string on one line at the front of a text. -/
def readKey (cs : List Char) : Option (String × List Char) :=
  let text := fun (p : List Char × List Char) => (String.ofList p.1, p.2)
  match cs with
  | '"' :: rest => (readBasic .plain rest).map text
  | '\'' :: rest => (readLiteral rest).map text
  | _ => none

end HeapSampler.Toml.Quoted

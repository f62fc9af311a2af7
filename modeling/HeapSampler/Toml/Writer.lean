import HeapSampler.Toml.Quoted

/-!
# Writing TOML strings

A string is written in the plainest of the four forms that can hold it: basic, then literal, then
basic on several lines, then literal on several lines. What none of them holds as it is, is written
with escapes in a basic string, on several lines if it has line ends.
-/

namespace HeapSampler.Toml.Writer

/-- The length of the longest run of a character in a text. -/
def longestRun (c : Char) (cs : List Char) : Nat :=
  let rec go : Nat → Nat → List Char → Nat
    | _, longest, [] => longest
    | current, longest, d :: rest =>
      if d = c then go (current + 1) (max longest (current + 1)) rest else go 0 longest rest
  go 0 0 cs

/-- The four ways to write a string. -/
inductive Style where
  | basic
  | literal
  | basicLines
  | literalLines
  deriving DecidableEq, Repr

/-- A control character that has to be written as an escape. -/
def needsCode (c : Char) : Bool :=
  Quoted.isControl c && c != '\n'

/-- The style in which a string is written. -/
def style (cs : List Char) : Style :=
  let codes := cs.any needsCode
  let backslash := cs.contains '\\'
  let newline := cs.contains '\n'
  if !codes && !backslash && !cs.contains '"' && !newline then .basic
  else if !codes && !cs.contains '\'' && !newline then .literal
  else if !codes && !backslash && longestRun '"' cs ≤ 2 then .basicLines
  else if !codes && longestRun '\'' cs ≤ 2 then .literalLines
  else if newline then .basicLines
  else .basic

/-- The escape for a control character or a backslash. -/
def escape (c : Char) : List Char :=
  match c with
  | '\x08' => ['\\', 'b']
  | '\t' => ['\\', 't']
  | '\n' => ['\\', 'n']
  | '\x0c' => ['\\', 'f']
  | '\r' => ['\\', 'r']
  | '"' => ['\\', '"']
  | '\\' => ['\\', '\\']
  | c => ['\\', 'u'] ++ (Decimal.padZero 4 (Decimal.hexDigits c.toNat)).map Char.toUpper

/-- The characters between the delimiters of a basic string on one line. -/
def basicBody (cs : List Char) : List Char :=
  cs.flatMap fun c =>
    if Quoted.isControl c || c == '\t' || c == '"' || c == '\\' then escape c else [c]

/-- The characters between the delimiters of a basic string on several lines, behind `quotes`
quotes in a row. The third quote in a row is escaped. -/
def linesBody : Nat → List Char → List Char
  | _, [] => []
  | quotes, c :: rest =>
    if c = '"' then
      if quotes < 2 then c :: linesBody (quotes + 1) rest else escape c ++ linesBody 0 rest
    else if needsCode c || c == '\t' || c == '\\' then escape c ++ linesBody 0 rest
    else c :: linesBody 0 rest

/-- A string as it is written. In a string on several lines, a line end follows the opening
delimiter if the string has one itself. -/
def string (s : String) : String :=
  let cs := s.toList
  let lead := if cs.contains '\n' then "\n" else ""
  match style cs with
  | .basic => "\"" ++ String.ofList (basicBody cs) ++ "\""
  | .literal => "'" ++ s ++ "'"
  | .basicLines => "\"\"\"" ++ lead ++ String.ofList (linesBody 0 cs) ++ "\"\"\""
  | .literalLines => "'''" ++ lead ++ s ++ "'''"

/-- A list of strings as it is written: up to one on one line, more with a line for each. -/
def strings (items : List String) : String :=
  match items with
  | [] => "[]"
  | [s] => "[" ++ string s ++ "]"
  | _ => "[\n" ++ String.join (items.map fun s => "    " ++ string s ++ ",\n") ++ "]"

end HeapSampler.Toml.Writer

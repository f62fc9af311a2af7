import HeapSampler.Json.Value
import HeapSampler.Text.Decimal

/-!
# Writing JSON

Strings are written with the short escapes that JSON has and with numbered escapes for all other
control characters; anything else stands for itself. The indented form gives every item and member
a line of its own, two spaces deeper than the brackets around it; empty brackets stay together.
-/

namespace HeapSampler.Json

/-- A character as it stands in a string. -/
def escapeChar (c : Char) : List Char :=
  match c with
  | '"' => ['\\', '"']
  | '\\' => ['\\', '\\']
  | '\x08' => ['\\', 'b']
  | '\x0c' => ['\\', 'f']
  | '\n' => ['\\', 'n']
  | '\r' => ['\\', 'r']
  | '\t' => ['\\', 't']
  | c =>
    if c.toNat < 0x20 then ['\\', 'u'] ++ Decimal.padZero 4 (Decimal.hexDigits c.toNat) else [c]

/-- A string as it is written. -/
def stringChars (s : String) : List Char :=
  '"' :: s.toList.flatMap escapeChar ++ ['"']

/-- A whole number as it is written. -/
def numberChars (n : Int) : List Char :=
  if n < 0 then '-' :: Decimal.digits n.natAbs else Decimal.digits n.natAbs

/-- The start of a new line at a depth. -/
def newLine (depth : Nat) : List Char :=
  '\n' :: List.replicate (2 * depth) ' '

mutual

/-- A value in the indented form, at a depth. -/
def chars (depth : Nat) : Json → List Char
  | .null => ['n', 'u', 'l', 'l']
  | .bool true => ['t', 'r', 'u', 'e']
  | .bool false => ['f', 'a', 'l', 's', 'e']
  | .number n => numberChars n
  | .string s => stringChars s
  | .array [] => ['[', ']']
  | .array (item :: items) =>
    '[' :: newLine (depth + 1) ++ chars (depth + 1) item ++ itemsChars (depth + 1) items ++
      newLine depth ++ [']']
  | .object [] => ['\x7b', '\x7d']
  | .object ((name, value) :: members) =>
    '\x7b' :: newLine (depth + 1) ++ stringChars name ++ [':', ' '] ++ chars (depth + 1) value ++
      membersChars (depth + 1) members ++ newLine depth ++ ['\x7d']

/-- The items of an array behind its first. -/
def itemsChars (depth : Nat) : List Json → List Char
  | [] => []
  | item :: items => ',' :: newLine depth ++ chars depth item ++ itemsChars depth items

/-- The members of an object behind its first. -/
def membersChars (depth : Nat) : List (String × Json) → List Char
  | [] => []
  | (name, value) :: members =>
    ',' :: newLine depth ++ stringChars name ++ [':', ' '] ++ chars depth value ++
      membersChars depth members

end

/-- The indented form of a value. -/
def pretty (j : Json) : String :=
  String.ofList (j.chars 0)

end HeapSampler.Json

import HeapSampler.Text.Utf8
import HeapSampler.Text.Decimal
import HeapSampler.Text.Printable

/-!
# Quoted text in messages

Messages show strings and paths between double quotes, with escapes for the quote, the backslash
and everything that would not print. Bytes of a path that are not UTF-8 are shown one by one.
-/

namespace HeapSampler.Quoted

/-- A character as it stands between the quotes. -/
def escapeChar (c : Char) : List Char :=
  match c with
  | '"' => ['\\', '"']
  | '\\' => ['\\', '\\']
  | '\n' => ['\\', 'n']
  | '\r' => ['\\', 'r']
  | '\t' => ['\\', 't']
  | '\x00' => ['\\', '0']
  | c =>
    if Printable.isShown c then [c]
    else ['\\', 'u', '\x7b'] ++ Decimal.hexDigits c.toNat ++ ['\x7d']

/-- A byte that is part of no character, as it stands between the quotes. -/
def escapeByte (b : UInt8) : List Char :=
  ['\\', 'x'] ++ (Decimal.padZero 2 (Decimal.hexDigits b.toNat)).map Char.toUpper

/-- A piece of a byte string as it stands between the quotes. -/
def escapePiece : Bytes.Piece → List Char
  | .char c => escapeChar c
  | .illFormed bytes => bytes.flatMap escapeByte

/-- A text in quotes. -/
def ofString (s : String) : String :=
  String.ofList (['"'] ++ s.toList.flatMap escapeChar ++ ['"'])

/-- A byte string in quotes. -/
def ofBytes (bs : Bytes) : String :=
  String.ofList (['"'] ++ bs.pieces.flatMap escapePiece ++ ['"'])

/-- Quoted items in square brackets. -/
def list (items : List String) : String :=
  "[" ++ String.intercalate ", " items ++ "]"

end HeapSampler.Quoted

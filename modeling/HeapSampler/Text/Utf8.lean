/-!
# Bytes and the text in them

Names, paths, environment values and file contents are byte strings; most of them are UTF-8.
`Bytes.pieces` cuts any byte string into characters and ill-formed stretches, each stretch being
the longest start of a character that the following byte breaks off. Strict reading (`text?`),
lossy reading (`lossyText`) and quoting are all defined on that one cut.
-/

namespace HeapSampler

/-- A byte string: a file's content, a path, a name or value of the environment. -/
abbrev Bytes := List UInt8

namespace Bytes

/-- The UTF-8 form of a text. -/
def ofChars (cs : List Char) : Bytes :=
  cs.flatMap String.utf8EncodeChar

/-- The UTF-8 form of a text. -/
def ofString (s : String) : Bytes :=
  ofChars s.toList

/-- A piece of a byte string: a character, or bytes that are part of no character. -/
inductive Piece where
  | char (c : Char)
  | illFormed (bytes : Bytes)
  deriving DecidableEq, Repr

/-- The character whose encoding a byte string begins with. -/
def firstChar? (bs : Bytes) : Option Char :=
  ByteArray.utf8DecodeChar? (bs.take 4).toByteArray 0

/-- What a lead byte calls for: how many bytes follow it, and the range of the first of them. -/
def following (lead : UInt8) : Nat × UInt8 × UInt8 :=
  if 0xC2 ≤ lead ∧ lead ≤ 0xDF then (1, 0x80, 0xBF)
  else if lead = 0xE0 then (2, 0xA0, 0xBF)
  else if lead = 0xED then (2, 0x80, 0x9F)
  else if 0xE1 ≤ lead ∧ lead ≤ 0xEF then (2, 0x80, 0xBF)
  else if lead = 0xF0 then (3, 0x90, 0xBF)
  else if lead = 0xF4 then (3, 0x80, 0x8F)
  else if 0xF1 ≤ lead ∧ lead ≤ 0xF3 then (3, 0x80, 0xBF)
  else (0, 0x80, 0xBF)

/-- How many bytes, up to `count`, continue a character; the first must lie in `[lo, hi]`, the
others in `[0x80, 0xBF]`. -/
def continuing : Nat → UInt8 → UInt8 → Bytes → Nat
  | 0, _, _, _ => 0
  | _, _, _, [] => 0
  | count + 1, lo, hi, b :: bs =>
    if lo ≤ b ∧ b ≤ hi then continuing count 0x80 0xBF bs + 1 else 0

/-- The length of the ill-formed stretch that `lead :: rest` begins with. -/
def brokenLength (lead : UInt8) (rest : Bytes) : Nat :=
  let (count, lo, hi) := following lead
  continuing count lo hi rest + 1

/-- The first piece of a nonempty byte string and how many bytes of `rest` it takes besides
`lead`. -/
def firstPiece (lead : UInt8) (rest : Bytes) : Piece × Nat :=
  match firstChar? (lead :: rest) with
  | some c => (.char c, c.utf8Size - 1)
  | none =>
    let n := brokenLength lead rest
    (.illFormed ((lead :: rest).take n), n - 1)

/-- The pieces of a byte string, from left to right. -/
def pieces : Bytes → List Piece
  | [] => []
  | lead :: rest =>
    let (piece, n) := firstPiece lead rest
    piece :: pieces (rest.drop n)
termination_by bs => bs.length
decreasing_by simp only [List.length_drop, List.length_cons]; omega

/-- The characters of a byte string, if all of it is UTF-8. -/
def chars? (bs : Bytes) : Option (List Char) :=
  bs.pieces.mapM fun
    | .char c => some c
    | .illFormed _ => none

/-- The text of a byte string, if all of it is UTF-8. -/
def text? (bs : Bytes) : Option String :=
  bs.chars?.map String.ofList

/-- The text of a byte string with one replacement character for each ill-formed stretch. -/
def lossyText (bs : Bytes) : String :=
  String.ofList <| bs.pieces.map fun
    | .char c => c
    | .illFormed _ => '\uFFFD'

/-- Byte strings compare like words in a dictionary. -/
def le (a b : Bytes) : Bool :=
  match a, b with
  | [], _ => true
  | _ :: _, [] => false
  | x :: xs, y :: ys => x < y || (x == y && le xs ys)

/-- The parts of a byte string between the occurrences of a separator. -/
def splitOn (separator : UInt8) : Bytes → List Bytes
  | [] => [[]]
  | b :: bs =>
    if b = separator then [] :: splitOn separator bs
    else
      match splitOn separator bs with
      | [] => [[b]]
      | part :: parts => (b :: part) :: parts

end Bytes

end HeapSampler

/-!
# Whole numbers as text

Numbers are written without leading zeros unless a width asks for them. Reading is the strict
reading of unsigned 64-bit numbers: an optional plus sign and decimal digits, nothing else.
-/

namespace HeapSampler.Decimal

/-- The decimal digits of a number. -/
def digits (n : Nat) : List Char :=
  Nat.toDigits 10 n

/-- The hexadecimal digits of a number, in lower case. -/
def hexDigits (n : Nat) : List Char :=
  Nat.toDigits 16 n

/-- Zeros in front of a text up to the given width. -/
def padZero (width : Nat) (cs : List Char) : List Char :=
  List.replicate (width - cs.length) '0' ++ cs

/-- A number in decimal. -/
def text (n : Nat) : String :=
  String.ofList (digits n)

/-- A number in decimal, padded with zeros to a width. -/
def padded (width n : Nat) : String :=
  String.ofList (padZero width (digits n))

/-- The value of a digit in a base up to sixteen, letters in either case. -/
def digitValue? (base : Nat) (c : Char) : Option Nat :=
  let value :=
    if '0' ≤ c ∧ c ≤ '9' then some (c.toNat - '0'.toNat)
    else if 'a' ≤ c ∧ c ≤ 'f' then some (c.toNat - 'a'.toNat + 10)
    else if 'A' ≤ c ∧ c ≤ 'F' then some (c.toNat - 'A'.toNat + 10)
    else none
  value.filter (· < base)

/-- The number that a nonempty run of digits denotes. -/
def ofDigits? (base : Nat) (cs : List Char) : Option Nat :=
  if cs.isEmpty then none
  else cs.foldlM (fun n c => (digitValue? base c).map (n * base + ·)) 0

/-- The unsigned 64-bit number that a text denotes: an optional `+`, then decimal digits. -/
def parseWord64? (cs : List Char) : Option Nat :=
  let unsigned := match cs with
    | '+' :: rest => rest
    | _ => cs
  (ofDigits? 10 unsigned).filter (· < UInt64.size)

end HeapSampler.Decimal

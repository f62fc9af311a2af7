import HeapSampler.Text.Decimal
import HeapSampler.Toml.Value

/-!
# Numbers, dates and truth values

These values are written without quotes, as a run of letters, digits, signs, dots, colons and
underscores, which `Scalar.parse` reads as a whole.
-/

namespace HeapSampler.Toml.Scalar

/-- The characters of values that are written without quotes. -/
def isScalarChar (c : Char) : Bool :=
  c.isAlphanum || c == '_' || c == '+' || c == '-' || c == '.' || c == ':'

/-- A run of digits in which single underscores may stand between two digits, without them. -/
def digitRun? (base : Nat) (cs : List Char) : Option (List Char) :=
  let rec go : Bool → List Char → Option (List Char)
    | afterDigit, [] => if afterDigit then some [] else none
    | afterDigit, c :: rest =>
      if c = '_' then if afterDigit then go false rest else none
      else if (Decimal.digitValue? base c).isSome then (go true rest).map (c :: ·)
      else none
  go false cs

/-- A sign in front of a number and what follows it. -/
def sign (cs : List Char) : Bool × List Char :=
  match cs with
  | '-' :: rest => (true, rest)
  | '+' :: rest => (false, rest)
  | _ => (false, cs)

/-- The digits have no zero in front of another digit. -/
def noLeadingZero (digits : List Char) : Bool :=
  match digits with
  | '0' :: _ :: _ => false
  | _ => true

/-- The number is a signed 64-bit number. -/
def inRange (n : Int) : Bool :=
  -0x8000000000000000 ≤ n && n < 0x8000000000000000

/-- The number that digits of a base denote, if it is a signed 64-bit number. -/
def inBase? (base : Nat) (cs : List Char) : Option Int := do
  let digits ← digitRun? base cs
  let n ← Decimal.ofDigits? base digits
  if inRange n then some n else none

/-- A whole number in decimal, or with a prefix in base 16, 8 or 2 and then without a sign. -/
def integer? (cs : List Char) : Option Int :=
  match cs with
  | '0' :: 'x' :: rest => inBase? 16 rest
  | '0' :: 'o' :: rest => inBase? 8 rest
  | '0' :: 'b' :: rest => inBase? 2 rest
  | _ => do
    let (negative, unsigned) := sign cs
    let digits ← digitRun? 10 unsigned
    let n ← Decimal.ofDigits? 10 digits
    let value : Int := if negative then -n else n
    if noLeadingZero digits && inRange value then some value else none

/-- The text splits at the first occurrence of one of the characters. -/
def splitAtFirst? (stop : Char → Bool) (cs : List Char) : Option (List Char × List Char) :=
  match cs.dropWhile (!stop ·) with
  | [] => none
  | _ :: rest => some (cs.takeWhile (!stop ·), rest)

/-- The whole number, with or without a sign, that a text is. -/
def signed? (cs : List Char) : Option Int := do
  let (negative, unsigned) := sign cs
  let n ← Decimal.ofDigits? 10 (← digitRun? 10 unsigned)
  return if negative then -n else n

/-- The digits of a text that is the whole part of a number. -/
def whole? (cs : List Char) : Option (List Char) := do
  let digits ← digitRun? 10 (sign cs).2
  if noLeadingZero digits then some digits else none

/-- The smallest number that is rounded up to more than a 64-bit floating-point number can be: it
lies halfway between the largest of these and the next power of two. -/
def floatLimit : Nat := (1 <<< 1024) - (1 <<< 970)

/-- A number of the given digits times a power of ten is too large for a 64-bit floating-point
number. Only where the number has 309 digits in front of its point is that not plain from their
count. -/
def overflows (digits : List Char) (exponent : Int) : Bool :=
  let n := (Decimal.ofDigits? 10 digits).getD 0
  let size : Int := (Decimal.digits n).length + exponent
  if n = 0 ∨ size < 309 then false
  else if 309 < size then true
  else if 0 ≤ exponent then floatLimit ≤ n * Nat.pow 10 exponent.toNat
  else floatLimit * Nat.pow 10 (-exponent).toNat ≤ n

/-- The digits and the power of ten of a number with a fraction, an exponent or both. -/
def decimal? (cs : List Char) : Option (List Char × Int) := do
  let isE := fun c => c == 'e' || c == 'E'
  let (mantissa, exponent) ← match splitAtFirst? isE cs with
    | some (mantissa, exponent) => do pure (mantissa, some (← signed? exponent))
    | none => pure (cs, none)
  match splitAtFirst? (· == '.') mantissa with
  | some (whole, fraction) => do
    let fraction ← digitRun? 10 fraction
    return ((← whole? whole) ++ fraction, exponent.getD 0 - fraction.length)
  | none => do return (← whole? mantissa, ← exponent)

/-- The text is a number with a fraction or an exponent, or one of the two that are no numbers. -/
def isFloat (cs : List Char) : Bool :=
  let special := String.ofList (sign cs).2
  if special = "inf" ∨ special = "nan" then true
  else
    match decimal? cs with
    | some (digits, exponent) => !overflows digits exponent
    | none => false

/-- The number that exactly `n` digits at the front denote, and the rest. -/
def fixed? (n : Nat) (cs : List Char) : Option (Nat × List Char) := do
  let digits := cs.take n
  if digits.length = n then return (← Decimal.ofDigits? 10 digits, cs.drop n) else none

/-- The days of a month. -/
def daysIn (year month : Nat) : Nat :=
  if month = 2 then
    if year % 4 = 0 ∧ (year % 100 ≠ 0 ∨ year % 400 = 0) then 29 else 28
  else if month = 4 ∨ month = 6 ∨ month = 9 ∨ month = 11 then 30
  else 31

/-- A date at the front of a text, and the rest. -/
def date? (cs : List Char) : Option (List Char) := do
  let (year, rest) ← fixed? 4 cs
  let '-' :: rest := rest | none
  let (month, rest) ← fixed? 2 rest
  let '-' :: rest := rest | none
  let (day, rest) ← fixed? 2 rest
  if 1 ≤ month ∧ month ≤ 12 ∧ 1 ≤ day ∧ day ≤ daysIn year month then some rest else none

/-- A time of day at the front of a text, and the rest. Seconds may be left out. -/
def time? (cs : List Char) : Option (List Char) := do
  let (hour, rest) ← fixed? 2 cs
  let ':' :: rest := rest | none
  let (minute, rest) ← fixed? 2 rest
  if hour > 23 ∨ minute > 59 then none
  let ':' :: rest := rest | some rest
  let (second, rest) ← fixed? 2 rest
  if second > 60 then none
  let '.' :: rest := rest | some rest
  let fraction := rest.takeWhile Char.isDigit
  if fraction.isEmpty then none else some (rest.drop fraction.length)

/-- The text is an offset from universal time, or empty. -/
def isOffset (cs : List Char) : Bool :=
  match cs with
  | [] => true
  | ['Z'] | ['z'] => true
  | c :: rest =>
    if c = '+' ∨ c = '-' then
      match fixed? 2 rest with
      | some (hour, ':' :: rest) =>
        match fixed? 2 rest with
        | some (minute, []) => hour ≤ 23 && minute ≤ 59
        | _ => false
      | _ => false
    else false

/-- The text is a date, a time of day, or both with or without an offset. -/
def isDateTime (cs : List Char) : Bool :=
  match date? cs with
  | some [] => true
  | some (c :: rest) =>
    (c == 'T' || c == 't' || c == ' ') && (time? rest).any isOffset
  | none => time? cs == some []

/-- The value that a run of scalar characters is. -/
def parse (cs : List Char) : Option Value :=
  if String.ofList cs = "true" then some (.boolean true)
  else if String.ofList cs = "false" then some (.boolean false)
  else if isDateTime cs then some (.dateTime (String.ofList cs))
  else
    match integer? cs with
    | some n => some (.integer n)
    | none => if isFloat cs then some (.float (String.ofList cs)) else none

/-- The run of scalar characters at the front of a text, and the rest. A date may be followed by a
time after a single space. -/
def run (cs : List Char) : List Char × List Char :=
  let first := cs.takeWhile isScalarChar
  let rest := cs.drop first.length
  match date? first, rest with
  | some [], ' ' :: c :: more =>
    if c.isDigit then
      let second := (c :: more).takeWhile isScalarChar
      (first ++ ' ' :: second, (c :: more).drop second.length)
    else (first, rest)
  | _, _ => (first, rest)

end HeapSampler.Toml.Scalar

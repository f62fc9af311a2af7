/-!
# Time

Durations and instants count nanoseconds. An instant is a time since the machine started; the
clock's seconds are a signed 64-bit number, so an instant that would lie beyond them does not
exist.
-/

namespace HeapSampler

/-- A length of time. -/
structure Duration where
  nanos : Nat
  deriving DecidableEq, Repr

namespace Duration

/-- Nanoseconds in a second. -/
def nanosPerSecond : Nat := 1000000000

/-- Nanoseconds in a millisecond. -/
def nanosPerMilli : Nat := 1000000

/-- No time. -/
def zero : Duration := ⟨0⟩

/-- A whole number of seconds. -/
def ofSeconds (n : Nat) : Duration := ⟨n * nanosPerSecond⟩

/-- A whole number of milliseconds. -/
def ofMillis (n : Nat) : Duration := ⟨n * nanosPerMilli⟩

/-- Seconds and the nanoseconds beyond them. -/
def ofParts (seconds nanos : Nat) : Duration := ⟨seconds * nanosPerSecond + nanos⟩

/-- The whole seconds of a duration. -/
def seconds (d : Duration) : Nat := d.nanos / nanosPerSecond

/-- The nanoseconds beyond the whole seconds. -/
def subsecNanos (d : Duration) : Nat := d.nanos % nanosPerSecond

/-- The nearest whole number of units of `unit` nanoseconds, a half counting as one. -/
def roundedTo (unit : Nat) (d : Duration) : Nat := (d.nanos + unit / 2) / unit

/-- The duration is empty. -/
def isZero (d : Duration) : Bool := d.nanos == 0

end Duration

/-- A moment, as the time since the machine started. -/
structure Instant where
  nanos : Nat
  deriving DecidableEq, Repr

namespace Instant

/-- The first nanosecond count that the clock cannot hold. -/
def limit : Nat := 0x8000000000000000 * Duration.nanosPerSecond

/-- The moment a duration later, however far that is. -/
def later (t : Instant) (d : Duration) : Instant := ⟨t.nanos + d.nanos⟩

/-- The moment a duration later, if the clock can hold it. -/
def later? (t : Instant) (d : Duration) : Option Instant :=
  if t.nanos + d.nanos < limit then some (t.later d) else none

/-- The time that has passed since an earlier moment. -/
def since (t earlier : Instant) : Duration := ⟨t.nanos - earlier.nanos⟩

/-- The first whole millisecond at or after a moment. -/
def ceilMilli (t : Instant) : Instant :=
  ⟨(t.nanos + (Duration.nanosPerMilli - 1)) / Duration.nanosPerMilli * Duration.nanosPerMilli⟩

instance : LE Instant := ⟨fun a b => a.nanos ≤ b.nanos⟩
instance : LT Instant := ⟨fun a b => a.nanos < b.nanos⟩
instance (a b : Instant) : Decidable (a ≤ b) := inferInstanceAs (Decidable (a.nanos ≤ b.nanos))
instance (a b : Instant) : Decidable (a < b) := inferInstanceAs (Decidable (a.nanos < b.nanos))

end Instant

end HeapSampler

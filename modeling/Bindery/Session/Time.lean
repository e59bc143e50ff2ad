/-!
# Time spans and instants

A duration counts whole seconds in 64 bits and the nanoseconds left over. An instant is a reading
of a clock that counts seconds in 64 bits with a sign, so not every instant has one that lies a
given duration after it.
-/

namespace Bindery.Session

/-- The nanoseconds of a second. -/
def nanosPerSecond : Nat := 1000000000

/-- The nanoseconds of a millisecond. -/
def nanosPerMilli : Nat := 1000000

/-- A span of time. -/
structure Duration where
  seconds : UInt64
  nanos : Nat
  nanos_lt : nanos < nanosPerSecond
  deriving DecidableEq

namespace Duration

/-- So many seconds and nanoseconds; a thousand million nanoseconds are a second. -/
def ofParts (seconds : UInt64) (nanos : Nat) : Duration where
  seconds := seconds + UInt64.ofNat (nanos / nanosPerSecond)
  nanos := nanos % nanosPerSecond
  nanos_lt := Nat.mod_lt _ (by decide)

/-- A number of milliseconds. -/
def ofMillis (ms : UInt64) : Duration where
  seconds := ms / 1000
  nanos := (ms % 1000).toNat * nanosPerMilli
  nanos_lt := by
    have : (ms % 1000).toNat < 1000 := by
      rw [UInt64.toNat_mod]
      exact Nat.mod_lt _ (by decide)
    simp only [nanosPerMilli, nanosPerSecond]
    omega

/-- The nanoseconds of a duration, whole seconds included. -/
def totalNanos (d : Duration) : Nat := d.seconds.toNat * nanosPerSecond + d.nanos

/-- The whole milliseconds of a duration. -/
def millis (d : Duration) : Nat := d.totalNanos / nanosPerMilli

end Duration

/-- A reading of the clock, in nanoseconds. -/
structure Instant where
  nanos : Int
  deriving DecidableEq

namespace Instant

/-- One past the last second that a clock can show, two to the 63rd power. -/
def secondLimit : Int := 9223372036854775808

/-- The clock can show the instant. -/
def Showable (t : Instant) : Prop :=
  -secondLimit * nanosPerSecond ≤ t.nanos ∧ t.nanos < secondLimit * nanosPerSecond

instance (t : Instant) : Decidable t.Showable :=
  inferInstanceAs (Decidable (_ ∧ _))

/-- The instant that lies `d` after `t`, if the clock can show it. -/
def after? (t : Instant) (d : Duration) : Option Instant :=
  let later : Instant := ⟨t.nanos + d.totalNanos⟩
  if later.Showable then some later else none

end Instant

end Bindery.Session

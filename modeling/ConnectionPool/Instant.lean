import ConnectionPool.Duration

/-!
# Instants

A point on the monotone clock. The clock counts seconds in a signed 64-bit number, so a sum with a
long duration may not be representable: `checkedAdd` reports that, and `deadline` falls back to a
point thirty years away.
-/

namespace ConnectionPool

/-- A point on the monotone clock. -/
structure Instant where
  /-- Nanoseconds since the clock's origin. -/
  nanos : Int
deriving DecidableEq, Inhabited

namespace Instant

/-- The instant a number of whole milliseconds after the origin. -/
def ofMillis (millis : Nat) : Instant := ⟨(millis * Duration.nanosPerMilli : Nat)⟩

/-- Instants are ordered in time. -/
instance : LE Instant := ⟨fun a b => a.nanos ≤ b.nanos⟩

/-- Instants are ordered in time. -/
instance : LT Instant := ⟨fun a b => a.nanos < b.nanos⟩

/-- The order on instants is decidable. -/
instance (a b : Instant) : Decidable (a ≤ b) := Int.decLe a.nanos b.nanos

/-- The strict order on instants is decidable. -/
instance (a b : Instant) : Decidable (a < b) := Int.decLt a.nanos b.nanos

/-- The instant a duration later, without regard to the clock's range. -/
def add (t : Instant) (d : Duration) : Instant := ⟨t.nanos + d.nanos⟩

/-- The number of seconds to which the clock's signed 64-bit counter does not reach. -/
def secondsBound : Int := 9223372036854775808

/-- The whole seconds of the instant fit the clock's signed 64-bit counter. -/
def Representable (t : Instant) : Prop :=
  -secondsBound ≤ t.nanos / Duration.nanosPerSecond ∧
    t.nanos / Duration.nanosPerSecond < secondsBound

/-- Whether an instant is in the clock's range is decidable. -/
instance (t : Instant) : Decidable t.Representable :=
  inferInstanceAs (Decidable (_ ∧ _))

/-- The instant a duration later, if it is in the clock's range. -/
def checkedAdd (t : Instant) (d : Duration) : Option Instant :=
  if (t.add d).Representable then some (t.add d) else none

/-- The end of a wait that starts at `t` and may last `d`: thirty years away if the exact end is
not representable. -/
def deadline (t : Instant) (d : Duration) : Instant :=
  (t.checkedAdd d).getD (t.add Duration.farFuture)

/-- The time passed since an earlier instant, zero if it is not earlier. -/
def since (t earlier : Instant) : Duration := ⟨(t.nanos - earlier.nanos).toNat⟩

/-- The first whole millisecond at or after the instant. -/
def ceilMillis (t : Instant) : Nat :=
  ((t.nanos.toNat + (Duration.nanosPerMilli - 1)) / Duration.nanosPerMilli)

/-- The whole milliseconds passed at the instant. -/
def floorMillis (t : Instant) : Nat := t.nanos.toNat / Duration.nanosPerMilli

end Instant

end ConnectionPool

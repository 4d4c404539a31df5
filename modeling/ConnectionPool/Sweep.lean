import ConnectionPool.Connection

/-!
# The rhythm of sweeps

A sweep follows the one before at a fixed interval, counted from the time the sweep was due. One
that comes more than five milliseconds late moves all that follow: the next is then due one
interval after the time it really came.
-/

namespace ConnectionPool.Sweep

/-- How late a sweep may come without moving those that follow. -/
def tolerance : Duration := Duration.ofMillis 5

/-- When the first sweep is due: one interval after the start, if the clock reaches that far. -/
def first? (start : Instant) (interval : Duration) : Option Instant := start.checkedAdd interval

/-- When the sweep after the one due at `due` and made at `now` is due. -/
def next (interval : Duration) (due now : Instant) : Instant :=
  if due.add tolerance < now then now.add interval else due.add interval

/-- The first due time that the timers have not reached, counting on from one they have reached.
Sweeps in between fall at the same moment and count as one. -/
def nextAhead (interval : Duration) (m : Moment) (due : Instant) : Instant :=
  if due.add tolerance < m.now then next interval due m.now
  else
    let reached := Instant.ofMillis m.firedMillis
    ⟨due.nanos + interval.nanos * ((reached.nanos - due.nanos) / interval.nanos + 1)⟩

end ConnectionPool.Sweep

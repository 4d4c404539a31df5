import ConnectionPool.Simulation.Tasks

/-!
# The passage of time

The clock is advanced, with a stop at every timer on the way, or leaps, so that all that was due on
the way happens late. Whenever it stops, the tasks run until none is to run.
-/

namespace ConnectionPool.Simulation

/-- The earliest time at which a timer fires. -/
def nextDue (s : Simulation) : Option Nat := (s.timers.map (·.due)).min?

/-- All timers that are due fire, in the order of their times and then of their setting. -/
def fireTimers : Sim Unit := do
  let s ← get
  let due := s.timers.filter (·.due ≤ s.clock.now)
  let rest := s.timers.filter (!·.due ≤ s.clock.now)
  set { s with timers := rest, clock := .settled s.clock.now }
  (due.mergeSort fun a b => a.due ≤ b.due).forM fun timer => wake timer.sleeper

/-- Stop at a time: the timers due by then fire, and the tasks run until none is to run. -/
def stopAt (time : Nat) : Sim Unit := do
  modify fun s => { s with clock := s.clock.ahead time }
  fireTimers
  settle

/-- Stop at every timer up to a time. Each stop takes the clock at least a millisecond further, so
there are at most `stops` of them. -/
def stopUpTo (target : Nat) : Nat → Sim Unit
  | 0 => pure ()
  | stops + 1 => do
    match (← get).nextDue with
    | none => pure ()
    | some due =>
      if due ≤ target then
        stopAt due
        stopUpTo target stops

/-- Advance the clock, with a stop at every timer on the way. -/
def advance (millis : Nat) : Sim Unit := do
  settle
  let target := (← get).clock.now + millis
  stopUpTo target (millis + 1)
  modify fun s => { s with clock := .settled (max s.clock.now target) }

/-- Let the clock leap: the tasks that were to run do so at the new time, then everything that was
due on the way happens. -/
def jump (millis : Nat) : Sim Unit := do
  modify fun s => { s with clock := s.clock.ahead (s.clock.now + millis) }
  settle
  fireTimers
  settle

end ConnectionPool.Simulation

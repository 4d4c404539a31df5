import ConnectionPool.Site

/-!
# Waiting for the end of a pool

A pool that has been shut down ends when no slot is taken and no connection is being closed. A
grace period, if there is one, runs from the first look at the pool; when it is over, connections
that callers still hold are no longer waited for, while those being opened or closed still are.
-/

namespace ConnectionPool.Site

/-- Connections are being opened or closed. -/
def isBusy (s : Site) : Bool := s.pool.connecting + s.pool.closing != 0

/-- The wait for the pool's end may stop. -/
def mayEnd (graceOver : Bool) (s : Site) : Bool :=
  s.pool.isDrained || (graceOver && !s.isBusy)

/-- The wait for the pool's end stops. -/
def endDrain (s : Site) : Change :=
  ({ s with drain := .finished }, [.setGraceTimer none, .note .drained, .wakeDrain])

/-- Look at the pool when no grace period is running. -/
def lookWithoutGrace (graceOver : Bool) (s : Site) : Change :=
  if s.mayEnd graceOver then s.endDrain
  else ({ s with drain := .waiting none graceOver false }, [])

/-- The grace period is over. -/
def endGrace (s : Site) : Change :=
  Change.andThen (s, [.setGraceTimer none, .note (.graceElapsed s.pool.inUse)])
    (lookWithoutGrace true)

/-- Look at the pool, while the grace period runs until `graceEnd` if one is given. -/
def look (m : Moment) (graceOver : Bool) (graceEnd : Option Instant) (s : Site) : Change :=
  match graceEnd with
  | none => s.lookWithoutGrace graceOver
  | some instant =>
    if s.pool.isDrained then s.endDrain
    else if m.hasFired instant then s.endGrace
    else
      ({ s with drain := .waiting (some instant) graceOver false },
        [.setGraceTimer (some instant)])

/-- Look whether the wait for the pool's end is over. -/
def pollDrain (config : Config) (m : Moment) (s : Site) : Change :=
  match s.drain with
  | .finished => (s, [])
  | .unobserved => s.look m false (config.disposeGrace.map m.now.deadline)
  | .waiting graceEnd graceOver true => s.look m graceOver graceEnd
  | .waiting graceEnd _ false =>
    match graceEnd with
    | some instant => if m.hasFired instant then s.endGrace else (s, [])
    | none => (s, [])

end ConnectionPool.Site

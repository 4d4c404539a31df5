import ConnectionPool.Site

/-!
# Giving connections back

What becomes of a connection that is no longer in use, how idle connections are swept, and how a
pool is shut down. A connection given back is closed if there is a reason to close it, handed to
the oldest request still in time otherwise, and parked where nobody waits.
-/

namespace ConnectionPool.Site

/-- Take in a connection that is no longer in use: close it if there is a reason to, otherwise pass
it on. -/
def takeIn (config : Config) (m : Moment) (e : Entry) (s : Site) : Change :=
  let s := { s with pool := s.pool.takeBack }
  match s.pool.closeReason? config m e with
  | some reason =>
    (Change.andThen
      ({ s with pool := s.pool.giveUp 1 }, [.note (.closingReleased e.info.id reason)])
      (startClosing [e])).andThen (slotFreed config)
  | none => (handOff config m.now e s).andThen announce

/-- A caller gives a connection back. -/
def release (config : Config) (m : Moment) (lease : Nat) (s : Site) : Change :=
  match s.lease? lease with
  | none => (s, [])
  | some e =>
    Change.andThen (s.unlend lease, [.note (.returning lease)]) (takeIn config m e)

/-- A caller takes a connection out of the pool for good. -/
def detach (config : Config) (lease : Nat) (s : Site) : Option Connection × Change :=
  match s.lease? lease with
  | none => (none, s, [])
  | some e =>
    (some e.conn,
      slotFreed config { s.unlend lease with pool := s.pool.takeBack.freeSlot })

/-- A caller puts another connection in the place of the one it holds. -/
def exchange (lease : Nat) (conn : Connection) (s : Site) : Site :=
  { s with leases := s.leases.map fun e => if e.info.id == lease then { e with conn } else e }

/-! ## Sweeping, closing and shutting down -/

/-- Close the idle connections that may no longer be used, and say how many they are. -/
def sweep (config : Config) (m : Moment) (s : Site) : Nat × Change :=
  if s.pool.closed then (0, s, [])
  else
    let expired := s.pool.unusable config m
    let swept := { s with pool := s.pool.sweep config m }
    -- the slots are taken for the queue before any closing begins
    let due := swept.pool.openingsDue config
    let noted : Change := ({ swept with pool := swept.pool.reserve config },
      if expired.isEmpty then [] else [.note (.evicted expired.length)])
    (expired.length, (noted.andThen (startClosing expired)).andThen (openForQueue due))

/-- A connection has been closed. -/
def closeFinished (connection : Nat) (s : Site) : Change :=
  if s.closings.any (·.info.id == connection) then
    announce { s with
      closings := s.closings.eraseP (·.info.id == connection),
      pool := { s.pool with closing := s.pool.closing - 1 } }
  else (s, [])

/-- Close the books of the pool. The queue is cleared and the idle connections are given up, and
nobody has been told yet. -/
def closeUp (s : Site) : Change :=
  ({ s with pool := s.pool.shutDown },
    [.stopSweep, .note (.shuttingDown s.pool.pending.length s.pool.idle.length)])

/-- Tell requests that the pool is closed. -/
def deliverClosed (requests : List Request) (s : Site) : Change :=
  s.deliver (requests.map fun r => (r.id, .error .poolClosed))

/-- Shut the pool down. Only the first call has an effect. The books are closed first; those who
waited in the queue are told afterwards. -/
def shutDown (s : Site) : Change :=
  if s.pool.closed then (s, [])
  else (s.closeUp.andThen (deliverClosed s.pool.pending)).andThen (startClosing s.pool.idle)

end ConnectionPool.Site

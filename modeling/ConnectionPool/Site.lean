import ConnectionPool.Destination
import ConnectionPool.Pool

/-!
# Sites

A site is one pool together with everything that is out of it: the connections in the hands of
callers, the deliveries that their receivers have not read, the slots in which connections are
being opened, and the connections being closed. The books of the pool say how many there are; the
site says which.

A change of a site yields the new site and a list of effects, which is what the change asks of its
surroundings, in order. This module holds the types and the parts that changes are made of; the
changes themselves are in `Site.Acquire`, `Site.Release` and `Site.Drain`.
-/

namespace ConnectionPool

/-- What happens in a pool that is worth a line in the event log. -/
inductive PoolEvent where
  /-- The pool was made. -/
  | created (max : Limit)
  /-- An idle connection is handed out. -/
  | reusing (connection : Nat)
  /-- An acquisition is queued. -/
  | queueing (request : Nat)
  /-- A connection was opened for a caller. -/
  | opened (connection : Nat)
  /-- A connection for a caller could not be opened. -/
  | openingFailed (failure : ConnectFailure)
  /-- A connection was opened for the queue. -/
  | openedForQueue (connection : Nat)
  /-- A connection for the queue could not be opened. -/
  | openingForQueueFailed (failure : ConnectFailure)
  /-- A caller gives a connection back. -/
  | returning (connection : Nat)
  /-- A connection given back is closed. -/
  | closingReleased (connection : Nat) (reason : Pool.CloseReason)
  /-- A connection goes to a queued acquisition. -/
  | handing (connection request : Nat) (waited : Duration)
  /-- A connection is being closed. -/
  | closing (connection acquireCount : Nat) (state : ConnectionState)
  /-- A queued acquisition ran out of time. -/
  | timedOut (request : Nat)
  /-- A queued acquisition was given up by its caller. -/
  | cancelled (request : Nat)
  /-- A sweep removed idle connections. -/
  | evicted (count : Nat)
  /-- The sweeps have ended. -/
  | sweepStopped
  /-- The pool is shut down. -/
  | shuttingDown (pending idle : Nat)
  /-- The grace period is over while callers hold connections. -/
  | graceElapsed (inUse : Nat)
  /-- The pool is shut down and empty. -/
  | drained
deriving DecidableEq

/-- What a queued acquisition receives. -/
abbrev Delivery := Except PoolError Entry

/-- For whom a slot of a pool is being filled. -/
inductive Purpose where
  /-- For the caller whose acquisition took the slot. -/
  | caller
  /-- For the queue. -/
  | queue
deriving DecidableEq

/-- A slot in which a connection is being opened. -/
structure Opening where
  /-- The number of the opening within its site. -/
  id : Nat
  /-- For whom the connection is. -/
  purpose : Purpose
deriving DecidableEq

/-- How far the wait for the end of a pool has come. -/
inductive Drain where
  /-- Nobody has looked yet. -/
  | unobserved
  /-- The wait is asleep until the pool changes, or until the grace period is over if it is still
  running. `changed` says that the pool has changed since. -/
  | waiting (graceEnd : Option Instant) (graceOver changed : Bool)
  /-- The wait is over. -/
  | finished
deriving DecidableEq

/-- One pool and everything that is out of it. -/
structure Site where
  /-- What the pool connects to. -/
  destination : Destination
  /-- The books of the pool. -/
  pool : Pool
  /-- The slots in which connections are being opened, the oldest first. -/
  openings : List Opening
  /-- The number of the next opening. -/
  nextOpening : Nat
  /-- What was sent to queued acquisitions and not yet read, under the request's number. -/
  inbox : List (Nat × Delivery)
  /-- The connections in the hands of callers. -/
  leases : List Entry
  /-- The connections being closed. -/
  closings : List Entry
  /-- The wait for the pool's end. -/
  drain : Drain

namespace Site

/-- What a change of a site asks of its surroundings. -/
inductive Effect where
  /-- Write an event to the log. -/
  | note (event : PoolEvent)
  /-- Wake whoever waits for the request. -/
  | wake (request : Nat)
  /-- Start to close the connection. -/
  | close (entry : Entry)
  /-- Start to open a connection for the queue. -/
  | openForQueue (opening : Nat)
  /-- Stop the sweeps. -/
  | stopSweep
  /-- Wake whoever waits for the pool's end. -/
  | wakeDrain
  /-- Set the timer of the grace period anew, or clear it. -/
  | setGraceTimer (graceEnd : Option Instant)
deriving DecidableEq

/-- A new site and what the change asks of its surroundings, in order. -/
abbrev Change := Site × List Effect

/-- One change after another. -/
def Change.andThen (c : Change) (next : Site → Change) : Change :=
  ((next c.1).1, c.2 ++ (next c.1).2)

/-- The site after two changes is what the second makes of the site after the first. -/
@[simp]
theorem Change.andThen_fst (c : Change) (next : Site → Change) :
    (c.andThen next).1 = (next c.1).1 := rfl

/-- The effects of two changes follow one another. -/
@[simp]
theorem Change.andThen_snd (c : Change) (next : Site → Change) :
    (c.andThen next).2 = c.2 ++ (next c.1).2 := rfl

/-- A site whose pool has just been made. -/
def fresh (destination : Destination) : Site :=
  { destination, pool := .empty, openings := [], nextOpening := 1, inbox := [], leases := [],
    closings := [], drain := .unobserved }

/-- The connection that a caller holds under a number. -/
def lease? (id : Nat) (s : Site) : Option Entry := s.leases.find? (·.info.id == id)

/-- The opening is under way for the given purpose. -/
def isOpening (id : Nat) (purpose : Purpose) (s : Site) : Bool :=
  s.openings.contains ⟨id, purpose⟩

/-- Something other than the registry keeps the pool alive: a caller, a queued acquisition, a
connection being opened or closed, or the wait for the pool's end. -/
def isHeld (s : Site) : Bool :=
  !s.leases.isEmpty || !s.pool.pending.isEmpty || !s.inbox.isEmpty || !s.openings.isEmpty ||
    !s.closings.isEmpty || (s.pool.closed && s.drain != .finished)

/-! ## Parts of changes -/

/-- Put a connection into the hands of a caller. -/
def lend (e : Entry) (s : Site) : Site := { s with leases := s.leases ++ [e.acquired] }

/-- Take a connection out of the hands of its caller. -/
def unlend (id : Nat) (s : Site) : Site :=
  { s with leases := s.leases.eraseP (·.info.id == id) }

/-- Begin an opening. -/
def beginOpening (purpose : Purpose) (s : Site) : Site :=
  { s with openings := s.openings ++ [⟨s.nextOpening, purpose⟩], nextOpening := s.nextOpening + 1 }

/-- End an opening. -/
def endOpening (id : Nat) (s : Site) : Site :=
  { s with openings := s.openings.eraseP (·.id == id) }

/-- Start to close connections whose slots have been given up. -/
def startClosing (entries : List Entry) (s : Site) : Change :=
  let retired := entries.map Entry.retired
  ({ s with closings := s.closings ++ retired },
    retired.flatMap fun e =>
      [.note (.closing e.info.id e.info.acquireCount e.info.state), .close e])

/-- Tell whoever waits for the pool's end that the pool has changed. An open pool has nobody
waiting. -/
def announce (s : Site) : Change :=
  match s.drain with
  | .waiting graceEnd graceOver false =>
    if s.pool.closed then ({ s with drain := .waiting graceEnd graceOver true }, [.wakeDrain])
    else (s, [])
  | _ => (s, [])

/-- Begin `count` openings for the queue, whose slots are already taken. -/
def openForQueue : Nat → Site → Change
  | 0, s => (s, [])
  | count + 1, s =>
    Change.andThen (s.beginOpening .queue, [.openForQueue s.nextOpening]) (openForQueue count)

/-- After a slot may have become free: announce it, and open connections for the queue in the free
slots. -/
def slotFreed (config : Config) (s : Site) : Change :=
  -- how many are due must be read before their slots are taken
  let due := s.pool.openingsDue config
  Change.andThen (announce { s with pool := s.pool.reserve config }) (openForQueue due)

/-- Send deliveries to queued acquisitions. -/
def deliver (deliveries : List (Nat × Delivery)) (s : Site) : Change :=
  ({ s with inbox := s.inbox ++ deliveries }, deliveries.map fun (id, _) => .wake id)

/-- Tell requests that they ran out of time. -/
def deliverTimeouts (config : Config) (late : List Request) (s : Site) : Change :=
  s.deliver (late.map fun r => (r.id, .error (.acquisitionTimeout config.acquireTimeout)))

/-- Give a usable connection to the oldest request still in time, or park it. -/
def handOff (config : Config) (now : Instant) (e : Entry) (s : Site) : Change :=
  let service := s.pool.handOff now e
  let told := deliverTimeouts config service.late { s with pool := service.pool }
  match service.recipient with
  | none => told
  | some r =>
    told.andThen fun s => Change.andThen
      (s, [.note (.handing e.info.id r.id (now.since r.enqueuedAt))]) (deliver [(r.id, .ok e)])

/-- Give an error to the oldest request still in time. -/
def failOldest (config : Config) (now : Instant) (error : PoolError) (s : Site) : Change :=
  let service := s.pool.failOldest now
  let told := deliverTimeouts config service.late { s with pool := service.pool }
  match service.recipient with
  | none => told
  | some r => told.andThen (deliver [(r.id, .error error)])

end Site

end ConnectionPool

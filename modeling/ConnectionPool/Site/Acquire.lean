import ConnectionPool.Site.Release

/-!
# Acquiring connections

An acquisition begins with `acquire`, which yields a connection at once, or an opening, or a place
in the queue. An opening ends with `opened`, `openingFailed` or `abandon`; a place in the queue ends
with `poll` or `cancel`. Connections opened for the queue arrive with `openedForQueue` or
`openingForQueueFailed`.
-/

namespace ConnectionPool.Site

/-- What an acquisition gets at first. -/
inductive Ticket where
  /-- The connection with this number. -/
  | lease (id : Nat)
  /-- An opening, to be reported on when the transport has answered. -/
  | opening (id : Nat)
  /-- A place in the queue until the deadline. -/
  | request (id : Nat) (deadline : Instant)
deriving DecidableEq

/-- Begin an acquisition. -/
def acquire (config : Config) (m : Moment) (s : Site) : Except PoolError Ticket × Change :=
  if s.pool.closed then (.error .poolClosed, s, [])
  else
    let verdict := s.pool.decide config m
    let closing := startClosing verdict.stale { s with pool := verdict.pool }
    match verdict.decision with
    | .claimed e =>
      (.ok (.lease e.info.id),
        closing.andThen fun s => (s.lend e, [.note (.reusing e.info.id)]))
    | .connect =>
      (.ok (.opening s.nextOpening), closing.andThen fun s => (s.beginOpening .caller, []))
    | .queued r =>
      (.ok (.request r.id r.deadline), closing.andThen fun s => (s, [.note (.queueing r.id)]))
    | .refused error => (.error error, closing)

/-- A connection was opened for a caller, who gets it unless the pool has been shut down. -/
def opened (opening : Nat) (conn : Connection) (m : Moment) (s : Site) :
    Except PoolError Nat × Change :=
  if s.isOpening opening .caller then
    let (e, pool) := s.pool.enlist conn m.now
    let s := endOpening opening { s with pool }
    -- the pool may have been shut down while the connection was being opened
    if s.pool.closed then
      (.error .poolClosed,
        (startClosing [e] { s with pool := s.pool.giveUp 1 }).andThen announce)
    else
      (.ok e.info.id, lend e { s with pool := { s.pool with inUse := s.pool.inUse + 1 } },
        [.note (.opened e.info.id)])
  else (.error .poolClosed, s, [])

/-- The slot of an opening becomes free because its caller is no longer interested. -/
def abandon (config : Config) (opening : Nat) (s : Site) : Change :=
  if s.isOpening opening .caller then
    slotFreed config (endOpening opening { s with pool := s.pool.freeSlot })
  else (s, [])

/-- A connection for a caller could not be opened: the caller gets the error and the slot becomes
free. -/
def openingFailed (config : Config) (opening : Nat) (failure : ConnectFailure) (s : Site) :
    PoolError × Change :=
  (.connectionCreation failure,
    if s.isOpening opening .caller then
      Change.andThen (s, [.note (.openingFailed failure)]) (abandon config opening)
    else (s, []))

/-! ## Opening for the queue -/

/-- A connection was opened for the queue. The clock is looked at twice: at `m` when the transport
has answered, which is when the connection is handed over or parked, and at `created` for its
record. -/
def openedForQueue (config : Config) (opening : Nat) (conn : Connection) (m : Moment)
    (created : Instant) (s : Site) : Change :=
  if s.isOpening opening .queue then
    let (e, pool) := s.pool.enlist conn created
    let s := endOpening opening { s with pool }
    if s.pool.closed then
      (startClosing [e] { s with pool := s.pool.giveUp 1 }).andThen announce
    else
      (Change.andThen (s, [.note (.openedForQueue e.info.id)]) (handOff config m.now e)).andThen
        announce
  else (s, [])

/-- A connection for the queue could not be opened: one request at most gets the error, and for the
others the slot is used again. -/
def openingForQueueFailed (config : Config) (opening : Nat) (failure : ConnectFailure) (m : Moment)
    (s : Site) : Change :=
  if s.isOpening opening .queue then
    (Change.andThen
      (endOpening opening { s with pool := s.pool.freeSlot },
        [.note (.openingForQueueFailed failure)])
      (failOldest config m.now (.connectionCreation failure))).andThen (slotFreed config)
  else (s, [])

/-! ## Waiting in the queue -/

/-- Whoever waits for the request reads what was sent to it, if there is something: an error, or
the number of a connection. -/
def receive (request : Nat) (s : Site) : Option (Except PoolError Nat) × Change :=
  match s.inbox.lookup request with
  | none => (none, s, [])
  | some delivery =>
    let s := { s with inbox := s.inbox.eraseP (·.1 == request) }
    match delivery with
    | .ok e => (some (.ok e.info.id), s.lend e, [])
    | .error error => (some (.error error), s, [])

/-- Whoever waits for the request takes it off the queue, for a reason that is noted. It says
whether the request was still there. -/
def leaveQueue (request : Nat) (reason : PoolEvent) (s : Site) : Bool × Change :=
  if s.pool.isQueued request then
    (true, { s with pool := s.pool.dequeue request }, [.note reason])
  else (false, s, [])

/-- Whoever waits for the request looks for its outcome: nothing yet, an error, or the number of a
connection. A request that is neither queued nor answered has been dropped with its pool. -/
def poll (config : Config) (m : Moment) (request : Nat) (s : Site) :
    Option (Except PoolError Nat) × Change :=
  match s.receive request with
  | (some outcome, change) => (some outcome, change)
  | (none, _) =>
    match s.pool.pending.find? (·.id == request) with
    | none => (some (.error .poolClosed), s, [])
    | some r =>
      if m.hasFired r.deadline then
        (some (.error (.acquisitionTimeout config.acquireTimeout)),
          (s.leaveQueue request (.timedOut request)).2)
      else (none, s, [])

/-- Nobody will read what was sent to the request. A connection goes back to the pool. -/
def discard (config : Config) (m : Moment) (request : Nat) (s : Site) : Change :=
  let emptied := { s with inbox := s.inbox.eraseP (·.1 == request) }
  match s.inbox.lookup request with
  | some (.ok e) => takeIn config m e emptied
  | some (.error _) | none => (emptied, [])

/-- Whoever waits for the request is no longer interested. A connection already delivered goes back
to the pool. -/
def cancel (config : Config) (m : Moment) (request : Nat) (s : Site) : Change :=
  match s.leaveQueue request (.cancelled request) with
  | (true, change) => change
  | (false, _) => s.discard config m request

end ConnectionPool.Site

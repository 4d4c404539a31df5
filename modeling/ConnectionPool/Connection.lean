import ConnectionPool.Instant
import ConnectionPool.Text.Quoted

/-!
# Connections and their records

A connection as the transport hands it out, the record that a pool keeps about it, and the tests
that decide whether it may be used again.
-/

namespace ConnectionPool

/-- A connection as the transport hands it out. -/
structure Connection where
  /-- The number that the transport gave it. -/
  id : Nat
  /-- The address it was opened to. -/
  address : String
deriving DecidableEq, Inhabited

/-- What a pool knows about the use of a connection. -/
inductive ConnectionState where
  /-- It waits for a caller. -/
  | idle
  /-- A caller holds it. -/
  | acquired
  /-- It has been given up. -/
  | closed
deriving DecidableEq, Inhabited

namespace ConnectionState

/-- The connection can be handed out. -/
def isAvailable : ConnectionState → Bool
  | .idle => true
  | .acquired | .closed => false

/-- The state as a value. -/
def describe : ConnectionState → String
  | .idle => "Idle"
  | .acquired => "Acquired"
  | .closed => "Closed"

end ConnectionState

/-- The record kept about a connection. -/
structure Metadata where
  /-- The number of the connection within its pool. -/
  id : Nat
  /-- When it was opened. -/
  createdAt : Instant
  /-- When it was last given back. -/
  lastReleasedAt : Instant
  /-- How often it was handed out. -/
  acquireCount : Nat
  /-- Its use now. -/
  state : ConnectionState
deriving DecidableEq, Inhabited

namespace Metadata

/-- The record of a connection opened at `now`. -/
def opened (id : Nat) (now : Instant) : Metadata :=
  { id, createdAt := now, lastReleasedAt := now, acquireCount := 0, state := .idle }

/-- The age of the connection. -/
def age (m : Metadata) (now : Instant) : Duration := now.since m.createdAt

/-- The time since the connection was last given back. -/
def idleFor (m : Metadata) (now : Instant) : Duration := now.since m.lastReleasedAt

/-- The connection is older than the limit. -/
def isExpired (m : Metadata) (limit : Option Duration) (now : Instant) : Bool :=
  limit.any fun max => max < m.age now

/-- The connection is idle, and has been for longer than the limit. -/
def isIdleExpired (m : Metadata) (limit : Option Duration) (now : Instant) : Bool :=
  m.state.isAvailable && limit.any fun max => max < m.idleFor now

/-- The record after the connection is handed out. -/
def markAcquired (m : Metadata) : Metadata :=
  { m with acquireCount := m.acquireCount + 1, state := .acquired }

/-- The record after the connection is given back at `now`. -/
def markReleased (m : Metadata) (now : Instant) : Metadata :=
  { m with lastReleasedAt := now, state := .idle }

/-- The record after the connection is given up. -/
def markClosed (m : Metadata) : Metadata := { m with state := .closed }

/-- The record in words; instants are not shown. -/
def describe (m : Metadata) : String :=
  Text.record "ConnectionMetadata"
    [("id", toString m.id), ("created_at", "Instant"), ("last_released_at", "Instant"),
      ("acquire_count", toString m.acquireCount), ("state", m.state.describe)]

end Metadata

/-- A connection together with its record. -/
structure Entry where
  /-- The connection. -/
  conn : Connection
  /-- Its record. -/
  info : Metadata
deriving DecidableEq, Inhabited

namespace Entry

/-- A connection opened at `now` under the number `id`. -/
def opened (conn : Connection) (id : Nat) (now : Instant) : Entry := ⟨conn, .opened id now⟩

/-- The entry in the hands of a caller. -/
def acquired (e : Entry) : Entry := { e with info := e.info.markAcquired }

/-- The entry as it is parked at `now`. -/
def parked (e : Entry) (now : Instant) : Entry := { e with info := e.info.markReleased now }

/-- The entry given up. -/
def retired (e : Entry) : Entry := { e with info := e.info.markClosed }

end Entry

/-- The circumstances under which a pool acts: the time, and which connections are healthy. -/
structure Moment where
  /-- The time. -/
  now : Instant
  /-- The whole milliseconds up to which timers have fired. -/
  firedMillis : Nat
  /-- The connection can still carry traffic. -/
  healthy : Connection → Bool
  /-- No timer fires before its time. -/
  fired_le : Instant.ofMillis firedMillis ≤ now

/-- A timer set for the instant has fired. -/
def Moment.hasFired (m : Moment) (t : Instant) : Bool := t.ceilMillis ≤ m.firedMillis

/-- No timer fires before its time. -/
theorem Moment.le_now_of_hasFired {m : Moment} {t : Instant} (h : m.hasFired t = true) :
    t ≤ m.now := by
  have fired : ((m.firedMillis * Duration.nanosPerMilli : Nat) : Int) ≤ m.now.nanos := m.fired_le
  have reached : t.ceilMillis ≤ m.firedMillis := of_decide_eq_true h
  show t.nanos ≤ m.now.nanos
  simp only [Instant.ceilMillis, Duration.nanosPerMilli] at fired reached
  omega

end ConnectionPool

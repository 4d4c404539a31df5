import ConnectionPool.Config
import ConnectionPool.Connection
import ConnectionPool.Status

/-!
# Pools

The books of one pool: its idle connections, the queue of waiting acquisitions and three counters.
Every operation here is one indivisible change of the books. What happens between two changes,
opening and closing connections and delivering to those who wait, is the matter of `Site`.

* `decide` answers an acquisition: an idle connection, a slot to open one in, a place in the queue,
  or a refusal.
* `handOff` gives a usable connection to the oldest request that is still in time, and parks it
  where there is none.
* `failOldest` gives an error to that request.
* `reserve` takes the free slots that queued requests can be served from.
* `sweep` removes idle connections that may no longer be used.
-/

namespace ConnectionPool

/-- A queued acquisition. -/
structure Request where
  /-- The number of the request within its pool. -/
  id : Nat
  /-- When it was queued. -/
  enqueuedAt : Instant
  /-- When it runs out of time. -/
  deadline : Instant
deriving DecidableEq, Inhabited

/-- The request has run out of time. -/
def Request.isLate (now : Instant) (r : Request) : Bool := r.deadline ≤ now

/-- The idle connection may be handed out: it is healthy and within the idle and life limits. -/
def Entry.isReusable (config : Config) (m : Moment) (e : Entry) : Bool :=
  m.healthy e.conn && !e.info.isIdleExpired config.maxIdleTime m.now &&
    !e.info.isExpired config.maxLifeTime m.now

/-- The books of one pool. -/
structure Pool where
  /-- The idle connections, the one parked longest ago first. -/
  idle : List Entry
  /-- The queued acquisitions, the oldest first. -/
  pending : List Request
  /-- The slots taken: idle connections, connections in use and connections being opened. -/
  allocated : Nat
  /-- The connections with callers or on their way to one. -/
  inUse : Nat
  /-- The connections that have been given up and are not yet closed. -/
  closing : Nat
  /-- The pool has been shut down. -/
  closed : Bool
  /-- The number of the next connection. -/
  nextConnection : Nat
  /-- The number of the next request. -/
  nextRequest : Nat
deriving DecidableEq, Inhabited

namespace Pool

/-- A pool before its first acquisition. -/
def empty : Pool :=
  { idle := [], pending := [], allocated := 0, inUse := 0, closing := 0, closed := false,
    nextConnection := 1, nextRequest := 1 }

/-- The slots taken for connections that are still being opened. -/
def connecting (p : Pool) : Nat := p.allocated - (p.idle.length + p.inUse)

/-- No slot is taken and no connection is being closed. -/
def isDrained (p : Pool) : Bool := p.allocated == 0 && p.closing == 0

/-- The counters of the pool. -/
def status (config : Config) (p : Pool) : Status :=
  { available := p.idle.length, inUse := p.inUse, total := p.allocated,
    pending := p.pending.length, max := config.maxConnections }

/-- The request is in the queue. -/
def isQueued (id : Nat) (p : Pool) : Bool := p.pending.any (·.id == id)

/-- The pool without the request in its queue. -/
def dequeue (id : Nat) (p : Pool) : Pool :=
  { p with pending := p.pending.eraseP (·.id == id) }

/-- Give up the slots of `count` connections, which are about to be closed. -/
def giveUp (count : Nat) (p : Pool) : Pool :=
  { p with allocated := p.allocated - count, closing := p.closing + count }

/-- Give back the slot of a connection that never came to be, or that left the pool. -/
def freeSlot (p : Pool) : Pool := { p with allocated := p.allocated - 1 }

/-- Take a connection from its caller. -/
def takeBack (p : Pool) : Pool := { p with inUse := p.inUse - 1 }

/-- Number a connection that was opened at `now`. -/
def enlist (conn : Connection) (now : Instant) (p : Pool) : Entry × Pool :=
  (.opened conn p.nextConnection now, { p with nextConnection := p.nextConnection + 1 })

/-! ## Answering an acquisition -/

/-- The outcome of looking for an idle connection. -/
structure Selection where
  /-- The idle connections that stay, in order. -/
  kept : List Entry
  /-- The connection to hand out. -/
  chosen : Option Entry
  /-- The connections passed over, the one parked last first. -/
  stale : List Entry
deriving DecidableEq, Inhabited

/-- Look for the usable connection that was parked last. All those parked after it are passed
over. -/
def select (usable : Entry → Bool) (idle : List Entry) : Selection :=
  -- the connection parked last is at the end of the list
  let stale := idle.reverse.takeWhile (!usable ·)
  match idle.reverse.dropWhile (!usable ·) with
  | [] => ⟨[], none, stale⟩
  | e :: older => ⟨older.reverse, some e, stale⟩

/-- Looking loses no connection and changes no order. -/
theorem select_append (usable : Entry → Bool) (idle : List Entry) :
    (select usable idle).kept ++ (select usable idle).chosen.toList ++
      (select usable idle).stale.reverse = idle := by
  have parts := congrArg List.reverse
    (List.takeWhile_append_dropWhile (p := fun e => !usable e) (l := idle.reverse))
  rw [List.reverse_append, List.reverse_reverse] at parts
  unfold select
  cases rest : idle.reverse.dropWhile (!usable ·) with
  | nil => simpa [rest] using parts
  | cons e older => simpa [rest] using parts

/-- The answer to an acquisition. -/
inductive Decision where
  /-- An idle connection is handed out. -/
  | claimed (entry : Entry)
  /-- A slot is taken in which to open a connection. -/
  | connect
  /-- The acquisition is queued. -/
  | queued (request : Request)
  /-- The acquisition is refused. -/
  | refused (error : PoolError)
deriving DecidableEq

/-- An answer, the idle connections given up on the way to it, and the books after it. -/
structure Verdict where
  /-- The answer. -/
  decision : Decision
  /-- The idle connections given up, in the order in which they were passed over. -/
  stale : List Entry
  /-- The books after the answer. -/
  pool : Pool
deriving DecidableEq

/-- The largest number a counter can show, in place of a bound that does not exist. -/
def counterMax : Nat := 18446744073709551615

/-- Answer an acquisition that finds no idle connection: open one if there is a slot, otherwise
wait if that is allowed and the queue is not full. -/
def decideWithoutIdle (config : Config) (now : Instant) (p : Pool) : Decision × Pool :=
  if config.maxConnections.admits p.allocated then
    (.connect, { p with allocated := p.allocated + 1 })
  else if config.neverWaits then
    (.refused (.poolExhausted (config.maxConnections.get.getD counterMax)), p)
  else if config.maxPending.admits p.pending.length then
    let request : Request := ⟨p.nextRequest, now, now.deadline config.acquireTimeout⟩
    (.queued request,
      { p with pending := p.pending ++ [request], nextRequest := p.nextRequest + 1 })
  else (.refused (.tooManyPending (config.maxPending.get.getD counterMax)), p)

/-- Answer an acquisition. -/
def decide (config : Config) (m : Moment) (p : Pool) : Verdict :=
  let selection := select (·.isReusable config m) p.idle
  -- what was passed over gives its slot up before the answer is found
  let searched := giveUp selection.stale.length { p with idle := selection.kept }
  match selection.chosen with
  | some e => ⟨.claimed e, selection.stale, { searched with inUse := searched.inUse + 1 }⟩
  | none =>
    let answer := decideWithoutIdle config m.now searched
    ⟨answer.1, selection.stale, answer.2⟩

/-! ## Serving the queue -/

/-- The outcome of serving the queue: the requests found to be late, the request that is served,
and the books afterwards. -/
structure Service where
  /-- The requests passed over because they ran out of time. -/
  late : List Request
  /-- The request that is served. -/
  recipient : Option Request
  /-- The books afterwards. -/
  pool : Pool
deriving DecidableEq

/-- Give a usable connection to the oldest request still in time, or park it. -/
def handOff (now : Instant) (e : Entry) (p : Pool) : Service :=
  -- late requests leave the queue with the one that is served
  let late := p.pending.takeWhile (·.isLate now)
  match p.pending.dropWhile (·.isLate now) with
  | r :: rest => ⟨late, some r, { p with pending := rest, inUse := p.inUse + 1 }⟩
  | [] => ⟨late, none, { p with pending := [], idle := p.idle ++ [e.parked now] }⟩

/-- Take the oldest request still in time off the queue, to give it an error. -/
def failOldest (now : Instant) (p : Pool) : Service :=
  let late := p.pending.takeWhile (·.isLate now)
  match p.pending.dropWhile (·.isLate now) with
  | r :: rest => ⟨late, some r, { p with pending := rest }⟩
  | [] => ⟨late, none, { p with pending := [] }⟩

/-- How many connections are to be opened for the queue: as many as have a free slot and a request
waiting. A closed pool opens none. -/
def openingsDue (config : Config) (p : Pool) : Nat :=
  if p.closed then 0 else config.maxConnections.room p.allocated p.pending.length

/-- Take the slots for the connections to be opened for the queue. -/
def reserve (config : Config) (p : Pool) : Pool :=
  { p with allocated := p.allocated + p.openingsDue config }

/-! ## Giving connections up -/

/-- Why a connection that is given back is closed instead of being used again. -/
inductive CloseReason where
  /-- The pool has been shut down. -/
  | poolClosed
  /-- The connection can no longer carry traffic. -/
  | unhealthy
  /-- The connection is too old. -/
  | lifeTimeExceeded
deriving DecidableEq

/-- The reason in words. -/
def CloseReason.message : CloseReason → String
  | .poolClosed => "pool closed"
  | .unhealthy => "unhealthy"
  | .lifeTimeExceeded => "max life time exceeded"

/-- Why a connection given back is to be closed, if it is. -/
def closeReason? (config : Config) (m : Moment) (e : Entry) (p : Pool) : Option CloseReason :=
  if p.closed then some .poolClosed
  else if !m.healthy e.conn then some .unhealthy
  else if e.info.isExpired config.maxLifeTime m.now then some .lifeTimeExceeded
  else none

/-- The idle connections that may no longer be used. -/
def unusable (config : Config) (m : Moment) (p : Pool) : List Entry :=
  p.idle.filter (!·.isReusable config m)

/-- Remove the idle connections that may no longer be used. -/
def sweep (config : Config) (m : Moment) (p : Pool) : Pool :=
  giveUp (p.unusable config m).length { p with idle := p.idle.filter (·.isReusable config m) }

/-- Shut the pool down: every idle connection is given up and the queue is cleared. -/
def shutDown (p : Pool) : Pool :=
  giveUp p.idle.length { p with closed := true, idle := [], pending := [] }

end Pool

end ConnectionPool

import ConnectionPool.Site.Acquire
import ConnectionPool.Site.Drain

/-!
# Runs of a site

Everything that can happen to a site, in any order: an event names an operation together with all
that its surroundings decide, which are the time, the health of connections, the answer of the
transport and who acts. A site is reachable if some list of events leads to it from a site whose
pool has just been made.

Events that find nothing to act on, such as giving back a connection that nobody holds, leave the
site as it is. They are allowed here, so that what holds of every reachable site holds whoever
drives it.
-/

namespace ConnectionPool

/-- A configuration with a single slot, for which callers wait up to a second. -/
def Config.oneSlot : Config := .ofDefaults "one slot" ⟨.bounded 1 Nat.one_pos, .ofSeconds 1⟩

/-- A moment, counted in milliseconds, at which every connection is healthy. -/
def Moment.atMillis (millis : Nat) : Moment :=
  ⟨.ofMillis millis, millis, fun _ => true, Int.le_refl _⟩

namespace Site

/-- An `Event` of a site: what callers, the transport, the sweeps and whoever shuts the pool down
do. -/
inductive Event where
  /-- An acquisition is polled for the first time. -/
  | acquire (m : Moment)
  /-- A connection was opened for a caller. -/
  | opened (opening : Nat) (conn : Connection) (m : Moment)
  /-- A connection for a caller could not be opened. -/
  | openingFailed (opening : Nat) (failure : ConnectFailure)
  /-- The caller of an opening is no longer interested. -/
  | abandon (opening : Nat)
  /-- A connection was opened for the queue, and its record is made at `created`. -/
  | openedForQueue (opening : Nat) (conn : Connection) (m : Moment) (created : Instant)
  /-- A connection for the queue could not be opened. -/
  | openingForQueueFailed (opening : Nat) (failure : ConnectFailure) (m : Moment)
  /-- Whoever waits for the request polls again. -/
  | poll (m : Moment) (request : Nat)
  /-- Whoever waits for the request is no longer interested. -/
  | cancel (m : Moment) (request : Nat)
  /-- A caller gives a connection back. -/
  | release (m : Moment) (lease : Nat)
  /-- A caller takes a connection out of the pool for good. -/
  | detach (lease : Nat)
  /-- A caller puts another connection in the place of the one it holds. -/
  | exchange (lease : Nat) (conn : Connection)
  /-- The idle connections are swept. -/
  | sweep (m : Moment)
  /-- A connection has been closed. -/
  | closeFinished (connection : Nat)
  /-- The pool is shut down. -/
  | shutDown
  /-- Somebody who waits for the pool's end looks at it. -/
  | pollDrain (m : Moment)

/-- The moment of an event, if it looks at the clock. -/
def Event.moment? : Event → Option Moment
  | .acquire m | .opened _ _ m | .openedForQueue _ _ m _ | .openingForQueueFailed _ _ m | .poll m _
  | .cancel m _ | .release m _ | .sweep m | .pollDrain m => some m
  | _ => none

/-- What the clock shows when an event looks at it first, the `now` of its `moment?`. -/
def Event.instant? (event : Event) : Option Instant := event.moment?.map (·.now)

/-- What the clock shows when the record of a connection is made that arrives at an event. -/
def Event.created? : Event → Option Instant
  | .opened _ _ m => some m.now
  | .openedForQueue _ _ _ created => some created
  | _ => none

/-- What the clock shows in the course of an event, in the order in which it is looked at:
`openedForQueue` looks twice, first for the queue and then for the record. -/
def Event.looks : Event → List Instant
  | .openedForQueue _ _ m created => [m.now, created]
  | event => event.instant?.toList

theorem Event.mem_looks_of_moment? {event : Event} {m : Moment} (h : event.moment? = some m) :
    m.now ∈ event.looks := by
  cases event <;> cases h <;> exact List.mem_cons_self

theorem Event.mem_looks_of_created? {event : Event} {created : Instant}
    (h : event.created? = some created) : created ∈ event.looks := by
  cases event <;> cases h
  · exact List.mem_cons_self
  · exact List.mem_cons_of_mem _ List.mem_cons_self

/-- What an `Event` makes of a site, and the effects that it asks for. -/
def step (config : Config) (s : Site) : Event → Change
  | .acquire m => (s.acquire config m).2
  | .opened opening conn m => (s.opened opening conn m).2
  | .openingFailed opening failure => (s.openingFailed config opening failure).2
  | .abandon opening => s.abandon config opening
  | .openedForQueue opening conn m created => s.openedForQueue config opening conn m created
  | .openingForQueueFailed opening failure m => s.openingForQueueFailed config opening failure m
  | .poll m request => (s.poll config m request).2
  | .cancel m request => s.cancel config m request
  | .release m lease => s.release config m lease
  | .detach lease => (s.detach config lease).2
  | .exchange lease conn => (s.exchange lease conn, [])
  | .sweep m => (s.sweep config m).2
  | .closeFinished connection => s.closeFinished connection
  | .shutDown => s.shutDown
  | .pollDrain m => s.pollDrain config m

/-- What a list of events makes of a site, one `step` after another. -/
def run (config : Config) (s : Site) (events : List Event) : Site :=
  events.foldl (fun s event => (s.step config event).1) s

/-- `Reachable config s`: a list of events leads from a fresh site to `s`. -/
inductive Reachable (config : Config) : Site → Prop
  | fresh (destination : Destination) : Reachable config (.fresh destination)
  | step {s : Site} (event : Event) : Reachable config s → Reachable config (s.step config event).1

/-- What holds of a new site and is kept by every `step` holds of every `Reachable` site. -/
theorem Reachable.invariant {config : Config} {s : Site} {motive : Site → Prop}
    (fresh : ∀ destination, motive (.fresh destination))
    (step : ∀ s event, motive s → motive (s.step config event).1) (h : Reachable config s) :
    motive s := by
  induction h with
  | fresh destination => exact fresh destination
  | step event _ ih => exact step _ event ih

/-- A `run` that begins at a `Reachable` site ends at one. -/
theorem Reachable.run {config : Config} {s : Site} (h : Reachable config s)
    (events : List Event) : Reachable config (s.run config events) := by
  induction events generalizing s with
  | nil => exact h
  | cons event events ih => exact ih (h.step event)

/-- One caller gets the only connection of a pool with `Config.oneSlot`, and another has to wait. -/
def crowded : List Event :=
  [.acquire (.atMillis 0), .opened 1 ⟨1, "db:1"⟩ (.atMillis 0), .acquire (.atMillis 0)]

end Site

end ConnectionPool

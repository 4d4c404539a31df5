import ConnectionPool.Direct
import ConnectionPool.Provider

/-!
# The event log

The words for the events of pools and providers: a level, a message, and named values.
-/

namespace ConnectionPool

/-- An event in words. -/
structure EventLine where
  /-- How much attention the event deserves. -/
  level : String
  /-- What happened. -/
  message : String
  /-- The named values. -/
  fields : List (String × String)

/-- The event on one line. -/
def EventLine.render (line : EventLine) : String :=
  String.intercalate " "
    (line.level :: line.message :: line.fields.map fun (name, value) => name ++ "=" ++ value)

/-- The event of a pool, given the name of its provider and its destination. -/
def PoolEvent.line (provider : String) (destination : Destination) (event : PoolEvent) :
    EventLine :=
  let pool := ("pool", provider)
  let target := ("destination", destination.display)
  match event with
  | .created max =>
    ⟨"DEBUG", "created destination pool", [pool, target, ("max_connections", max.display)]⟩
  | .reusing connection =>
    ⟨"TRACE", "reusing idle connection", [pool, target, ("connection_id", toString connection)]⟩
  | .queueing request =>
    ⟨"TRACE", "pool at capacity, queueing acquisition",
      [pool, target, ("request_id", toString request)]⟩
  | .opened connection =>
    ⟨"DEBUG", "opened new connection", [pool, target, ("connection_id", toString connection)]⟩
  | .openingFailed failure =>
    ⟨"DEBUG", "failed to open connection", [pool, target, ("error", failure.message)]⟩
  | .openedForQueue connection =>
    ⟨"DEBUG", "opened new connection for queued acquisition",
      [pool, target, ("connection_id", toString connection)]⟩
  | .openingForQueueFailed failure =>
    ⟨"DEBUG", "failed to open connection for queued acquisition",
      [pool, target, ("error", failure.message)]⟩
  | .returning connection =>
    ⟨"TRACE", "returning connection to pool", [target, ("connection_id", toString connection)]⟩
  | .closingReleased connection reason =>
    ⟨"DEBUG", "closing released connection",
      [pool, target, ("connection_id", toString connection), ("reason", reason.message)]⟩
  | .handing connection request waited =>
    ⟨"TRACE", "handing connection to queued acquisition",
      [pool, target, ("connection_id", toString connection), ("request_id", toString request),
        ("waited", waited.describe)]⟩
  | .closing connection acquireCount state =>
    ⟨"TRACE", "closing connection",
      [pool, target, ("connection_id", toString connection),
        ("acquire_count", toString acquireCount), ("state", state.describe)]⟩
  | .timedOut request =>
    ⟨"DEBUG", "queued acquisition timed out", [pool, target, ("request_id", toString request)]⟩
  | .cancelled request =>
    ⟨"TRACE", "queued acquisition cancelled", [pool, target, ("request_id", toString request)]⟩
  | .evicted count =>
    ⟨"DEBUG", "evicted expired idle connections", [pool, target, ("evicted", toString count)]⟩
  | .sweepStopped => ⟨"TRACE", "eviction sweep stopped", [pool, target]⟩
  | .shuttingDown pending idle =>
    ⟨"DEBUG", "shutting down destination pool",
      [pool, target, ("pending", toString pending), ("idle", toString idle)]⟩
  | .graceElapsed inUse =>
    ⟨"WARN", "grace period elapsed with connections still in use",
      [pool, target, ("in_use", toString inUse)]⟩
  | .drained => ⟨"DEBUG", "destination pool closed", [pool, target]⟩

/-- The event of a provider, given its name. -/
def ProviderEvent.line (provider : String) (event : ProviderEvent) : EventLine :=
  let pool := ("pool", provider)
  match event with
  | .created maxConnections maxPending acquireTimeout =>
    ⟨"DEBUG", "created pooled connection provider",
      [pool, ("max_connections", maxConnections.display),
        ("max_pending_acquire", maxPending.display),
        ("acquire_timeout", acquireTimeout.describe)]⟩
  | .disposing pools =>
    ⟨"INFO", "disposing connection provider", [pool, ("pools", toString pools)]⟩
  | .disposed => ⟨"INFO", "connection provider disposed", [pool]⟩
  | .disposingPool destination =>
    ⟨"INFO", "disposing destination pool", [pool, ("destination", destination.display)]⟩

/-- The event of a provider without pools. -/
def DirectEvent.line (event : DirectEvent) : EventLine :=
  match event with
  | .opened destination connection =>
    ⟨"TRACE", "opened unpooled connection",
      [("destination", destination.display), ("connection_id", toString connection)]⟩
  | .closing destination connection =>
    ⟨"TRACE", "closing unpooled connection",
      [("destination", destination.display), ("connection_id", toString connection)]⟩

end ConnectionPool

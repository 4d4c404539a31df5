import ConnectionPool.Limit

/-!
# Status of a pool

A snapshot of the counters of one pool.
-/

namespace ConnectionPool

/-- A snapshot of the counters of one pool. -/
structure Status where
  /-- Idle connections. -/
  available : Nat
  /-- Connections held by callers. -/
  inUse : Nat
  /-- All connections, those being opened included. -/
  total : Nat
  /-- Queued acquisitions. -/
  pending : Nat
  /-- The bound on connections. -/
  max : Limit
deriving DecidableEq

namespace Status

/-- What the connections in use are measured against: the bound, or the current total where there
is none. -/
def capacity (s : Status) : Nat := s.max.get.getD s.total

/-- The percentage of the capacity that callers hold, zero if there is no capacity. -/
def utilization (s : Status) : Float :=
  if s.capacity = 0 then 0.0
  else (UInt64.ofNat s.inUse).toFloat / (UInt64.ofNat s.capacity).toFloat * 100.0

/-- The status as a record. -/
def describe (s : Status) : String :=
  Text.record "PoolStatus"
    [("available", toString s.available), ("in_use", toString s.inUse),
      ("total", toString s.total), ("pending", toString s.pending), ("max", s.max.describe)]

end Status

end ConnectionPool

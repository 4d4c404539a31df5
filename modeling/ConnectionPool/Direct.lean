import ConnectionPool.Destination
import ConnectionPool.Error
import ConnectionPool.Connection

/-!
# Providers without pools

A provider that opens a new connection for every acquisition and closes it when it is given back.
There is nothing to share, so there is no limit, no queue and nothing to dispose.
-/

namespace ConnectionPool

/-- What happens in a provider without pools that is worth a line in the event log. -/
inductive DirectEvent where
  /-- A connection was opened. -/
  | opened (destination : Destination) (connection : Nat)
  /-- A connection given back is being closed. -/
  | closing (destination : Destination) (connection : Nat)
deriving DecidableEq

/-- A connection in the hands of a caller. -/
structure DirectLease where
  /-- What the connection was opened to. -/
  destination : Destination
  /-- The connection and its record. -/
  entry : Entry
deriving DecidableEq

/-- A provider without pools. -/
structure Direct where
  /-- The number of the next connection. -/
  nextConnection : Nat
  /-- The unfinished acquisitions and what they are to connect to. -/
  acquisitions : List (Nat × Destination)
  /-- The number of the next acquisition. -/
  nextAcquisition : Nat
  /-- The connections in the hands of callers. -/
  leases : List DirectLease

namespace Direct

/-- A provider before its first acquisition. -/
def empty : Direct :=
  { nextConnection := 1, acquisitions := [], nextAcquisition := 0, leases := [] }

/-- Ask for a connection. Nothing happens until the acquisition is polled. -/
def acquire (d : Destination) (p : Direct) : Nat × Direct :=
  (p.nextAcquisition,
    { p with acquisitions := p.acquisitions ++ [(p.nextAcquisition, d)],
             nextAcquisition := p.nextAcquisition + 1 })

/-- The acquisition is over, or given up. -/
def finishAcquisition (id : Nat) (p : Direct) : Direct :=
  { p with acquisitions := p.acquisitions.eraseP (·.1 == id) }

/-- The transport opened the connection that an acquisition waits for. Its caller holds it from now
on. -/
def opened (id : Nat) (conn : Connection) (now : Instant) (p : Direct) :
    Option DirectLease × Direct :=
  match p.acquisitions.lookup id with
  | none => (none, p)
  | some destination =>
    let lease : DirectLease := ⟨destination, (Entry.opened conn p.nextConnection now).acquired⟩
    (some lease,
      { p.finishAcquisition id with
        nextConnection := p.nextConnection + 1, leases := p.leases ++ [lease] })

/-- The connection that a caller holds under a number. -/
def lease? (connection : Nat) (p : Direct) : Option DirectLease :=
  p.leases.find? (·.entry.info.id == connection)

/-- A caller no longer holds a connection. -/
def unlend (connection : Nat) (p : Direct) : Direct :=
  { p with leases := p.leases.eraseP (·.entry.info.id == connection) }

/-- A caller puts another connection in the place of the one it holds. -/
def exchange (connection : Nat) (conn : Connection) (p : Direct) : Direct :=
  { p with leases := p.leases.map fun lease =>
      if lease.entry.info.id == connection then
        { lease with entry := { lease.entry with conn } }
      else lease }

/-- The provider as a record. -/
def describe : String := Text.variant "NewConnection" (Text.openRecord "NewConnectionProvider" [])

end Direct

end ConnectionPool

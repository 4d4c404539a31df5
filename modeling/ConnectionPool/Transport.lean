import ConnectionPool.Connection
import ConnectionPool.Error

/-!
# The in-memory transport

A transport that opens connections in memory and keeps books on all that is asked of it. Failures
can be ordered: for all connections to an address, or for a number of attempts to come.

A call to open a connection is in flight from `begin` until it is answered by `answer` or dropped by
`hangUp`. What takes time lies between: the books change only at the two ends.
-/

namespace ConnectionPool

/-- A call to open a connection that has not been answered. -/
structure Call where
  /-- The number of the call, counted from one. -/
  id : Nat
  /-- The address to connect to. -/
  address : String
deriving DecidableEq

/-- The in-memory transport. -/
structure Transport where
  /-- How long it takes to open a connection. -/
  connectLatency : Duration
  /-- How long it takes to close a connection. -/
  closeLatency : Duration
  /-- The addresses that refuse connections. -/
  refused : List String
  /-- How many failures are ordered and have not happened yet. -/
  pendingFailures : Nat
  /-- The number of the next connection. -/
  nextConnection : Nat
  /-- The calls begun. -/
  attempts : Nat
  /-- The calls in flight. -/
  calls : List Call
  /-- The connections opened. -/
  connects : Nat
  /-- The connections closed. -/
  closes : Nat
  /-- The connections opened and not closed. -/
  openNow : Nat
  /-- The most connections that were open at one time. -/
  peakOpen : Nat
  /-- The connections opened to each address. -/
  perAddress : List (String × Nat)
deriving Inhabited

namespace Transport

/-- A transport before its first call. -/
def ofLatencies (connectLatency closeLatency : Duration) (refused : List String) : Transport :=
  { connectLatency, closeLatency, refused, pendingFailures := 0, nextConnection := 1,
    attempts := 0, calls := [], connects := 0, closes := 0, openNow := 0, peakOpen := 0,
    perAddress := [] }

/-- Let the next `count` connections fail, whatever their address. -/
def failNext (count : Nat) (t : Transport) : Transport := { t with pendingFailures := count }

/-- Refuse connections to an address. -/
def refuse (address : String) (t : Transport) : Transport :=
  if t.refused.contains address then t else { t with refused := t.refused ++ [address] }

/-- No longer refuse connections to an address. -/
def accept (address : String) (t : Transport) : Transport :=
  { t with refused := t.refused.filter (· != address) }

/-- The connections opened to an address. -/
def connectsTo (address : String) (t : Transport) : Nat := (t.perAddress.lookup address).getD 0

/-- Count one more connection to an address. -/
def countAddress (address : String) : List (String × Nat) → List (String × Nat)
  | [] => [(address, 1)]
  | (other, count) :: rest =>
    if other == address then (other, count + 1) :: rest
    else (other, count) :: countAddress address rest

/-- Begin a call to open a connection. -/
def begin (address : String) (t : Transport) : Nat × Transport :=
  (t.attempts + 1,
    { t with attempts := t.attempts + 1, calls := t.calls ++ [⟨t.attempts + 1, address⟩] })

/-- The call is no longer in flight. -/
def hangUp (call : Nat) (t : Transport) : Transport :=
  { t with calls := t.calls.eraseP (·.id == call) }

/-- Open a connection to an address and enter it in the books. -/
def openTo (address : String) (t : Transport) : Connection × Transport :=
  (⟨t.nextConnection, address⟩,
    { t with
      nextConnection := t.nextConnection + 1, connects := t.connects + 1,
      openNow := t.openNow + 1, peakOpen := max t.peakOpen (t.openNow + 1),
      perAddress := countAddress address t.perAddress })

/-- What becomes of a connection to an address: it is refused, or fails by order, or is opened. -/
def connect (address : String) (t : Transport) : Except ConnectFailure Connection × Transport :=
  if t.refused.contains address then (.error (.refused address), t)
  else if t.pendingFailures ≠ 0 then
    (.error (.injected address), { t with pendingFailures := t.pendingFailures - 1 })
  else
    let (conn, t) := t.openTo address
    (.ok conn, t)

/-- Answer a call, if it is in flight. -/
def answer (call : Nat) (t : Transport) :
    Option (Except ConnectFailure Connection) × Transport :=
  match t.calls.find? (·.id == call) with
  | none => (none, t)
  | some known =>
    let (result, t) := (t.hangUp call).connect known.address
    (some result, t)

/-- A connection has been closed. -/
def close (t : Transport) : Transport :=
  { t with closes := t.closes + 1, openNow := t.openNow - 1 }

/-- The transport as a record. -/
def describe (t : Transport) : String :=
  Text.openRecord "MockTransport"
    [("connects", toString t.connects), ("closes", toString t.closes),
      ("open", toString t.openNow)]

end Transport

/-- A connection as a record. -/
def Connection.describe (healthy : Bool) (c : Connection) : String :=
  Text.record "MockConnection"
    [("id", toString c.id), ("address", Text.quoted c.address),
      ("healthy", Text.truth healthy)]

end ConnectionPool

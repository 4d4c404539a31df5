import ConnectionPool.Simulation.Connecting

/-!
# Acquisitions at work

Polling and dropping acquisitions, and the use of the connections they yield. An acquisition is
polled by hand, in which case nobody is woken for it, or by a task.
-/

namespace ConnectionPool.Simulation

/-- What an acquisition gives: nothing yet, an error or a connection. -/
abbrev Acquired := Option (Except PoolError Lease)

/-- Ask the provider for a connection. -/
def acquire (destination : Destination) : Sim Nat := do
  let s ← get
  match s.supply with
  | .pooled p =>
    let (id, p) := p.acquire destination
    set { s with supply := .pooled p }
    return id
  | .direct p =>
    let (id, p) := p.acquire destination
    set { s with supply := .direct p }
    return id

/-- The unfinished acquisition of a provider with pools. -/
def acquisition? (id : Nat) (s : Simulation) : Option Acquisition :=
  match s.supply with
  | .pooled p => p.acquisitions.lookup id
  | .direct _ => none

/-- An acquisition no longer waits in a queue, if it did. -/
def clearDeadline : Option Acquisition → Sim Unit
  | some (.queued site request _) => clearTimer (.request site request)
  | _ => pure ()

/-- Poll the attempt to open the connection that an acquisition waits for. -/
def pollConnecting (id : Nat) (destination : Destination) (sleeper : Sleeper) : Sim Acquired := do
  match ← pollAttemptOf (.acquisition id) destination sleeper with
  | none => return none
  | some (.error failure) =>
    let error ← changeReporting .poolClosed fun _ p => p.openingFailed id failure
    return some (.error error)
  | some (.ok conn) =>
    let result ← changeReporting (.error .poolClosed) fun m p => p.opened m id conn
    return some (result.map .pooled)

/-- Poll an acquisition of a provider with pools. The timer of a deadline is set when the
acquisition is queued; if the timers have reached the deadline by then, it is polled once more. -/
def pollPooled (id : Nat) (sleeper : Sleeper) : Sim Acquired := do
  let known := (← get).acquisition? id
  match ← changeReporting (.finished (.error .poolClosed)) fun m p => p.poll m id with
  | .finished result =>
    clearDeadline known
    return some (result.map .pooled)
  | .connecting destination => pollConnecting id destination sleeper
  | .waiting site request deadline =>
    match known with
    | some (.fresh _) =>
      if ← sleepUntil (.request site request) deadline sleeper then
        match ← changeReporting (.finished (.error .poolClosed)) fun m p => p.poll m id with
        | .finished result => return some (result.map .pooled)
        | .connecting _ | .waiting .. => return none
      else return none
    | _ => return none

/-- Poll an acquisition of a provider without pools. -/
def pollDirect (id : Nat) (destination : Destination) (sleeper : Sleeper) : Sim Acquired := do
  match ← pollAttemptOf (.acquisition id) destination sleeper with
  | none => return none
  | some (.error failure) =>
    changeDirect (fun p => ((), p.finishAcquisition id)) ()
    return some (.error (.connectionCreation failure))
  | some (.ok conn) =>
    let now := (← get).moment.now
    match ← changeDirect (Direct.opened id conn now) none with
    | none => return some (.error .poolClosed)
    | some lease =>
      let connection := lease.entry.info.id
      trace (DirectEvent.line (.opened destination connection))
      return some (.ok (.direct connection))

/-- Poll an acquisition. -/
def pollAcquisition (id : Nat) (sleeper : Sleeper) : Sim Acquired := do
  match (← get).supply with
  | .pooled _ => pollPooled id sleeper
  | .direct p =>
    match p.acquisitions.lookup id with
    | none => return some (.error .poolClosed)
    | some destination => pollDirect id destination sleeper

/-- Drop an unfinished acquisition. -/
def dropAcquisition (id : Nat) : Sim Unit := do
  dropAttemptOf (.acquisition id)
  clearDeadline ((← get).acquisition? id)
  change fun m p => p.abandon m id
  changeDirect (fun p => ((), p.finishAcquisition id)) ()

/-- The connection that a caller holds, and what it was acquired for. -/
def lease? (lease : Lease) (s : Simulation) : Option (Entry × Destination) :=
  match s.supply, lease with
  | .pooled p, .pooled known => do
    let entry ← p.lease? known
    let site ← p.sites[known.site]?
    return (entry, site.destination)
  | .direct p, .direct connection =>
    (p.lease? connection).map fun known => (known.entry, known.destination)
  | _, _ => none

/-- A caller gives a connection back. One that belongs to no pool is closed. -/
def release (lease : Lease) : Sim Unit := do
  match lease with
  | .pooled known => change fun m p => p.release m known
  | .direct connection =>
    match (← get).lease? lease with
    | none => pure ()
    | some (entry, destination) =>
      changeDirect (fun p => ((), p.unlend connection)) ()
      trace (DirectEvent.line (.closing destination connection))
      discard (spawn (.close entry.conn none none))

/-- A caller takes a connection for good. -/
def detach (lease : Lease) : Sim (Option Connection) := do
  match lease with
  | .pooled known => changeReporting none fun _ p => p.detach known
  | .direct connection =>
    let conn := ((← get).lease? lease).map (·.1.conn)
    changeDirect (fun p => ((), p.unlend connection)) ()
    return conn

/-- A caller puts another connection in the place of the one it holds. -/
def exchange (lease : Lease) (conn : Connection) : Sim Unit := do
  match lease with
  | .pooled known => change fun _ p => (p.exchange known conn, [])
  | .direct connection => changeDirect (fun p => ((), p.exchange connection conn)) ()

end ConnectionPool.Simulation

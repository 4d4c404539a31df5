import ConnectionPool.Simulation.Time

/-!
# Scenarios

A scenario is a simulation driven step by step from outside. What the steps acquire and dispose is
kept under names, the handles. A step that cannot be done, because a handle is unknown, in use or
of another kind, or because the provider has been let go, is skipped and has no effect.
-/

namespace ConnectionPool

/-- How an acquisition or a disposal is treated when it is made. -/
inductive Mode where
  /-- It is polled once. -/
  | poll
  /-- It is only kept. -/
  | cold
  /-- A task polls it to its end. -/
  | spawn
deriving DecidableEq

/-- A step of a scenario. -/
inductive Command where
  /-- Acquire a connection under a handle; a spawned task gives it back after `hold`. -/
  | acquire (handle : String) (destination : Destination) (mode : Mode) (hold : Option Duration)
  /-- Poll what is kept under a handle. -/
  | poll (handle : String)
  /-- Poll everything that is kept. -/
  | pollAll
  /-- Drop what is kept under a handle. -/
  | drop (handle : String)
  /-- Look at a connection. -/
  | info (handle : String)
  /-- Describe what is kept under a handle, or the provider and the transport. -/
  | describe (handle : Option String)
  /-- Take a connection out of its pool for good. -/
  | detach (handle : String)
  /-- Close a connection that was taken out of its pool. -/
  | close (handle : String)
  /-- Exchange the transport's connections inside two connections. -/
  | swap (first second : String)
  /-- Break the connection with this number. -/
  | breakConnection (connection : Nat)
  /-- Add permits to a gate. -/
  | openGate (gate : String) (permits : Nat)
  /-- Let connections to come fail. -/
  | failNext (count : Nat)
  /-- Refuse connections to an address. -/
  | refuse (address : String)
  /-- No longer refuse connections to an address. -/
  | accept (address : String)
  /-- Count the connections opened to an address. -/
  | connectsTo (address : String)
  /-- Look at the counters of a pool. -/
  | status (destination : Destination)
  /-- Dispose the provider in the background. -/
  | dispose
  /-- Dispose the provider where nothing can run in the background. -/
  | disposeAtOnce
  /-- Dispose the provider under a handle. -/
  | disposeLater (handle : String) (mode : Mode)
  /-- Dispose the pool of a destination under a handle. -/
  | disposeWhen (handle : String) (destination : Destination) (mode : Mode)
  /-- Keep a second copy of an unfinished disposal. -/
  | cloneDisposal (source handle : String) (mode : Mode)
  /-- Replace the provider by its copy. -/
  | cloneProvider
  /-- Let the provider go. -/
  | dropProvider
  /-- Run tasks until none is to run. -/
  | settle
  /-- Advance the clock. -/
  | advance (millis : Nat)
  /-- Let the clock leap. -/
  | jump (millis : Nat)

/-- What is kept under a handle. -/
inductive Held where
  /-- An acquisition polled by hand. -/
  | acquisition (id : Nat)
  /-- A task that acquires a connection. -/
  | acquiring (task : Nat)
  /-- A connection. -/
  | lease (lease : Lease)
  /-- A connection that was taken out of its pool. -/
  | detached (conn : Connection)
  /-- A disposal polled by hand. -/
  | disposal (disposal : Disposal)
  /-- A task that waits for a disposal. -/
  | disposing (task : Nat)

/-- A connection as a report shows it. -/
structure LeaseView where
  /-- The connection and its record. -/
  entry : Entry
  /-- The connection is healthy. -/
  isHealthy : Bool
  /-- What it was acquired for. -/
  destination : Destination
  /-- It belongs to a pool. -/
  isPooled : Bool

/-- The result of a step. -/
inductive Report where
  /-- There is nothing to say. -/
  | nothing
  /-- The step could not be done. -/
  | skipped
  /-- Something is kept without having been polled. -/
  | cold
  /-- A task was started. -/
  | spawned
  /-- What was polled is unfinished. -/
  | pending
  /-- A task has no result yet. -/
  | running
  /-- A connection is kept. -/
  | held
  /-- A disposal is over. -/
  | disposed
  /-- An acquisition yielded a connection, or one was looked at. -/
  | lease (view : LeaseView)
  /-- An acquisition failed. -/
  | failed (error : PoolError)
  /-- The connection was taken out of its pool. -/
  | detached (conn : Connection) (isHealthy : Bool)
  /-- The reports for several handles. -/
  | each (reports : List (String × Report))
  /-- The counters of a pool, if there is one. -/
  | status (status : Option Status)
  /-- Whether something was there. -/
  | found (found : Bool)
  /-- A count. -/
  | count (n : Nat)
  /-- A description. -/
  | text (text : String)
  /-- Two descriptions. -/
  | texts (first second : String)

/-- A scenario between two steps. -/
structure Scenario where
  /-- The simulation. -/
  simulation : Simulation
  /-- What is kept, by name. -/
  handles : List (String × Held)
  /-- The destinations named so far, in the order of their first mention. -/
  mentioned : List Destination
  /-- Somebody holds the provider. -/
  isProviderHeld : Bool

/-- Programs that change a scenario. -/
abbrev Play := StateM Scenario

namespace Scenario

/-- A scenario before its first step. -/
def ofSimulation (simulation : Simulation) : Scenario := ⟨simulation, [], [], true⟩

/-- Let the simulation change. -/
def simulate (program : Sim α) : Play α :=
  modifyGet fun s =>
    let (result, simulation) := program.run s.simulation
    (result, { s with simulation })

/-- What is kept under a handle. -/
def held? (handle : String) : Play (Option Held) := return (← get).handles.lookup handle

/-- Keep something under a handle. -/
def keep (handle : String) (held : Held) : Play Unit :=
  modify fun s => { s with handles := (handle, held) :: s.handles.filter (·.1 != handle) }

/-- Keep nothing under a handle any more. -/
def forget (handle : String) : Play Unit :=
  modify fun s => { s with handles := s.handles.filter (·.1 != handle) }

/-- Remember that a destination was named. -/
def mention (destination : Destination) : Play Unit :=
  modify fun s =>
    if s.mentioned.contains destination then s
    else { s with mentioned := s.mentioned ++ [destination] }

/-- Do a step that needs the provider. -/
def withProvider (step : Play Report) : Play Report := do
  if (← get).isProviderHeld then step else return .skipped

/-- Do a step that makes something new under a handle. -/
def withFreeHandle (handle : String) (step : Play Report) : Play Report := do
  if (← held? handle).isSome then return .skipped else step

/-! ## Looking -/

/-- The connection that is kept, as a report shows it. -/
def viewLease (lease : Lease) : Play Report := do
  let s := (← get).simulation
  match s.lease? lease with
  | none => return .skipped
  | some (entry, destination) =>
    let isPooled := match lease with
      | .pooled _ => true
      | .direct _ => false
    return .lease ⟨entry, s.moment.healthy entry.conn, destination, isPooled⟩

/-- A connection in the hands of a caller, as a record. -/
def describeLease (view : LeaseView) : String :=
  Text.record "PooledConnection"
    [("destination", view.destination.describe),
      ("metadata", Text.variant "Some" view.entry.info.describe),
      ("pooled", Text.truth view.isPooled)]

/-- The provider and the transport in words. -/
def describeSurroundings : Play Report := do
  let s ← get
  let provider := match s.simulation.supply with
    | .pooled p => p.describe
    | .direct _ => Direct.describe
  return .texts (if s.isProviderHeld then Text.variant "Some" provider else "None")
    s.simulation.transport.describe

/-- What is kept in words. A task has no description. -/
def describeHeld (held : Held) : Play Report := do
  match held with
  | .acquisition _ => return .text (Text.openRecord "Acquire" [])
  | .disposal _ => return .text (Text.openRecord "Disposal" [])
  | .detached conn =>
    return .text (conn.describe ((← get).simulation.moment.healthy conn))
  | .lease lease =>
    match ← viewLease lease with
    | .lease view => return .texts (view.entry.conn.describe view.isHealthy) (describeLease view)
    | report => return report
  | .acquiring _ | .disposing _ => return .skipped

/-- The counters of the pool for a destination. -/
def status? (destination : Destination) (s : Scenario) : Option Status :=
  match s.simulation.supply with
  | .pooled p => p.status? destination
  | .direct _ => none

/-- The number of pools that serve a destination. -/
def poolCount (s : Scenario) : Nat :=
  match s.simulation.supply with
  | .pooled p => p.registry.length
  | .direct _ => 0

/-- The provider accepts no further acquisitions. -/
def isDisposed (s : Scenario) : Bool :=
  match s.simulation.supply with
  | .pooled p => p.isDisposed
  | .direct _ => false

/-- The named destinations that have a pool, with its counters. -/
def pools (s : Scenario) : List (Destination × Status) :=
  s.mentioned.filterMap fun destination => (s.status? destination).map (destination, ·)

/-! ## Polling and dropping -/

/-- An acquisition has ended: its connection stays under the handle, an error does not. -/
def settleAcquisition (handle : String) : Except PoolError Lease → Play Report
  | .ok lease => do
    keep handle (.lease lease)
    viewLease lease
  | .error error => do
    forget handle
    return .failed error

/-- A disposal has ended. -/
def settleDisposal (handle : String) : Play Report := do
  forget handle
  return .disposed

/-- Poll what is kept under a handle. -/
def pollHeld (handle : String) (held : Held) : Play Report := do
  match held with
  | .acquisition id =>
    match ← simulate (Simulation.pollAcquisition id .nobody) with
    | none => return .pending
    | some result => settleAcquisition handle result
  | .acquiring id =>
    match (← get).simulation.job? id with
    | some (.acquire _ _ (.ended result)) =>
      simulate (Simulation.removeTask id)
      settleAcquisition handle result
    | _ => return .running
  | .disposal disposal =>
    if ← simulate (Simulation.pollDisposal disposal) then settleDisposal handle
    else return .pending
  | .disposing id =>
    match (← get).simulation.job? id with
    | some (.dispose _ _ true) =>
      simulate (Simulation.removeTask id)
      settleDisposal handle
    | _ => return .running
  | .lease _ | .detached _ => return .held

/-- Poll what is kept under a handle, if anything is. -/
def poll (handle : String) : Play Report := do
  match ← held? handle with
  | none => return .skipped
  | some held => pollHeld handle held

/-- Poll everything that is kept, in the order of the names. Connections are left out. -/
def pollAll : Play Report := do
  let names := ((← get).handles.map (·.1)).mergeSort fun a b => a ≤ b
  let reports ← names.mapM fun handle => return (handle, ← poll handle)
  return .each (reports.filter fun (_, report) => match report with
    | .held => false
    | _ => true)

/-- Drop what was kept. -/
def dropHeld (held : Held) : Play Unit := do
  match held with
  | .acquisition id => simulate (Simulation.dropAcquisition id)
  | .acquiring id | .disposing id => simulate (Simulation.abort id)
  | .lease lease => simulate (Simulation.release lease)
  | .detached _ | .disposal _ => pure ()

/-! ## Making -/

/-- Treat a new acquisition as the mode says. -/
def beginAcquisition (handle : String) (id : Nat) (hold : Option Duration) : Mode → Play Report
  | .poll => do
    keep handle (.acquisition id)
    poll handle
  | .cold => do
    keep handle (.acquisition id)
    return .cold
  | .spawn => do
    keep handle (.acquiring (← simulate (Simulation.spawn (.acquire handle hold (.waiting id)))))
    return .spawned

/-- Treat a new disposal as the mode says. -/
def beginDisposal (handle : String) (disposal : Disposal) : Mode → Play Report
  | .poll => do
    keep handle (.disposal disposal)
    poll handle
  | .cold => do
    keep handle (.disposal disposal)
    return .cold
  | .spawn => do
    keep handle
      (.disposing (← simulate (Simulation.spawn (.dispose disposal (some handle) false))))
    return .spawned

/-- Exchange the transport's connections inside two connections. -/
def swap (first second : Lease) : Play Report := do
  let s := (← get).simulation
  match s.lease? first, s.lease? second with
  | some (one, _), some (other, _) =>
    simulate (Simulation.exchange first other.conn)
    simulate (Simulation.exchange second one.conn)
    return .nothing
  | _, _ => return .skipped

/-- Change the transport. -/
def changeTransport (change : Transport → Transport) : Play Report := do
  simulate (modify fun s => { s with transport := change s.transport })
  return .nothing

/-- The disposal of the whole provider. -/
def wholeDisposal : Play Disposal := do
  match (← get).simulation.supply with
  | .pooled _ => return .whole
  | .direct _ => return .nothing

/-- Do one step. -/
def perform : Command → Play Report
  | .acquire handle destination mode hold => withProvider <| withFreeHandle handle do
    mention destination
    let id ← simulate (Simulation.acquire destination)
    beginAcquisition handle id hold mode
  | .poll handle => poll handle
  | .pollAll => pollAll
  | .drop handle => do
    match ← held? handle with
    | none => return .skipped
    | some held =>
      forget handle
      dropHeld held
      return .nothing
  | .info handle => do
    match ← held? handle with
    | some (.lease lease) => viewLease lease
    | _ => return .skipped
  | .describe handle => do
    match ← handle.bindM fun handle => held? handle with
    | some held => describeHeld held
    | none => describeSurroundings
  | .detach handle => do
    match ← held? handle with
    | some (.lease lease) =>
      match ← simulate (Simulation.detach lease) with
      | none => return .skipped
      | some conn =>
        keep handle (.detached conn)
        return .detached conn ((← get).simulation.moment.healthy conn)
    | _ => return .skipped
  | .close handle => do
    match ← held? handle with
    | some (.detached conn) =>
      forget handle
      discard (simulate (Simulation.spawn (.close conn none none)))
      return .nothing
    | _ => return .skipped
  | .swap first second => do
    match ← held? first, ← held? second with
    | some (.lease one), some (.lease other) =>
      if first == second then return .skipped else swap one other
    | _, _ => return .skipped
  | .breakConnection connection => do
    let opened := (← get).simulation.transport.connects
    if 0 < connection && connection ≤ opened then
      simulate (modify fun s => { s with broken := connection :: s.broken })
      return .found true
    else return .found false
  | .openGate gate permits => do
    simulate (Simulation.openGate gate permits)
    return .nothing
  | .failNext count => changeTransport (Transport.failNext count)
  | .refuse address => changeTransport (Transport.refuse address)
  | .accept address => changeTransport (Transport.accept address)
  | .connectsTo address => do
    return .count ((← get).simulation.transport.connectsTo address)
  | .status destination => withProvider do
    mention destination
    return .status ((← get).status? destination)
  | .dispose => withProvider do
    simulate (Simulation.change fun _ p => p.dispose)
    return .nothing
  | .disposeAtOnce => withProvider do
    simulate (Simulation.change fun _ p => p.disposeAtOnce)
    return .nothing
  | .disposeLater handle mode => withProvider <| withFreeHandle handle do
    beginDisposal handle (← wholeDisposal) mode
  | .disposeWhen handle destination mode => withProvider <| withFreeHandle handle do
    mention destination
    let disposal ← simulate
      (Simulation.changeReporting .nothing fun _ p => p.disposeWhen destination)
    beginDisposal handle disposal mode
  | .cloneDisposal source handle mode => withFreeHandle handle do
    match ← held? source with
    | some (.disposal disposal) => beginDisposal handle disposal mode
    | _ => return .skipped
  | .cloneProvider => withProvider (return .nothing)
  | .dropProvider => withProvider do
    modify fun s => { s with isProviderHeld := false }
    simulate (Simulation.change fun _ p => (p.letGo, []))
    return .nothing
  | .settle => do
    simulate Simulation.settle
    return .nothing
  | .advance millis => do
    simulate (Simulation.advance millis)
    return .nothing
  | .jump millis => do
    simulate (Simulation.jump millis)
    return .nothing

/-- Take the lines written since the log was last taken, sorted by time and then by text. -/
def takeLog : Play (List LogLine) := do
  let lines := (← get).simulation.log
  simulate (modify fun s => { s with log := [] })
  return lines.mergeSort fun a b => a.time < b.time || (a.time == b.time && a.text ≤ b.text)

/-- Do one step and take the log. -/
def step (command : Command) : Play (Report × List LogLine) := do
  let report ← perform command
  return (report, ← takeLog)

/-! ## Beginning -/

/-- The outfit of a scenario beside its provider. -/
structure Outfit where
  /-- The transport. -/
  transport : Transport
  /-- What is to happen to the attempts to open connections, in order. -/
  script : List Hook
  /-- The events of pools and providers go to the log. -/
  isTracing : Bool

/-- A scenario with a provider that keeps pools. -/
def pooled (config : Config) (outfit : Outfit) : Scenario :=
  let simulation := Simulation.ofSupply (.pooled (.ofConfig config)) outfit.transport outfit.script
    outfit.isTracing
  let event := (Provider.creationEvent config).line config.name
  .ofSimulation ((Simulation.trace event).run simulation).2

/-- A scenario with a provider that opens a connection for every acquisition. -/
def direct (outfit : Outfit) : Scenario :=
  .ofSimulation (.ofSupply (.direct .empty) outfit.transport outfit.script outfit.isTracing)

end Scenario

end ConnectionPool

import ConnectionPool.Simulation.Acquiring

/-!
# Tasks at work

What a task does when it runs, and what is left of it when it is dropped.
-/

namespace ConnectionPool.Simulation

/-- Sweep a site when a sweep is due, and sleep until the next. The sweeps of a site end when its
pool is shut down or no longer alive. -/
def sweepWhenDue (id site : Nat) (interval : Duration) (due : Instant) : Sim Unit := do
  let s ← get
  match s.supply with
  | .direct _ => removeTask id
  | .pooled p =>
    if p.sites[site]?.all (·.pool.closed) || (s.moment.hasFired due && !p.isSiteAlive site) then
      clearTimer (.task id)
      change fun _ p => p.sweepEnded site
      removeTask id
    else if s.moment.hasFired due then
      change fun m p => p.sweep m site
      let next := Sweep.nextAhead interval s.moment due
      setJob id (.sweep site (some next))
      discard (sleepUntil (.task id) next (.task id))
    else setJob id (.sweep site (some due))

/-- Run the sweeps of a site. Sweeps whose first time the clock cannot reach never start. -/
def runSweep (id site : Nat) (due : Option Instant) : Sim Unit := do
  let s ← get
  match s.supply with
  | .direct _ => removeTask id
  | .pooled p =>
    match p.config.sweepInterval, due with
    | none, _ => removeTask id
    | some interval, some due => sweepWhenDue id site interval due
    | some interval, none =>
      match Sweep.first? s.moment.now interval with
      | none => removeTask id
      | some first =>
        discard (sleepUntil (.task id) first (.task id))
        sweepWhenDue id site interval first

/-- The connection of a task is closed. -/
def finishClose (id : Nat) (conn : Connection) (owner : Option SiteConnection) : Sim Unit := do
  modify fun s => { s with transport := s.transport.close }
  write ("closed conn=" ++ toString conn.id)
  match owner with
  | none => pure ()
  | some known => change fun _ p => p.closeFinished known.site known.connection
  removeTask id

/-- Close a connection. -/
def runClose (id : Nat) (conn : Connection) (owner : Option SiteConnection) :
    Option Instant → Sim Unit
  | some wakeAt => do if ← hasFired wakeAt then finishClose id conn owner
  | none => do
    write ("closing conn=" ++ toString conn.id)
    let latency := (← get).transport.closeLatency
    if latency.isZero then finishClose id conn owner
    else
      let wakeAt ← instantIn latency
      setJob id (.close conn owner (some wakeAt))
      if ← sleepUntil (.task id) wakeAt (.task id) then finishClose id conn owner

/-- Open a connection for the queue of a site. -/
def runOpenForQueue (id site opening : Nat) : Sim Unit := do
  match (← get).supply with
  | .direct _ => removeTask id
  | .pooled p =>
    match p.sites[site]? with
    | none => removeTask id
    | some known =>
      match ← pollAttemptOf (.queue site opening) known.destination (.task id) with
      | none => pure ()
      | some (.ok conn) =>
        change fun m p => p.openedForQueue m site opening conn m.now
        removeTask id
      | some (.error failure) =>
        change fun m p => p.openingForQueueFailed m site opening failure
        removeTask id

/-- A task gives back the connection it held. -/
def finishHolding (id : Nat) (label : String) (hold : Option Duration) (lease : Lease) :
    Sim Unit := do
  release lease
  write ("returned " ++ label)
  setJob id (.acquire label hold .returned)

/-- Acquire a connection, and hold it for a while if a time is given. -/
def runAcquire (id : Nat) (label : String) (hold : Option Duration) : AcquireStage → Sim Unit
  | .waiting acquisition => do
    match ← pollAcquisition acquisition (.task id) with
    | none => pure ()
    | some (.error error) =>
      write ("failed " ++ label ++ " " ++ error.message)
      setJob id (.acquire label hold (.ended (.error error)))
    | some (.ok lease) =>
      match (← get).lease? lease with
      | none => pure ()
      | some (entry, _) =>
        write ("got " ++ label ++ " conn=" ++ toString entry.conn.id ++ " id=" ++
          toString entry.info.id ++ " uses=" ++ toString entry.info.acquireCount)
      match hold with
      | none => setJob id (.acquire label hold (.ended (.ok lease)))
      | some time =>
        let wakeAt ← instantIn time
        setJob id (.acquire label hold (.holding lease wakeAt))
        if ← sleepUntil (.task id) wakeAt (.task id) then finishHolding id label hold lease
  | .holding lease wakeAt => do
    if ← hasFired wakeAt then finishHolding id label hold lease
  | .ended _ | .returned => pure ()

/-- The disposal is over. -/
def isDisposalFinished (disposal : Disposal) (s : Simulation) : Bool :=
  match s.supply with
  | .pooled p => p.isDisposalFinished disposal
  | .direct _ => true

/-- Poll a disposal; the answer says whether it is over. -/
def pollDisposal (disposal : Disposal) : Sim Bool := do
  change fun m p => p.pollDisposal m disposal
  return (← get).isDisposalFinished disposal

/-- Wait until a disposal is over. -/
def runDispose (id : Nat) (disposal : Disposal) (label : Option String) : Sim Unit := do
  unless (← get).isDisposalFinished disposal do watchDisposal disposal id
  if ← pollDisposal disposal then
    match label with
    | none => removeTask id
    | some label =>
      write ("disposed " ++ label)
      setJob id (.dispose disposal (some label) true)

/-- Run a job. -/
def runJob (id : Nat) : Job → Sim Unit
  | .sweep site due => runSweep id site due
  | .close conn owner wakeAt => runClose id conn owner wakeAt
  | .openForQueue site opening => runOpenForQueue id site opening
  | .acquire label hold stage => runAcquire id label hold stage
  | .dispose _ _ true => pure ()
  | .dispose disposal label false => runDispose id disposal label

/-- Drop what is left of a job. -/
def dropJob (id : Nat) : Job → Sim Unit
  | .acquire _ _ (.waiting acquisition) => dropAcquisition acquisition
  | .acquire _ _ (.holding lease _) | .acquire _ _ (.ended (.ok lease)) => do
    clearTimer (.task id)
    release lease
  | .dispose disposal _ _ =>
    modify fun s =>
      { s with disposalWatchers := s.disposalWatchers.filter (· != (disposal, id)) }
  | _ => pure ()

/-- Run a task, or drop it if it is to be dropped. -/
def runTask (task : Task) : Sim Unit := do
  if task.isAborted then
    dropJob task.id task.job
    removeTask task.id
  else runJob task.id task.job

/-- Drop a task: at once if it has ended, otherwise at its next run. -/
def abort (id : Nat) : Sim Unit := do
  match (← get).task? id with
  | none => pure ()
  | some task =>
    if task.job.hasEnded then
      dropJob id task.job
      removeTask id
    else
      modify fun s =>
        { s with tasks := s.tasks.map fun task =>
            if task.id == id then { task with isAborted := true } else task }
      enqueue id

/-- Run the next task of the run queue; the answer says whether there was one. -/
def runNext : Sim Bool := do
  let s ← get
  match s.queue with
  | [] => return false
  | id :: queue =>
    set { s with queue, running := some id, isRewoken := false }
    match s.task? id with
    | none => pure ()
    | some task => runTask task
    let isRewoken := (← get).isRewoken
    modify fun s => { s with running := none, isRewoken := false }
    if isRewoken && ((← get).task? id).isSome then enqueue id
    return true

/-- Run tasks until none is to run, for at most a number of runs. -/
def runWithin : Nat → Sim Unit
  | 0 => pure ()
  | runs + 1 => do if ← runNext then runWithin runs

/-- All that can make a task run: tasks, attempts, and what the sites hold. -/
def workload (s : Simulation) : Nat :=
  let tasks := s.tasks.length + s.queue.length + s.attempts.length
  match s.supply with
  | .direct _ => tasks
  | .pooled p =>
    p.sites.foldl (fun total site =>
      total + 1 + site.pool.idle.length + site.pool.pending.length + site.openings.length +
        site.inbox.length + site.leases.length + site.closings.length) tasks

/-- Run tasks until none is to run. A piece of work makes few tasks run, and the bound allows for
many more. -/
def settle : Sim Unit := do
  let work := (← get).workload
  runWithin (16 * (work + 4) * (work + 4))

end ConnectionPool.Simulation

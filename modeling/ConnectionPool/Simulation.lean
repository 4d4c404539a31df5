import ConnectionPool.EventLog
import ConnectionPool.Gate
import ConnectionPool.Sweep
import ConnectionPool.Transport

/-!
# Simulations

A simulation is a provider at work: its transport, the tasks that run for it, and a clock that
stands still until it is moved. Tasks run one after another, each until it has to wait; who is
woken goes to the end of the run queue. Timers are set for whole milliseconds and fire in the order
of their times, then of their setting.

This module holds the state and its smallest changes. How the effects of a change of the provider
are carried out is in `Simulation.Effects`, what tasks do in `Simulation.Tasks`, and how the clock
moves in `Simulation.Time`.
-/

namespace ConnectionPool

/-- The clock of a simulation. It can be ahead of the timers while it is being moved. -/
structure Clock where
  /-- The time in milliseconds. -/
  now : Nat
  /-- The time up to which timers have fired, in milliseconds. -/
  fired : Nat
  /-- No timer fires before its time. -/
  fired_le : fired ≤ now

/-- The clock at the start. -/
def Clock.start : Clock := ⟨0, 0, Nat.le_refl 0⟩

/-- The clock at a time when all timers up to it have fired. -/
def Clock.settled (now : Nat) : Clock := ⟨now, now, Nat.le_refl now⟩

/-- The clock moved forward, ahead of the timers. -/
def Clock.ahead (c : Clock) (now : Nat) : Clock :=
  ⟨max c.now now, c.fired, Nat.le_trans c.fired_le (Nat.le_max_left ..)⟩

/-- A connection in the hands of a caller. -/
inductive Lease where
  /-- The connection belongs to a pool. -/
  | pooled (lease : SiteConnection)
  /-- The connection, under this number, belongs to no pool. -/
  | direct (connection : Nat)
deriving DecidableEq

/-- The provider of a simulation. -/
inductive Supply where
  /-- It keeps pools. -/
  | pooled (provider : Provider)
  /-- It opens a connection for every acquisition. -/
  | direct (provider : Direct)

/-- Who is woken when something happens. -/
inductive Sleeper where
  /-- A task. -/
  | task (id : Nat)
  /-- Those who wait for the end of a site. -/
  | drain (site : Nat)
  /-- Nobody. -/
  | nobody
deriving DecidableEq

/-- What a timer is set for; there is at most one for each. -/
inductive TimerKey where
  /-- An attempt to open a connection. -/
  | attempt (number : Nat)
  /-- The deadline of a queued acquisition. -/
  | request (site request : Nat)
  /-- The end of the grace period of a site. -/
  | grace (site : Nat)
  /-- The pause of a task. -/
  | task (id : Nat)
deriving DecidableEq

/-- A timer that has not fired. -/
structure Timer where
  /-- What it is set for. -/
  key : TimerKey
  /-- The millisecond at which it fires. -/
  due : Nat
  /-- Who is woken then. -/
  sleeper : Sleeper
deriving DecidableEq

/-- What is to happen to one attempt to open a connection. -/
structure Hook where
  /-- A pause before the attempt, in milliseconds. -/
  delay : Option Nat
  /-- A gate to pass before the attempt. -/
  gate : Option String
  /-- A failure without asking the transport. -/
  failure : Option String
  /-- The connection is broken from the start. -/
  isBroken : Bool

/-- Nothing in particular is to happen. -/
def Hook.none : Hook := ⟨.none, .none, .none, false⟩

/-- For whom the transport is asked for a connection. -/
inductive AttemptOwner where
  /-- For an acquisition. -/
  | acquisition (id : Nat)
  /-- For the queue of a site. -/
  | queue (site opening : Nat)
deriving DecidableEq

/-- How far an attempt to open a connection has come. -/
inductive AttemptStage where
  /-- It pauses. -/
  | delayed (wakeAt : Instant)
  /-- It waits at a gate. -/
  | gated (gate : String)
  /-- The transport has been asked, and answers at the given time. -/
  | calling (call : Nat) (wakeAt : Instant)

/-- An attempt to open a connection that has not ended. -/
structure Attempt where
  /-- The number of the attempt, counted from one. -/
  number : Nat
  /-- For whom the connection is. -/
  owner : AttemptOwner
  /-- What to connect to. -/
  destination : Destination
  /-- What is to happen to the attempt. -/
  hook : Hook
  /-- How far it has come. -/
  stage : AttemptStage
  /-- Who is woken when it can go on. -/
  sleeper : Sleeper

/-- How far a task that acquires a connection has come. -/
inductive AcquireStage where
  /-- The acquisition is unfinished. -/
  | waiting (acquisition : Nat)
  /-- The task holds the connection for a while. -/
  | holding (lease : Lease) (wakeAt : Instant)
  /-- The task has ended with this result. -/
  | ended (result : Except PoolError Lease)
  /-- The task has ended and given the connection back. -/
  | returned

/-- What a task does. -/
inductive Job where
  /-- Sweep a site whenever a sweep is due; nothing is due before the first run. -/
  | sweep (site : Nat) (due : Option Instant)
  /-- Close a connection, which may be one that a site is waiting to see closed. -/
  | close (conn : Connection) (owner : Option SiteConnection) (wakeAt : Option Instant)
  /-- Open a connection for the queue of a site. -/
  | openForQueue (site opening : Nat)
  /-- Acquire a connection, and give it back after a while if a time is given. -/
  | acquire (label : String) (hold : Option Duration) (stage : AcquireStage)
  /-- Wait until a disposal is over. -/
  | dispose (disposal : Disposal) (label : Option String) (isFinished : Bool)

/-- The job has ended, and only its result is left. -/
def Job.hasEnded : Job → Bool
  | .acquire _ _ (.ended _) | .acquire _ _ .returned | .dispose _ _ true => true
  | _ => false

/-- A task. -/
structure Task where
  /-- The number of the task. -/
  id : Nat
  /-- What it does. -/
  job : Job
  /-- The task is to be dropped at its next run. -/
  isAborted : Bool

/-- A line of the log. -/
structure LogLine where
  /-- When it was written, in milliseconds. -/
  time : Nat
  /-- The text. -/
  text : String
deriving DecidableEq

/-- A provider at work. -/
structure Simulation where
  /-- The clock. -/
  clock : Clock
  /-- The provider. -/
  supply : Supply
  /-- The transport. -/
  transport : Transport
  /-- What is to happen to the attempts, in order. -/
  script : List Hook
  /-- The attempts begun. -/
  attemptCount : Nat
  /-- The attempts that have not ended. -/
  attempts : List Attempt
  /-- The gates, by name. -/
  gates : List (String × Gate)
  /-- The numbers of the connections that are broken. -/
  broken : List Nat
  /-- The tasks that have not ended, or whose result has not been taken. -/
  tasks : List Task
  /-- The number of the next task. -/
  nextTask : Nat
  /-- The tasks that are to run, the next one first. -/
  queue : List Nat
  /-- The task that is running. -/
  running : Option Nat
  /-- The running task has been woken since it started to run. -/
  isRewoken : Bool
  /-- The timers that have not fired, in the order in which they were set. -/
  timers : List Timer
  /-- The disposals that wait for the end of a site. -/
  drainWatchers : List (Nat × Disposal)
  /-- The tasks that wait for a disposal. -/
  disposalWatchers : List (Disposal × Nat)
  /-- The events of pools and providers go to the log. -/
  isTracing : Bool
  /-- The log since it was last taken, the newest line first. -/
  log : List LogLine

/-- Programs that change a simulation. -/
abbrev Sim := StateM Simulation

namespace Simulation

/-- A simulation before anything has happened. -/
def ofSupply (supply : Supply) (transport : Transport) (script : List Hook) (isTracing : Bool) :
    Simulation :=
  { clock := .start, supply, transport, script, attemptCount := 0, attempts := [], gates := [],
    broken := [], tasks := [], nextTask := 0, queue := [], running := none, isRewoken := false,
    timers := [], drainWatchers := [], disposalWatchers := [], isTracing, log := [] }

/-- The circumstances under which pools act now. -/
def moment (s : Simulation) : Moment :=
  { now := .ofMillis s.clock.now, firedMillis := s.clock.fired,
    healthy := fun conn => !s.broken.contains conn.id,
    fired_le := by
      have := s.clock.fired_le
      simp only [Instant.ofMillis, LE.le]
      exact Int.ofNat_le.mpr (Nat.mul_le_mul_right _ this) }

/-- The task with a number. -/
def task? (id : Nat) (s : Simulation) : Option Task := s.tasks.find? (·.id == id)

/-- The job of the task with a number. -/
def job? (id : Nat) (s : Simulation) : Option Job := (s.task? id).map (·.job)

/-- The task that waits for the acquisition. -/
def waiterOf? (acquisition : Nat) (s : Simulation) : Option Nat :=
  (s.tasks.find? fun task =>
    match task.job with
    | .acquire _ _ (.waiting known) => known == acquisition
    | _ => false).map (·.id)

/-! ## The log -/

/-- Write a line to the log. -/
def write (text : String) : Sim Unit :=
  modify fun s => { s with log := ⟨s.clock.now, text⟩ :: s.log }

/-- Write an event of a pool or a provider to the log, if those are wanted. -/
def trace (line : EventLine) : Sim Unit := do
  if (← get).isTracing then write line.render

/-! ## Tasks and timers -/

/-- Put a task at the end of the run queue, unless it is there. The running task goes there when
its run is over. -/
def enqueue (id : Nat) : Sim Unit :=
  modify fun s =>
    if s.running == some id then { s with isRewoken := true }
    else if s.queue.contains id then s
    else { s with queue := s.queue ++ [id] }

/-- Start a task. -/
def spawn (job : Job) : Sim Nat := do
  let id := (← get).nextTask
  modify fun s => { s with tasks := s.tasks ++ [⟨id, job, false⟩], nextTask := id + 1 }
  enqueue id
  return id

/-- Let a task go on with another job. -/
def setJob (id : Nat) (job : Job) : Sim Unit :=
  modify fun s =>
    { s with tasks := s.tasks.map fun task => if task.id == id then { task with job } else task }

/-- A task is over. -/
def removeTask (id : Nat) : Sim Unit :=
  modify fun s => { s with tasks := s.tasks.filter (·.id != id) }

/-- Wake the tasks that wait for a disposal. -/
def wakeDisposal (disposal : Disposal) : Sim Unit := do
  let woken := (← get).disposalWatchers.filter (·.1 == disposal)
  modify fun s => { s with disposalWatchers := s.disposalWatchers.filter (·.1 != disposal) }
  woken.forM fun (_, id) => enqueue id

/-- Wake those who wait for the end of a site. -/
def wakeDrain (site : Nat) : Sim Unit := do
  let woken := (← get).drainWatchers.filter (·.1 == site)
  modify fun s => { s with drainWatchers := s.drainWatchers.filter (·.1 != site) }
  woken.forM fun (_, disposal) => wakeDisposal disposal

/-- Wake a sleeper. -/
def wake : Sleeper → Sim Unit
  | .task id => enqueue id
  | .drain site => wakeDrain site
  | .nobody => pure ()

/-- A task waits for a disposal. -/
def watchDisposal (disposal : Disposal) (id : Nat) : Sim Unit :=
  modify fun s =>
    if s.disposalWatchers.contains (disposal, id) then s
    else { s with disposalWatchers := s.disposalWatchers ++ [(disposal, id)] }

/-- A disposal waits for the end of a site. -/
def watchDrain (site : Nat) (disposal : Disposal) : Sim Unit :=
  modify fun s =>
    if s.drainWatchers.contains (site, disposal) then s
    else { s with drainWatchers := s.drainWatchers ++ [(site, disposal)] }

/-- Clear a timer. -/
def clearTimer (key : TimerKey) : Sim Unit :=
  modify fun s => { s with timers := s.timers.filter (·.key != key) }

/-- Sleep until an instant. The answer is yes if the timers have already reached it, and otherwise
the timer is set. -/
def sleepUntil (key : TimerKey) (wakeAt : Instant) (sleeper : Sleeper) : Sim Bool := do
  clearTimer key
  if (← get).moment.hasFired wakeAt then return true
  modify fun s => { s with timers := s.timers ++ [⟨key, wakeAt.ceilMillis, sleeper⟩] }
  return false

/-- The timers have reached an instant. -/
def hasFired (wakeAt : Instant) : Sim Bool := return (← get).moment.hasFired wakeAt

/-- The instant a duration from now, or one far away if that is not representable. -/
def instantIn (d : Duration) : Sim Instant := return (← get).moment.now.deadline d

end Simulation

end ConnectionPool

import ConnectionPool.Simulation.Effects

/-!
# Attempts to open connections

An attempt pauses if its hook says so, passes a gate if its hook names one, and then asks the
transport, unless its hook orders a failure. Each of these may make it wait. An attempt that is
dropped leaves the gate and gives up the call.
-/

namespace ConnectionPool.Simulation

/-- What an attempt gives: nothing yet, a failure or a connection. -/
abbrev Answer := Option (Except ConnectFailure Connection)

/-- The attempt has come further. -/
def setStage (number : Nat) (stage : AttemptStage) : Sim Unit :=
  modify fun s =>
    { s with attempts := s.attempts.map fun attempt =>
        if attempt.number == number then { attempt with stage } else attempt }

/-- The attempt is over. -/
def removeAttempt (number : Nat) : Sim Unit :=
  modify fun s => { s with attempts := s.attempts.filter (·.number != number) }

/-- The gate with a name. -/
def gate (name : String) (s : Simulation) : Gate := (s.gates.lookup name).getD .closed

/-- Change a gate. -/
def changeGate (name : String) (change : Gate → α × Gate) : Sim α := do
  let s ← get
  let (report, changed) := change (s.gate name)
  set { s with gates := (name, changed) :: s.gates.filter (·.1 != name) }
  return report

/-- Wake the attempts that were given a permit. -/
def wakeAttempts (numbers : List Nat) : Sim Unit :=
  numbers.forM fun number => do
    match (← get).attempts.find? (·.number == number) with
    | some attempt => wake attempt.sleeper
    | none => pure ()

/-- Add permits to a gate. -/
def openGate (name : String) (count : Nat) : Sim Unit := do
  wakeAttempts (← changeGate name (Gate.grant count))

/-- The attempt ends without a connection. -/
def refuseAttempt (attempt : Attempt) (failure : ConnectFailure) : Sim Answer := do
  removeAttempt attempt.number
  write ("refused #" ++ toString attempt.number ++ " " ++ failure.message)
  return some (.error failure)

/-- The transport answers the attempt. -/
def finishCall (attempt : Attempt) (call : Nat) : Sim Answer := do
  let (answer, transport) := (← get).transport.answer call
  modify fun s => { s with transport }
  match answer with
  | none => return none
  | some (.error failure) => refuseAttempt attempt failure
  | some (.ok conn) =>
    if attempt.hook.isBroken then modify fun s => { s with broken := conn.id :: s.broken }
    removeAttempt attempt.number
    write ("opened #" ++ toString attempt.number ++ " conn=" ++ toString conn.id ++ " " ++
      conn.address)
    return some (.ok conn)

/-- The attempt asks the transport, unless a failure is ordered. -/
def callTransport (attempt : Attempt) : Sim Answer := do
  match attempt.hook.failure with
  | some text => refuseAttempt attempt (.described text)
  | none =>
    let (call, transport) := (← get).transport.begin attempt.destination.address
    modify fun s => { s with transport }
    if transport.connectLatency.isZero then finishCall attempt call
    else
      let wakeAt ← instantIn transport.connectLatency
      setStage attempt.number (.calling call wakeAt)
      if ← sleepUntil (.attempt attempt.number) wakeAt attempt.sleeper then
        finishCall attempt call
      else return none

/-- The attempt comes to its gate, if there is one. -/
def approachGate (attempt : Attempt) : Sim Answer := do
  match attempt.hook.gate with
  | none => callTransport attempt
  | some name =>
    if ← changeGate name (Gate.enter attempt.number) then callTransport attempt
    else
      setStage attempt.number (.gated name)
      return none

/-- Poll an attempt that has begun. -/
def pollAttempt (attempt : Attempt) : Sim Answer := do
  match attempt.stage with
  | .delayed wakeAt => if ← hasFired wakeAt then approachGate attempt else return none
  | .gated name =>
    if ← changeGate name (Gate.pass attempt.number) then callTransport attempt else return none
  | .calling call wakeAt => if ← hasFired wakeAt then finishCall attempt call else return none

/-- Begin an attempt and poll it. -/
def beginAttempt (owner : AttemptOwner) (destination : Destination) (sleeper : Sleeper) :
    Sim Answer := do
  let s ← get
  let number := s.attemptCount + 1
  let hook := (s.script[s.attemptCount]?).getD Hook.none
  let wakeAt ← instantIn (Duration.ofMillis (hook.delay.getD 0))
  let attempt : Attempt := ⟨number, owner, destination, hook, .delayed wakeAt, sleeper⟩
  set { s with attemptCount := number, attempts := s.attempts ++ [attempt] }
  write ("connect #" ++ toString number ++ " " ++ destination.display)
  if hook.delay.isNone then approachGate attempt
  else if ← sleepUntil (.attempt number) wakeAt sleeper then approachGate attempt
  else return none

/-- Poll the attempt made for somebody, and begin it if it has not been made. -/
def pollAttemptOf (owner : AttemptOwner) (destination : Destination) (sleeper : Sleeper) :
    Sim Answer := do
  match (← get).attempts.find? (·.owner == owner) with
  | some attempt => pollAttempt attempt
  | none => beginAttempt owner destination sleeper

/-- Drop the attempt made for somebody. -/
def dropAttemptOf (owner : AttemptOwner) : Sim Unit := do
  match (← get).attempts.find? (·.owner == owner) with
  | none => pure ()
  | some attempt =>
    clearTimer (.attempt attempt.number)
    match attempt.stage with
    | .delayed _ => pure ()
    | .gated name => wakeAttempts (← changeGate name (Gate.leave attempt.number))
    | .calling call _ =>
      modify fun s => { s with transport := s.transport.hangUp call }
    removeAttempt attempt.number

end ConnectionPool.Simulation

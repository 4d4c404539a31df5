import ConnectionPool.Config
import ConnectionPool.Text.Blank

/-!
# Defaults from the surroundings

The built-in defaults, and how two variables of the process override them. A variable that is not
set leaves its default alone; one whose value is not accepted leaves it alone too and gives one
warning. The variables do not influence each other.
-/

namespace ConnectionPool

namespace Defaults

/-- The built-in bound: two connections for each processor, counting at least eight. -/
def builtinMax (processors : Nat) : Limit :=
  .bounded (max processors 8 * 2) (by omega)

/-- The defaults when nothing overrides them. -/
def builtinOn (processors : Nat) : Defaults := ⟨builtinMax processors, Duration.ofMillis 45000⟩

/-- The defaults when nothing overrides them, on a machine with one processor. -/
def builtin : Defaults := builtinOn 1

/-- Defaults that depend neither on the machine nor on its variables. -/
def fixed : Defaults := ⟨.bounded 16 (by decide), Duration.ofSeconds 45⟩

/-- The defaults as a record. -/
def describe (d : Defaults) : String :=
  Text.record "PoolDefaults"
    [("max_connections", d.maxConnections.describe),
      ("acquire_timeout", d.acquireTimeout.describe)]

end Defaults

/-- The variables that override defaults. -/
inductive DefaultsVariable where
  /-- Overrides the bound on connections. -/
  | maxConnections
  /-- Overrides the acquire timeout, in milliseconds. -/
  | acquireTimeout
deriving DecidableEq

/-- The name of the variable. -/
def DefaultsVariable.name : DefaultsVariable → String
  | .maxConnections => "NETPOOL_MAX_CONNECTIONS"
  | .acquireTimeout => "NETPOOL_ACQUIRE_TIMEOUT_MS"

/-- A value that was not accepted for a variable. -/
structure IgnoredDefault where
  /-- The variable. -/
  variableName : DefaultsVariable
  /-- Its value as it was found. -/
  value : String
  /-- Why it was not accepted. -/
  error : PoolError
deriving DecidableEq

/-- The warning as a line of text. -/
def IgnoredDefault.render (w : IgnoredDefault) : String :=
  "WARN ignoring invalid pool default key=" ++ w.variableName.name ++ " value=" ++ w.value ++
    " error=" ++ w.error.message

namespace Defaults

/-- Read a bound on connections. -/
def readMax (raw : String) : Except PoolError Limit :=
  match Text.readInt32 (Text.trimBlank raw.toList) with
  | .error fault => .error (.configuration (.unreadable fault))
  | .ok value => Limit.fromRaw value "max connections"

/-- Read a timeout in milliseconds; `-1` means never to wait. -/
def readTimeout (raw : String) : Except PoolError Duration :=
  match Text.readInt64 (Text.trimBlank raw.toList) with
  | .error fault => .error (.configuration (.unreadable fault))
  | .ok value =>
    if value = -1 then .ok Duration.zero
    else if 0 ≤ value then .ok (Duration.ofMillis value.toNat)
    else .error (.configuration (.timeoutNegative value))

/-- A default after the value of its variable, with the warnings this gives. -/
def override (read : String → Except PoolError α) (variableName : DefaultsVariable)
    (default : α) : Option String → α × List IgnoredDefault
  | none => (default, [])
  | some raw =>
    match read raw with
    | .ok value => (value, [])
    | .error error => (default, [⟨variableName, raw, error⟩])

/-- The defaults for the values of the two variables, and the warnings in order. -/
def readFrom (defaults : Defaults) (maxConnections acquireTimeout : Option String) :
    Defaults × List IgnoredDefault :=
  let (limit, limitWarnings) :=
    override readMax .maxConnections defaults.maxConnections maxConnections
  let (timeout, timeoutWarnings) :=
    override readTimeout .acquireTimeout defaults.acquireTimeout acquireTimeout
  (⟨limit, timeout⟩, limitWarnings ++ timeoutWarnings)

/-- The defaults and warnings on a machine with one processor. -/
def read : Option String → Option String → Defaults × List IgnoredDefault := readFrom builtin

end Defaults

end ConnectionPool

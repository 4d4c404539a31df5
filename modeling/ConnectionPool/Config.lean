import ConnectionPool.Limit

/-!
# Configurations

The settings of a provider, frozen once it is built and shared by all its pools. A configuration
is made from defaults by a list of settings; each setting is checked when it is applied, and a
rejected one leaves the configuration as it was. An elastic pool, one without a bound on its
connections, never waits and never limits its queue at the moment it is made elastic.
-/

namespace ConnectionPool

/-- What a new configuration starts from. -/
structure Defaults where
  /-- The bound on connections for each destination. -/
  maxConnections : Limit
  /-- How long a queued acquisition may wait. -/
  acquireTimeout : Duration
deriving DecidableEq

/-- The settings shared by all pools of one provider. -/
structure Config where
  /-- The name of the provider, shown in every event. -/
  name : String
  /-- The bound on connections for each destination. -/
  maxConnections : Limit
  /-- The bound on queued acquisitions for each destination. -/
  maxPending : Limit
  /-- How long a queued acquisition may wait; zero means never to wait. -/
  acquireTimeout : Duration
  /-- How long a connection may stay idle. -/
  maxIdleTime : Option Duration
  /-- How old a connection may become. -/
  maxLifeTime : Option Duration
  /-- How long a disposal waits for connections that callers hold. -/
  disposeGrace : Option Duration
  /-- The interval between sweeps, when it is set apart from the two limits. -/
  sweepOverride : Option Duration
deriving DecidableEq

/-- One setting of a configuration. Limits are given as raw values. -/
inductive Setting where
  /-- Name the provider. -/
  | name (value : String)
  /-- Bound the connections for each destination. -/
  | maxConnections (raw : Int)
  /-- Bound the queued acquisitions for each destination. -/
  | maxPending (raw : Int)
  /-- Set how long a queued acquisition may wait. -/
  | acquireTimeout (value : Duration)
  /-- Set how long a connection may stay idle. -/
  | maxIdleTime (value : Duration)
  /-- Set how old a connection may become. -/
  | maxLifeTime (value : Duration)
  /-- Set how long a disposal waits for connections that callers hold. -/
  | disposeGrace (value : Duration)
  /-- Set the interval between sweeps apart from the two limits. -/
  | sweepInterval (value : Duration)
deriving DecidableEq

namespace Config

/-- Bound the connections. Without a bound the pool never waits, and its queue is not limited. -/
def withMaxConnections (c : Config) (limit : Limit) : Config :=
  if limit.isUnbounded then
    { c with maxConnections := limit, acquireTimeout := Duration.zero, maxPending := .unbounded }
  else { c with maxConnections := limit }

/-- The configuration that a provider called `name` starts from. -/
def ofDefaults (name : String) (defaults : Defaults) : Config :=
  withMaxConnections
    { name, maxConnections := defaults.maxConnections, maxPending := .unbounded,
      acquireTimeout := defaults.acquireTimeout, maxIdleTime := none, maxLifeTime := none,
      disposeGrace := none, sweepOverride := none }
    defaults.maxConnections

/-- Apply one setting, or say why it is rejected. -/
def apply (c : Config) : Setting → Except PoolError Config
  | .name value => .ok { c with name := value }
  | .maxConnections raw => (Limit.fromRaw raw "max connections").map c.withMaxConnections
  | .maxPending raw =>
    (Limit.fromRaw raw "max pending acquire").map fun limit => { c with maxPending := limit }
  | .acquireTimeout value => .ok { c with acquireTimeout := value }
  | .maxIdleTime value => .ok { c with maxIdleTime := some value }
  | .maxLifeTime value => .ok { c with maxLifeTime := some value }
  | .disposeGrace value => .ok { c with disposeGrace := some value }
  | .sweepInterval value => .ok { c with sweepOverride := some value }

/-- Apply one setting; a rejected one leaves the configuration as it is. -/
def applyOrKeep (c : Config) (setting : Setting) : Config :=
  match c.apply setting with
  | .ok c' => c'
  | .error _ => c

/-- Apply settings in order; a rejected one is passed over. -/
def applyAll (c : Config) (settings : List Setting) : Config := settings.foldl applyOrKeep c

/-- Apply settings in order up to the first rejected one, which decides the outcome. -/
def applyStrictly (c : Config) (settings : List Setting) : Except PoolError Config :=
  settings.foldlM apply c

/-- The outcome of each setting in order, when a rejected one is passed over. -/
def outcomes (c : Config) : List Setting → List (Except PoolError Config)
  | [] => []
  | setting :: rest => c.apply setting :: (c.applyOrKeep setting).outcomes rest

/-- Acquisitions fail instead of waiting. -/
def neverWaits (c : Config) : Bool := c.acquireTimeout.isZero

/-- Acquisitions fail instead of waiting where they may wait for no time at all. -/
theorem neverWaits_iff (c : Config) : c.neverWaits = true ↔ c.acquireTimeout = .zero := by
  cases hnanos : c.acquireTimeout
  simp [neverWaits, Duration.isZero, Duration.zero, hnanos]

/-- The interval that the two limits call for: the shorter of them. -/
def derivedInterval (c : Config) : Option Duration :=
  match c.maxIdleTime, c.maxLifeTime with
  | some idle, some life => some (idle.shorter life)
  | some idle, none => some idle
  | none, some life => some life
  | none, none => none

/-- The interval between sweeps. There is no sweep when neither limit is set, and none when the
interval is zero. -/
def sweepInterval (c : Config) : Option Duration :=
  (c.derivedInterval.map fun derived => c.sweepOverride.getD derived).filter fun d => !d.isZero

/-- The configuration as a record. -/
def describe (c : Config) : String :=
  Text.record "PoolConfig"
    [("name", Text.quoted c.name),
      ("max_connections", c.maxConnections.describe),
      ("max_pending_acquire", c.maxPending.describe),
      ("acquire_timeout", c.acquireTimeout.describe),
      ("max_idle_time", Text.optional Duration.describe c.maxIdleTime),
      ("max_life_time", Text.optional Duration.describe c.maxLifeTime),
      ("dispose_grace_period", Text.optional Duration.describe c.disposeGrace),
      ("eviction_interval", Text.optional Duration.describe c.sweepOverride)]

/-- The configuration inside the builder that collects its settings. -/
def describeBuilder (c : Config) : String :=
  Text.record "ConnectionProviderBuilder" [("config", c.describe)]

end Config

end ConnectionPool

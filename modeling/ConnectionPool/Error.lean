import ConnectionPool.Duration
import ConnectionPool.Text.Quoted

/-!
# Errors

The ways in which an acquisition or a configuration fails, each with its cause, and the words for
them. Whether trying again may help is a property of the error.
-/

namespace ConnectionPool

/-- Why a transport could not open a connection. -/
inductive ConnectFailure where
  /-- The address refuses connections. -/
  | refused (address : String)
  /-- A failure was ordered for the attempt. -/
  | injected (address : String)
  /-- A failure in the transport's own words. -/
  | described (text : String)
  /-- The transport waited for a connection of another pool until its time was up. -/
  | timedOut (limit : Duration)
deriving DecidableEq

/-- Why a configuration is not accepted. -/
inductive ConfigurationFault where
  /-- The raw limit is neither `-1` nor positive. -/
  | limitNotPositive (what : String) (raw : Int)
  /-- The number of milliseconds is negative and not `-1`. -/
  | timeoutNegative (millis : Int)
  /-- The text is not a number of the wanted range. -/
  | unreadable (fault : Text.NumeralFault)
  /-- A fault in other words. -/
  | described (text : String)
deriving DecidableEq

/-- Why a request is not served. Every error resolves exactly one acquisition. -/
inductive PoolError where
  /-- A configuration is not accepted. -/
  | configuration (fault : ConfigurationFault)
  /-- All connections are in use and the pool is configured not to wait. -/
  | poolExhausted (max : Nat)
  /-- The queue of waiting acquisitions is full. -/
  | tooManyPending (max : Nat)
  /-- A queued acquisition was not served in time. -/
  | acquisitionTimeout (limit : Duration)
  /-- The transport could not open a connection. -/
  | connectionCreation (failure : ConnectFailure)
  /-- The pool or the provider is disposed. -/
  | poolClosed
deriving DecidableEq

/-- The message of an acquisition that ran out of time. -/
def timeoutMessage (limit : Duration) : String :=
  "connection acquisition timeout after " ++ limit.describe

/-- The failure in words. -/
def ConnectFailure.message : ConnectFailure → String
  | .refused address => "connection refused by " ++ address
  | .injected address => "injected connect failure for " ++ address
  | .described text => text
  | .timedOut limit => timeoutMessage limit

/-- The fault in words. -/
def ConfigurationFault.message : ConfigurationFault → String
  | .limitNotPositive what raw =>
    what ++ " value must be strictly positive or -1, got " ++ toString raw
  | .timeoutNegative millis => "acquire timeout must be -1 or >= 0, got " ++ toString millis
  | .unreadable fault => fault.message
  | .described text => text

namespace PoolError

/-- The error in words. -/
def message : PoolError → String
  | .configuration fault => "pool configuration error: " ++ fault.message
  | .poolExhausted max =>
    "connection pool exhausted: maximum connections (" ++ toString max ++ ") reached"
  | .tooManyPending max =>
    "too many pending acquisitions: queue limit (" ++ toString max ++ ") reached"
  | .acquisitionTimeout limit => timeoutMessage limit
  | .connectionCreation failure => "failed to create connection: " ++ failure.message
  | .poolClosed => "pool is closed"

/-- A later attempt may succeed. -/
def isTransient : PoolError → Bool
  | .poolExhausted _ | .tooManyPending _ | .acquisitionTimeout _ | .connectionCreation _ => true
  | .configuration _ | .poolClosed => false

/-- The error comes from the disposal of the pool. -/
def isClosed : PoolError → Bool
  | .poolClosed => true
  | _ => false

/-- The failure of the transport behind the error. -/
def source? : PoolError → Option ConnectFailure
  | .connectionCreation failure => some failure
  | _ => none

end PoolError

end ConnectionPool

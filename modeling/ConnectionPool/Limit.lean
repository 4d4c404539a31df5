import ConnectionPool.Error

/-!
# Limits

An upper bound that may be switched off. Raw values follow one convention everywhere: `-1` switches
the bound off and any other value has to be positive.
-/

namespace ConnectionPool

/-- An upper bound that may be switched off. -/
inductive Limit where
  /-- There is no bound. -/
  | unbounded
  /-- At most `max` items, and at least one. -/
  | bounded (max : Nat) (positive : 0 < max)
deriving DecidableEq

namespace Limit

/-- Without further word there is no bound. -/
instance : Inhabited Limit := ⟨.unbounded⟩

/-- The limit of a raw value; `what` names the value in the error. -/
def fromRaw (raw : Int) (what : String) : Except PoolError Limit :=
  if raw = -1 then .ok .unbounded
  else if h : 0 < raw then .ok (.bounded raw.toNat (by omega))
  else .error (.configuration (.limitNotPositive what raw))

/-- The bound, if there is one. -/
def get : Limit → Option Nat
  | .unbounded => none
  | .bounded max _ => some max

/-- One more item fits when `current` are already counted. -/
def admits : Limit → Nat → Bool
  | .unbounded, _ => true
  | .bounded max _, current => current < max

/-- There is no bound. -/
def isUnbounded : Limit → Bool
  | .unbounded => true
  | .bounded .. => false

/-- How many of `wanted` further items fit when `current` are already counted. -/
def room (limit : Limit) (current wanted : Nat) : Nat :=
  match limit with
  | .unbounded => wanted
  | .bounded max _ => min wanted (max - current)

/-- A bound admits what stays below it. -/
@[simp]
theorem admits_bounded {max : Nat} (positive : 0 < max) (current : Nat) :
    (bounded max positive).admits current = true ↔ current < max := by
  simp [admits]

/-- There is no more room than is wanted. -/
theorem room_le (limit : Limit) (current wanted : Nat) : limit.room current wanted ≤ wanted := by
  cases limit with
  | unbounded => exact Nat.le_refl wanted
  | bounded max _ => exact Nat.min_le_left wanted (max - current)

/-- The limit in messages. -/
def display : Limit → String
  | .unbounded => "unbounded"
  | .bounded max _ => toString max

/-- The limit as a value. -/
def describe : Limit → String
  | .unbounded => "Unbounded"
  | .bounded max _ => Text.variant "Bounded" (toString max)

end Limit

end ConnectionPool

/-!
# Durations

A length of time, exact to the nanosecond, and its two written forms: the decimal number of
seconds with nine places, which can be read back, and the short form with a unit, which is what
messages show.
-/

namespace ConnectionPool

/-- A length of time, exact to the nanosecond. -/
structure Duration where
  /-- The length in nanoseconds. -/
  nanos : Nat
deriving DecidableEq, Inhabited

namespace Duration

/-- Nanoseconds in a second. -/
def nanosPerSecond : Nat := 1000000000

/-- Nanoseconds in a millisecond. -/
def nanosPerMilli : Nat := 1000000

/-- The empty duration. -/
def zero : Duration := ⟨0⟩

/-- A duration of whole seconds. -/
def ofSeconds (seconds : Nat) : Duration := ⟨seconds * nanosPerSecond⟩

/-- A duration of whole milliseconds. -/
def ofMillis (millis : Nat) : Duration := ⟨millis * nanosPerMilli⟩

/-- Thirty years of 365 days. A deadline that cannot be represented is moved to this distance. -/
def farFuture : Duration := ofSeconds (86400 * 365 * 30)

/-- Durations are ordered by length. -/
instance : LE Duration := ⟨fun a b => a.nanos ≤ b.nanos⟩

/-- Durations are ordered by length. -/
instance : LT Duration := ⟨fun a b => a.nanos < b.nanos⟩

/-- The order on durations is decidable. -/
instance (a b : Duration) : Decidable (a ≤ b) := Nat.decLe a.nanos b.nanos

/-- The strict order on durations is decidable. -/
instance (a b : Duration) : Decidable (a < b) := Nat.decLt a.nanos b.nanos

/-- The shorter of two durations. -/
def shorter (a b : Duration) : Duration := if a ≤ b then a else b

/-- The duration is empty. -/
def isZero (d : Duration) : Bool := d.nanos == 0

/-- A number written with at least `width` digits, with leading zeros where it is shorter. -/
def paddedDigits (width n : Nat) : List Char :=
  let digits := (toString n).toList
  List.replicate (width - digits.length) '0' ++ digits

/-- Digits without the zeros at their end. -/
def dropTrailingZeros (digits : List Char) : List Char :=
  (digits.reverse.dropWhile (· == '0')).reverse

/-- The duration as seconds with exactly nine decimal places. -/
def toDecimal (d : Duration) : String :=
  toString (d.nanos / nanosPerSecond) ++ "." ++
    String.ofList (paddedDigits 9 (d.nanos % nanosPerSecond))

/-- The number written by decimal digits, or nothing if another character occurs. -/
def digitsValue? (digits : List Char) : Option Nat :=
  digits.foldl (fun value c => value.bind fun n =>
    if c.isDigit then some (10 * n + (c.toNat - '0'.toNat)) else none) (some 0)

/-- The number of different 64-bit words, which bounds the seconds of a duration. -/
def secondsBound : Nat := 18446744073709551616

/-- Read seconds with exactly nine decimal places. -/
def ofDecimal? (text : String) : Option Duration :=
  match text.toList.span (· != '.') with
  | (whole, '.' :: fraction) =>
    if whole.isEmpty || fraction.length != 9 then none
    else do
      let seconds ← digitsValue? whole
      let nanos ← digitsValue? fraction
      if seconds < secondsBound then some ⟨seconds * nanosPerSecond + nanos⟩ else none
  | _ => none

/-- A number of `unit`s, each `size` nanoseconds long, with the exact fraction of at most `places`
digits. -/
def inUnit (nanos size places : Nat) (unit : String) : String :=
  let fraction := dropTrailingZeros (paddedDigits places (nanos % size))
  toString (nanos / size) ++
    (if fraction.isEmpty then "" else "." ++ String.ofList fraction) ++ unit

/-- The short form: the largest unit in which the whole part is not zero, and the exact fraction
without trailing zeros. -/
def describe (d : Duration) : String :=
  if nanosPerSecond ≤ d.nanos then inUnit d.nanos nanosPerSecond 9 "s"
  else if nanosPerMilli ≤ d.nanos then inUnit d.nanos nanosPerMilli 6 "ms"
  else if 1000 ≤ d.nanos then inUnit d.nanos 1000 3 "µs"
  else toString d.nanos ++ "ns"

end Duration

end ConnectionPool

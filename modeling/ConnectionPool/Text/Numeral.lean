/-!
# Numerals

Reading a signed decimal number into a fixed range, with the cause when it cannot be read, and
writing a 64-bit word in hexadecimal.
-/

namespace ConnectionPool.Text

/-- Why a text is not a number of the wanted range. -/
inductive NumeralFault where
  /-- There is no character. -/
  | empty
  /-- A character is not a digit, or a sign stands alone. -/
  | invalidDigit
  /-- The number is above the range. -/
  | tooLarge
  /-- The number is below the range. -/
  | tooSmall
deriving DecidableEq

/-- The fault in words. -/
def NumeralFault.message : NumeralFault → String
  | .empty => "cannot parse integer from empty string"
  | .invalidDigit => "invalid digit found in string"
  | .tooLarge => "number too large to fit in target type"
  | .tooSmall => "number too small to fit in target type"

/-- The value of an ASCII digit. -/
def digitValue? (c : Char) : Option Nat :=
  if '0' ≤ c ∧ c ≤ '9' then some (c.toNat - '0'.toNat) else none

/-- Continue a number with further digits, which count towards zero or away from it as `negative`
says. The first character that is no digit, or the first digit that leaves the range, ends the
reading. -/
def readDigits (lowest highest : Int) (negative : Bool) : Int → List Char → Except NumeralFault Int
  | value, [] => .ok value
  | value, c :: rest =>
    match digitValue? c with
    | none => .error .invalidDigit
    | some digit =>
      let next := if negative then 10 * value - digit else 10 * value + digit
      if next < lowest then .error .tooSmall
      else if highest < next then .error .tooLarge
      else readDigits lowest highest negative next rest

/-- Read an optional sign and one or more ASCII digits. -/
def readInteger (lowest highest : Int) (text : List Char) : Except NumeralFault Int :=
  match text with
  | [] => .error .empty
  | ['+'] | ['-'] => .error .invalidDigit
  | '+' :: digits => readDigits lowest highest false 0 digits
  | '-' :: digits => readDigits lowest highest true 0 digits
  | digits => readDigits lowest highest false 0 digits

/-- Read a signed 32-bit number. -/
def readInt32 (text : List Char) : Except NumeralFault Int :=
  readInteger (-2147483648) 2147483647 text

/-- Read a signed 64-bit number. -/
def readInt64 (text : List Char) : Except NumeralFault Int :=
  readInteger (-9223372036854775808) 9223372036854775807 text

/-- The sixteen lower-case hexadecimal digits of a word, the highest first. -/
def hexWord (word : UInt64) : String :=
  let digits := Nat.toDigits 16 word.toNat
  String.ofList (List.replicate (16 - digits.length) '0' ++ digits)

/-- The lower-case hexadecimal digits of a number, without leading zeros. -/
def hexDigits (n : Nat) : String := String.ofList (Nat.toDigits 16 n)

end ConnectionPool.Text

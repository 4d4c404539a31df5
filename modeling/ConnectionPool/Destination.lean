import ConnectionPool.SipHash
import ConnectionPool.Text.Quoted

/-!
# Destinations

A destination is an address together with a fingerprint of the transport settings used to reach
it. Settings are mixed into the fingerprint one after another: each mixing hashes the fingerprint
so far followed by the bytes of the setting.
-/

namespace ConnectionPool

/-- A value of a transport setting. -/
inductive TransportSetting where
  /-- A text. -/
  | text (value : String)
  /-- A character, by its code point. -/
  | char (value : Char)
  /-- A truth value. -/
  | bool (value : Bool)
  /-- A whole number kept in `width` bytes. -/
  | integer (width : Nat) (value : Int)
  /-- A value without content. -/
  | unit
  /-- A sequence of bytes with its length. -/
  | bytes (value : List UInt8)
  /-- A sequence with its length. -/
  | list (elements : List TransportSetting)
  /-- A sequence of known length. -/
  | tuple (elements : List TransportSetting)
  /-- A missing value. -/
  | none
  /-- A value that is present. -/
  | some (value : TransportSetting)

/-- The `width` lowest bytes of a number in two's complement, the lowest first. -/
def littleEndian : Nat → Int → List UInt8
  | 0, _ => []
  | width + 1, value => UInt8.ofNat (value % 256).toNat :: littleEndian width (value / 256)

namespace TransportSetting

mutual

/-- The bytes that stand for a setting in the fingerprint. -/
def stream : TransportSetting → List UInt8
  | .text value => value.toUTF8.toList ++ [0xff]
  | .char value => littleEndian 4 value.toNat
  | .bool value => [if value then 1 else 0]
  | .integer width value => littleEndian width value
  | .unit => []
  | .bytes value => littleEndian 8 value.length ++ value
  | .list elements => littleEndian 8 elements.length ++ streamAll elements
  | .tuple elements => streamAll elements
  | .none => littleEndian 8 0
  | .some value => littleEndian 8 1 ++ stream value

/-- The bytes of several settings, one after another. -/
def streamAll : List TransportSetting → List UInt8
  | [] => []
  | first :: rest => stream first ++ streamAll rest

end

end TransportSetting

/-- What a pool connects to: an address and the fingerprint of the transport settings. -/
structure Destination where
  /-- The address. -/
  address : String
  /-- The fingerprint of the settings, zero when there are none. -/
  fingerprint : UInt64
deriving DecidableEq, Inhabited

namespace Destination

/-- An address reached with no particular settings. -/
def ofAddress (address : String) : Destination := ⟨address, 0⟩

/-- The same address with one more setting mixed in. -/
def withSetting (d : Destination) (setting : TransportSetting) : Destination :=
  { d with fingerprint := SipHash.hash (littleEndian 8 d.fingerprint.toNat ++ setting.stream) }

/-- The address, followed by the fingerprint unless it is zero. -/
def display (d : Destination) : String :=
  if d.fingerprint == 0 then d.address
  else d.address ++ "#" ++ Text.hexWord d.fingerprint

/-- The destination as a record. -/
def describe (d : Destination) : String :=
  Text.record "DestinationKey"
    [("address", Text.quoted d.address), ("fingerprint", "0x" ++ Text.hexWord d.fingerprint)]

/-- The index of the first destination of the list that equals `d`. -/
def firstIndex (destinations : List Destination) (d : Destination) : Nat :=
  destinations.findIdx (· == d)

/-- The number of different destinations in the list. -/
def countDistinct (destinations : List Destination) : Nat := destinations.eraseDups.length

end Destination

end ConnectionPool

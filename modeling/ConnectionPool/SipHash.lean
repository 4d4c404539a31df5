/-!
# SipHash-1-3

The keyed hash with one compression round for each word and three closing rounds, under the zero
key. The message is a list of bytes; its length modulo 256 is part of the last word.
-/

namespace ConnectionPool.SipHash

/-- The four words of the internal state. -/
structure State where
  /-- The first word. -/
  v0 : UInt64
  /-- The second word. -/
  v1 : UInt64
  /-- The third word. -/
  v2 : UInt64
  /-- The fourth word. -/
  v3 : UInt64

/-- Rotate a word to the left by an amount between 1 and 63. -/
def rotate (x : UInt64) (amount : UInt64) : UInt64 :=
  (x <<< amount) ||| (x >>> (64 - amount))

namespace State

/-- The state before any word, under the zero key. -/
def initial : State :=
  ⟨0x736f6d6570736575, 0x646f72616e646f6d, 0x6c7967656e657261, 0x7465646279746573⟩

/-- One round. -/
def round (s : State) : State :=
  let a0 := s.v0 + s.v1
  let a1 := rotate s.v1 13 ^^^ a0
  let a0 := rotate a0 32
  let a2 := s.v2 + s.v3
  let a3 := rotate s.v3 16 ^^^ a2
  let b0 := a0 + a3
  let b3 := rotate a3 21 ^^^ b0
  let b2 := a2 + a1
  let b1 := rotate a1 17 ^^^ b2
  let b2 := rotate b2 32
  ⟨b0, b1, b2, b3⟩

/-- Mix one word of the message into the state. -/
def absorb (s : State) (word : UInt64) : State :=
  let mixed := round { s with v3 := s.v3 ^^^ word }
  { mixed with v0 := mixed.v0 ^^^ word }

/-- The hash of the words mixed in so far. -/
def finish (s : State) : UInt64 :=
  let closed := round (round (round { s with v2 := s.v2 ^^^ 0xff }))
  closed.v0 ^^^ closed.v1 ^^^ closed.v2 ^^^ closed.v3

end State

/-- The word of at most eight bytes, the first byte lowest. -/
def word (bytes : List UInt8) : UInt64 :=
  bytes.foldr (fun byte rest => (rest <<< 8) ||| byte.toUInt64) 0

/-- Mix the whole words of a message into the state, and close with the bytes left over and the
length. -/
def absorbAll (length : Nat) : State → List UInt8 → State
  | s, b0 :: b1 :: b2 :: b3 :: b4 :: b5 :: b6 :: b7 :: rest =>
    absorbAll length (s.absorb (word [b0, b1, b2, b3, b4, b5, b6, b7])) rest
  | s, tail => s.absorb (word tail ||| ((UInt64.ofNat (length % 256)) <<< 56))

/-- The hash of a message under the zero key. -/
def hash (message : List UInt8) : UInt64 :=
  (absorbAll message.length State.initial message).finish

end ConnectionPool.SipHash

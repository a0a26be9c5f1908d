import ExLibp2p.Data.Bytes

namespace ExLibp2p.Data

/-! SipHash with one round for each word and three at the end. -/

namespace SipHash

structure State where
  v0 : UInt64
  v1 : UInt64
  v2 : UInt64
  v3 : UInt64

def rotateLeft (word count : UInt64) : UInt64 :=
  word <<< count ||| word >>> (64 - count)

def sipRound (state : State) : State :=
  let v0 := state.v0 + state.v1
  let v1 := rotateLeft state.v1 13 ^^^ v0
  let v0 := rotateLeft v0 32
  let v2 := state.v2 + state.v3
  let v3 := rotateLeft state.v3 16 ^^^ v2
  let v0 := v0 + v3
  let v3 := rotateLeft v3 21 ^^^ v0
  let v2 := v2 + v1
  let v1 := rotateLeft v1 17 ^^^ v2
  let v2 := rotateLeft v2 32
  { v0, v1, v2, v3 }

def absorb (state : State) (word : UInt64) : State :=
  let mixed := sipRound { state with v3 := state.v3 ^^^ word }
  { mixed with v0 := mixed.v0 ^^^ word }

def littleEndian : Bytes → UInt64
  | [] => 0
  | byte :: rest => byte.toUInt64 ||| littleEndian rest <<< 8

/-- The last word carries the length of the whole text in its highest byte. -/
def absorbAll (length : Nat) (state : State) : Bytes → State
  | b0 :: b1 :: b2 :: b3 :: b4 :: b5 :: b6 :: b7 :: rest =>
      absorbAll length
        (absorb state (littleEndian [b0, b1, b2, b3, b4, b5, b6, b7])) rest
  | rest => absorb state (UInt64.ofNat length <<< 56 ||| littleEndian rest)

def finish (state : State) : UInt64 :=
  let last := sipRound (sipRound (sipRound { state with v2 := state.v2 ^^^ 0xff }))
  last.v0 ^^^ last.v1 ^^^ last.v2 ^^^ last.v3

def hash (bytes : Bytes) : UInt64 :=
  let start : State :=
    { v0 := 0x736f6d6570736575
      v1 := 0x646f72616e646f6d
      v2 := 0x6c7967656e657261
      v3 := 0x7465646279746573 }
  finish (absorbAll bytes.length start bytes)

end SipHash

end ExLibp2p.Data

import SqlWire.Crypto.Block

/-!
# SHA-256

The digest of 32 bytes, over big-endian words. The sixteen words of a block are stretched to 64,
and each of the 64 steps mixes one of them and one constant into the eight words of the state.
-/
namespace SqlWire.Crypto.Sha256

/-- The eight words of the state. -/
structure State where
  /-- First word. -/
  a : UInt32
  /-- Second word. -/
  b : UInt32
  /-- Third word. -/
  c : UInt32
  /-- Fourth word. -/
  d : UInt32
  /-- Fifth word. -/
  e : UInt32
  /-- Sixth word. -/
  f : UInt32
  /-- Seventh word. -/
  g : UInt32
  /-- Eighth word. -/
  h : UInt32

/-- The state before the first block. -/
def initial : State :=
  ⟨0x6A09E667, 0xBB67AE85, 0x3C6EF372, 0xA54FF53A, 0x510E527F, 0x9B05688C, 0x1F83D9AB,
    0x5BE0CD19⟩

/-- The constant of each step. -/
def constants : List UInt32 :=
  [0x428A2F98, 0x71374491, 0xB5C0FBCF, 0xE9B5DBA5, 0x3956C25B, 0x59F111F1, 0x923F82A4,
    0xAB1C5ED5, 0xD807AA98, 0x12835B01, 0x243185BE, 0x550C7DC3, 0x72BE5D74, 0x80DEB1FE,
    0x9BDC06A7, 0xC19BF174, 0xE49B69C1, 0xEFBE4786, 0x0FC19DC6, 0x240CA1CC, 0x2DE92C6F,
    0x4A7484AA, 0x5CB0A9DC, 0x76F988DA, 0x983E5152, 0xA831C66D, 0xB00327C8, 0xBF597FC7,
    0xC6E00BF3, 0xD5A79147, 0x06CA6351, 0x14292967, 0x27B70A85, 0x2E1B2138, 0x4D2C6DFC,
    0x53380D13, 0x650A7354, 0x766A0ABB, 0x81C2C92E, 0x92722C85, 0xA2BFE8A1, 0xA81A664B,
    0xC24B8B70, 0xC76C51A3, 0xD192E819, 0xD6990624, 0xF40E3585, 0x106AA070, 0x19A4C116,
    0x1E376C08, 0x2748774C, 0x34B0BCB5, 0x391C0CB3, 0x4ED8AA4A, 0x5B9CCA4F, 0x682E6FF3,
    0x748F82EE, 0x78A5636F, 0x84C87814, 0x8CC70208, 0x90BEFFFA, 0xA4506CEB, 0xBEF9A3F7,
    0xC67178F2]

/-- The next word of the stretched block, from words two, seven, fifteen and sixteen back. -/
def nextWord (schedule : Array UInt32) (index : Nat) : UInt32 :=
  let near := schedule.getD (index + 14) 0
  let far := schedule.getD (index + 1) 0
  let low := rotateRight far 7 ^^^ rotateRight far 18 ^^^ (far >>> 3)
  let high := rotateRight near 17 ^^^ rotateRight near 19 ^^^ (near >>> 10)
  schedule.getD index 0 + low + schedule.getD (index + 9) 0 + high

/-- The 64 words of a stretched block. -/
def schedule (block : Bytes) : List UInt32 :=
  ((List.range 48).foldl (fun words index => words.push (nextWord words index))
    (words .big block).toArray).toList

/-- One step with its constant and word. -/
def step (state : State) (input : UInt32 × UInt32) : State :=
  let high := rotateRight state.e 6 ^^^ rotateRight state.e 11 ^^^ rotateRight state.e 25
  let choice := (state.e &&& state.f) ^^^ (~~~ state.e &&& state.g)
  let first := state.h + high + choice + input.1 + input.2
  let low := rotateRight state.a 2 ^^^ rotateRight state.a 13 ^^^ rotateRight state.a 22
  let majority := (state.a &&& state.b) ^^^ (state.a &&& state.c) ^^^ (state.b &&& state.c)
  ⟨first + low + majority, state.a, state.b, state.c, state.d + first, state.e, state.f, state.g⟩

/-- The state after one more block. -/
def compress (state : State) (block : Bytes) : State :=
  let last := (constants.zip (schedule block)).foldl step state
  ⟨state.a + last.a, state.b + last.b, state.c + last.c, state.d + last.d, state.e + last.e,
    state.f + last.f, state.g + last.g, state.h + last.h⟩

/-- The words of a state as bytes. -/
def State.bytes (state : State) : Bytes :=
  [state.a, state.b, state.c, state.d, state.e, state.f, state.g, state.h].flatMap
    ByteOrder.big.u32

/-- The digest of a message. -/
def hash (message : Bytes) : Bytes :=
  ((blocks (padMessage .big message)).foldl compress initial).bytes

end SqlWire.Crypto.Sha256

import SqlWire.Crypto.Block

/-!
# MD5

The digest of sixteen bytes, over little-endian words. Each of the 64 steps mixes one word of the
block into the four words of the state; the rounds of sixteen steps differ in the mixing function,
in the order in which they visit the words and in the amounts by which they turn.
-/
namespace SqlWire.Crypto.Md5

/-- The four words of the state. -/
structure State where
  /-- First word. -/
  a : UInt32
  /-- Second word. -/
  b : UInt32
  /-- Third word. -/
  c : UInt32
  /-- Fourth word. -/
  d : UInt32

/-- The state before the first block. -/
def initial : State := ⟨0x67452301, 0xEFCDAB89, 0x98BADCFE, 0x10325476⟩

/-- The constant of each step. -/
def constants : List UInt32 :=
  [0xD76AA478, 0xE8C7B756, 0x242070DB, 0xC1BDCEEE, 0xF57C0FAF, 0x4787C62A, 0xA8304613,
    0xFD469501, 0x698098D8, 0x8B44F7AF, 0xFFFF5BB1, 0x895CD7BE, 0x6B901122, 0xFD987193,
    0xA679438E, 0x49B40821, 0xF61E2562, 0xC040B340, 0x265E5A51, 0xE9B6C7AA, 0xD62F105D,
    0x02441453, 0xD8A1E681, 0xE7D3FBC8, 0x21E1CDE6, 0xC33707D6, 0xF4D50D87, 0x455A14ED,
    0xA9E3E905, 0xFCEFA3F8, 0x676F02D9, 0x8D2A4C8A, 0xFFFA3942, 0x8771F681, 0x6D9D6122,
    0xFDE5380C, 0xA4BEEA44, 0x4BDECFA9, 0xF6BB4B60, 0xBEBFBC70, 0x289B7EC6, 0xEAA127FA,
    0xD4EF3085, 0x04881D05, 0xD9D4D039, 0xE6DB99E5, 0x1FA27CF8, 0xC4AC5665, 0xF4292244,
    0x432AFF97, 0xAB9423A7, 0xFC93A039, 0x655B59C3, 0x8F0CCC92, 0xFFEFF47D, 0x85845DD1,
    0x6FA87E4F, 0xFE2CE6E0, 0xA3014314, 0x4E0811A1, 0xF7537E82, 0xBD3AF235, 0x2AD7D2BB,
    0xEB86D391]

/-- The amounts to turn by in a round, used four times over. -/
def turns (round : Nat) : List UInt32 :=
  match round with
  | 0 => [7, 12, 17, 22]
  | 1 => [5, 9, 14, 20]
  | 2 => [4, 11, 16, 23]
  | _ => [6, 10, 15, 21]

/-- The mixing function of a round, and the index of the word that a step of it uses. -/
def mix (state : State) (step : Nat) : UInt32 × Nat :=
  match step / 16 with
  | 0 => ((state.b &&& state.c) ||| (~~~ state.b &&& state.d), step)
  | 1 => ((state.d &&& state.b) ||| (~~~ state.d &&& state.c), (5 * step + 1) % 16)
  | 2 => (state.b ^^^ state.c ^^^ state.d, (3 * step + 5) % 16)
  | _ => (state.c ^^^ (state.b ||| ~~~ state.d), 7 * step % 16)

/-- One step with its constant. -/
def step (block : Array UInt32) (state : State) (indexed : UInt32 × Nat) : State :=
  let (mixed, index) := mix state indexed.2
  let turn := (turns (indexed.2 / 16)).getD (indexed.2 % 4) 0
  let sum := mixed + state.a + indexed.1 + block.getD index 0
  ⟨state.d, state.b + rotateLeft sum turn, state.b, state.c⟩

/-- The state after one more block. -/
def compress (state : State) (block : Bytes) : State :=
  let last := (constants.zipIdx).foldl (step (words .little block).toArray) state
  ⟨state.a + last.a, state.b + last.b, state.c + last.c, state.d + last.d⟩

/-- The digest of a message. -/
def hash (message : Bytes) : Bytes :=
  let last := (blocks (padMessage .little message)).foldl compress initial
  [last.a, last.b, last.c, last.d].flatMap ByteOrder.little.u32

end SqlWire.Crypto.Md5

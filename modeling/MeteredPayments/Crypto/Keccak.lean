/-!
# Keccak-256

The hash of Ethereum: the Keccak sponge over the 1600-bit permutation with a rate of 136 bytes
and the plain Keccak padding (a 1 bit after the message, a 1 bit at the end of the block, with
no domain bits as SHA-3 has),
squeezed to 32 bytes. A state is a string of 1600 bits, read as a number: 25 lanes of 64 bits,
lane `x + 5 * y` at column `x` and row `y` in bits `64 * (x + 5 * y)` on; bytes enter and leave
the state least significant first.
-/

namespace MeteredPayments.Keccak

/-- The round constants of the 24 rounds. -/
def roundConstants : List Nat :=
  [0x0000000000000001, 0x0000000000008082, 0x800000000000808A, 0x8000000080008000,
   0x000000000000808B, 0x0000000080000001, 0x8000000080008081, 0x8000000000008009,
   0x000000000000008A, 0x0000000000000088, 0x0000000080008009, 0x000000008000000A,
   0x000000008000808B, 0x800000000000008B, 0x8000000000008089, 0x8000000000008003,
   0x8000000000008002, 0x8000000000000080, 0x000000000000800A, 0x800000008000000A,
   0x8000000080008081, 0x8000000000008080, 0x0000000080000001, 0x8000000080008008]

/-- The rotation of lane `x + 5 * y`, listed by lane. -/
def rotations : List Nat :=
  [0, 1, 62, 28, 27,
   36, 44, 6, 55, 20,
   3, 10, 43, 25, 39,
   41, 45, 15, 21, 8,
   18, 2, 61, 56, 14]

/-- The 64 bits of a lane. -/
def laneMask : Nat := Nat.pow 2 64 - 1

/-- Rotates a lane left by `amount` bits, `amount < 64`. -/
def rotateLeft (lane amount : Nat) : Nat :=
  ((lane <<< amount) &&& laneMask) ||| (lane >>> (64 - amount))

/-- Lane `index` of a state. -/
def lane (state index : Nat) : Nat := (state >>> (64 * index)) &&& laneMask

/-- The state whose lane `index` is `lanes index`, for the 25 lanes. -/
def ofLanes (lanes : Nat → Nat) : Nat :=
  (List.range 25).foldr (fun index state => (state <<< 64) ||| lanes index) 0

/-- One round: θ, ρ and π, χ, ι. -/
def round (state constant : Nat) : Nat :=
  -- θ: the parity of each column, in lanes 0 to 4
  let columns := ofLanes fun x =>
    if x < 5 then
      lane state x ^^^ lane state (x + 5) ^^^ lane state (x + 10) ^^^ lane state (x + 15) ^^^
        lane state (x + 20)
    else 0
  let mixed := ofLanes fun index =>
    let x := index % 5
    lane state index ^^^ lane columns ((x + 4) % 5) ^^^ rotateLeft (lane columns ((x + 1) % 5)) 1
  -- ρ and π: lane (x, y) moves to (y, 2x + 3y), rotated by its offset.
  let moved := ofLanes fun index =>
    let x := index % 5
    let y := index / 5
    -- the lane that lands at (x, y) comes from (x', y') with x = y' and y = 2x' + 3y'
    let source := (x + 3 * y) % 5 + 5 * x
    rotateLeft (lane mixed source) (rotations.getD source 0)
  let chi := ofLanes fun index =>
    let x := index % 5
    let row := index - x
    lane moved index ^^^
      ((laneMask ^^^ lane moved (row + (x + 1) % 5)) &&& lane moved (row + (x + 2) % 5))
  chi ^^^ constant

/-- The Keccak-f[1600] permutation: the 24 rounds in order. -/
def permute (state : Nat) : Nat :=
  roundConstants.foldl round state

/-- The number whose bytes, least significant first, are `bytes`. -/
def littleEndian (bytes : List UInt8) : Nat :=
  bytes.foldr (fun byte value => (value <<< 8) ||| byte.toNat) 0

/-- Bytes absorbed per permutation. -/
def rate : Nat := 136

/-- The padding of a message of `size` bytes: a `0x01` after it, zeros, and `0x80` in the last
byte of the block, the two marks in one byte when only one byte is left. -/
def padding (size : Nat) : List UInt8 :=
  match rate - size % rate with
  | 1 => [0x81]
  | length => 0x01 :: List.replicate (length - 2) 0 ++ [0x80]

/-- The message with its padding. -/
def pad (message : ByteArray) : List UInt8 :=
  message.data.toList ++ padding message.size

/-- Absorbs the next `count` blocks of `padded`: each is added into the first 136 bytes of the
state, which is then permuted. -/
def absorb : Nat → List UInt8 → Nat → Nat
  | 0, _, state => state
  | count + 1, padded, state =>
    absorb count (padded.drop rate) (permute (state ^^^ littleEndian (padded.take rate)))

/-- The Keccak-256 hash of a message. -/
def hash (message : ByteArray) : ByteArray :=
  let padded := pad message
  let state := absorb (padded.length / rate) padded 0
  ByteArray.mk ((List.range 32).map fun index => (state >>> (8 * index)).toUInt8).toArray

end MeteredPayments.Keccak

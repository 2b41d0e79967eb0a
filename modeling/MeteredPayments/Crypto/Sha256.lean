/-!
# SHA-256 and HMAC-SHA-256

SHA-256 as FIPS 180-4 defines it, on 32-bit words read big-endian from 64-byte blocks, and the
keyed hash HMAC over it (RFC 2104), which drives the deterministic choice of signing nonces.
-/

namespace MeteredPayments.Sha256

/-- The round constants. -/
def roundConstants : Array UInt32 :=
  #[0x428a2f98, 0x71374491, 0xb5c0fbcf, 0xe9b5dba5, 0x3956c25b, 0x59f111f1, 0x923f82a4, 0xab1c5ed5,
    0xd807aa98, 0x12835b01, 0x243185be, 0x550c7dc3, 0x72be5d74, 0x80deb1fe, 0x9bdc06a7, 0xc19bf174,
    0xe49b69c1, 0xefbe4786, 0x0fc19dc6, 0x240ca1cc, 0x2de92c6f, 0x4a7484aa, 0x5cb0a9dc, 0x76f988da,
    0x983e5152, 0xa831c66d, 0xb00327c8, 0xbf597fc7, 0xc6e00bf3, 0xd5a79147, 0x06ca6351, 0x14292967,
    0x27b70a85, 0x2e1b2138, 0x4d2c6dfc, 0x53380d13, 0x650a7354, 0x766a0abb, 0x81c2c92e, 0x92722c85,
    0xa2bfe8a1, 0xa81a664b, 0xc24b8b70, 0xc76c51a3, 0xd192e819, 0xd6990624, 0xf40e3585, 0x106aa070,
    0x19a4c116, 0x1e376c08, 0x2748774c, 0x34b0bcb5, 0x391c0cb3, 0x4ed8aa4a, 0x5b9cca4f, 0x682e6ff3,
    0x748f82ee, 0x78a5636f, 0x84c87814, 0x8cc70208, 0x90befffa, 0xa4506ceb, 0xbef9a3f7, 0xc67178f2]

/-- The initial hash value. -/
def initial : Array UInt32 :=
  #[0x6a09e667, 0xbb67ae85, 0x3c6ef372, 0xa54ff53a, 0x510e527f, 0x9b05688c, 0x1f83d9ab, 0x5be0cd19]

/-- Rotates a word right by `amount` bits, `0 < amount < 32`. -/
def rotateRight (word : UInt32) (amount : UInt32) : UInt32 :=
  (word >>> amount) ||| (word <<< (32 - amount))

/-- The word made of the four bytes from `offset` on, most significant first. -/
def wordAt (bytes : ByteArray) (offset : Nat) : UInt32 :=
  (List.range 4).foldl (fun word index => (word <<< 8) ||| (bytes[offset + index]?.getD 0).toUInt32) 0

/-- The message schedule of the block at `offset`: 16 words read, 48 derived. -/
def schedule (bytes : ByteArray) (offset : Nat) : Array UInt32 :=
  (List.range 48).foldl
    (fun words index =>
      let earlier := fun (back : Nat) => words.getD (index + 16 - back) 0
      let early := earlier 15
      let late := earlier 2
      let sigma0 := rotateRight early 7 ^^^ rotateRight early 18 ^^^ (early >>> 3)
      let sigma1 := rotateRight late 17 ^^^ rotateRight late 19 ^^^ (late >>> 10)
      words.push (earlier 16 + sigma0 + earlier 7 + sigma1))
    ((List.range 16).map fun index => wordAt bytes (offset + 4 * index)).toArray

/-- One compression of the block at `offset` into the hash value. -/
def compress (bytes : ByteArray) (value : Array UInt32) (offset : Nat) : Array UInt32 :=
  let words := schedule bytes offset
  let final := (List.range 64).foldl
    (fun (state : Array UInt32) index =>
      let get := fun (position : Nat) => state.getD position 0
      let e := get 4
      let a := get 0
      let sum1 := rotateRight e 6 ^^^ rotateRight e 11 ^^^ rotateRight e 25
      let choice := (e &&& get 5) ^^^ ((~~~ e) &&& get 6)
      let first := get 7 + sum1 + choice + roundConstants.getD index 0 + words.getD index 0
      let sum0 := rotateRight a 2 ^^^ rotateRight a 13 ^^^ rotateRight a 22
      let majority := (a &&& get 1) ^^^ (a &&& get 2) ^^^ (get 1 &&& get 2)
      let second := sum0 + majority
      #[first + second, a, get 1, get 2, get 3 + first, e, get 5, get 6])
    value
  Array.ofFn fun (position : Fin 8) => value.getD position 0 + final.getD position 0

/-- The message with its padding: a `0x80`, zeros, and the bit length in eight bytes, to a
multiple of 64 bytes. -/
def pad (message : ByteArray) : ByteArray :=
  let zeros := (119 - message.size % 64) % 64
  let length := 8 * message.size
  message ++ ByteArray.mk ((0x80 : UInt8) :: List.replicate zeros (0 : UInt8) ++
    (List.range 8).reverse.map fun index => (length >>> (8 * index)).toUInt8).toArray

/-- The SHA-256 hash of a message. -/
def hash (message : ByteArray) : ByteArray :=
  let padded := pad message
  let value := (List.range (padded.size / 64)).foldl
    (fun value block => compress padded value (64 * block)) initial
  ByteArray.mk (value.toList.flatMap fun (word : UInt32) =>
    [(word >>> 24).toUInt8, (word >>> 16).toUInt8, (word >>> 8).toUInt8, word.toUInt8]).toArray

/-- HMAC-SHA-256 of `message` under `key`. -/
def hmac (key message : ByteArray) : ByteArray :=
  let block := if key.size > 64 then hash key else key
  let block := block ++ ByteArray.mk (Array.replicate (64 - block.size) 0)
  let inner := ByteArray.mk (block.data.map (· ^^^ 0x36))
  let outer := ByteArray.mk (block.data.map (· ^^^ 0x5c))
  hash (outer ++ hash (inner ++ message))

end MeteredPayments.Sha256

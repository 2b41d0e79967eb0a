/-!
# Big-endian numbers

Numbers as byte strings, most significant byte first, as hashes, keys, signatures and
Ethereum's ABI encode them: `ofNat width value` writes the `width` low bytes of `value`, and
`toNat` reads any byte string back.
-/

namespace MeteredPayments.BigEndian

/-- The `width` low bytes of `value`, most significant first. -/
def ofNat (width value : Nat) : ByteArray :=
  ByteArray.mk ((List.range width).reverse.map fun index => (value >>> (8 * index)).toUInt8).toArray

/-- The number a byte string stands for, most significant byte first. -/
def toNat (bytes : ByteArray) : Nat :=
  bytes.foldl (fun value byte => 256 * value + byte.toNat) 0

/-- A 32-byte word. -/
def word (value : Nat) : ByteArray := ofNat 32 value

end MeteredPayments.BigEndian

import MeteredPayments.Bytes.Hex
import MeteredPayments.Crypto.Keccak

/-!
# Addresses

An account address is 20 bytes, here the number they stand for, big-endian. Records write it in
lowercase hexadecimal; sentences write it with the mixed-case checksum of EIP-55, where a letter
is upper case exactly when the matching digit of the Keccak-256 hash of the lowercase form is 8 or
more. Addresses are ordered as their bytes are, which is the order of the numbers.
-/

namespace MeteredPayments

/-- A 20-byte account address. -/
structure Address where
  /-- The address as a big-endian number. -/
  toNat : Nat
  /-- Twenty bytes. -/
  isLt : toNat < Nat.pow 2 160
deriving DecidableEq

namespace Address

/-- The address of twenty zero bytes. -/
def zero : Address := ⟨0, by decide⟩

instance : Inhabited Address := ⟨zero⟩

instance : LT Address := ⟨fun left right => left.toNat < right.toNat⟩

instance (left right : Address) : Decidable (left < right) :=
  inferInstanceAs (Decidable (left.toNat < right.toNat))

/-- The address of the low 20 bytes of a number. -/
def ofNat (value : Nat) : Address := ⟨value % Nat.pow 2 160, Nat.mod_lt _ (by decide)⟩

/-- The twenty bytes. -/
def toBytes (address : Address) : ByteArray := BigEndian.ofNat 20 address.toNat

/-- The record form: `0x` and 40 lowercase digits. -/
def toHex (address : Address) : String := Hex.encode address.toBytes

/-- The EIP-55 form: `0x` and 40 digits whose letters carry the checksum. -/
def checksummed (address : Address) : String :=
  let digits := (Hex.encode address.toBytes).toList.drop 2
  let hash := Keccak.hash (String.ofList digits).toUTF8
  let nibble := fun (index : Nat) =>
    let byte := (hash[index / 2]?.getD 0).toNat
    if index % 2 = 0 then byte / 16 else byte % 16
  String.ofList ('0' :: 'x' :: digits.zipIdx.map fun (digit, index) =>
    if nibble index ≥ 8 then digit.toUpper else digit)

instance : ToString Address := ⟨checksummed⟩

/-- Reads 40 hexadecimal digits, with or without `0x`, in either case. -/
def parse (input : String) : Except HexError Address := do
  let bytes ← Hex.decode input (some 20)
  pure (ofNat (BigEndian.toNat bytes))

/-- The address of a public key: the last 20 bytes of the Keccak-256 hash of its two 32-byte
coordinates. -/
def ofPublicKey (key : Nat × Nat) : Address :=
  ofNat (BigEndian.toNat (Keccak.hash (BigEndian.word key.1 ++ BigEndian.word key.2)))

end Address

end MeteredPayments

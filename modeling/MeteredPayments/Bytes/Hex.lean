import MeteredPayments.Bytes.BigEndian
import MeteredPayments.Text.Quoted

/-!
# Hexadecimal text

Byte strings are written as `0x` and two lowercase digits per byte. Reading takes an optional
`0x` or `0X`, then checks an even number of digits, the length wanted and every digit, in this
order, reporting the first bad digit with its byte place after the prefix.
-/

namespace MeteredPayments

/-- Why a text is not the hexadecimal form of a byte string. -/
inductive HexError where
  /-- An odd number of digits. -/
  | oddLength
  /-- A number of bytes other than the one wanted. -/
  | invalidStringLength
  /-- A byte that is no hexadecimal digit, with its place after the prefix. -/
  | invalidCharacter (character : Char) (index : Nat)
deriving DecidableEq, Repr

/-- The sentence that reports a hexadecimal error. -/
def HexError.message : HexError → String
  | .oddLength => "odd number of digits"
  | .invalidStringLength => "invalid string length"
  | .invalidCharacter character index =>
    s!"invalid character {Text.quoteChar character} at position {index}"

namespace Hex

/-- The value of a hexadecimal digit, either case. -/
def digitValue (byte : UInt8) : Option Nat :=
  if 48 ≤ byte ∧ byte ≤ 57 then some (byte.toNat - 48)
  else if 97 ≤ byte ∧ byte ≤ 102 then some (byte.toNat - 87)
  else if 65 ≤ byte ∧ byte ≤ 70 then some (byte.toNat - 55)
  else none

/-- The bytes of a text without a leading `0x` or `0X`. -/
def digitsOf (input : String) : List UInt8 :=
  match input.toUTF8.data.toList with
  | 48 :: 120 :: rest => rest
  | 48 :: 88 :: rest => rest
  | bytes => bytes

/-- The bytes written by pairs of digits. -/
def pairs : List UInt8 → Option (List UInt8)
  | high :: low :: rest => do
    let highValue ← digitValue high
    let lowValue ← digitValue low
    let tail ← pairs rest
    pure ((16 * highValue + lowValue).toUInt8 :: tail)
  | _ => some []

/-- The first byte that is no digit, with its place. -/
def firstBadDigit (digits : List UInt8) : Option (UInt8 × Nat) :=
  (digits.zipIdx.find? fun (byte, _) => (digitValue byte).isNone)

/-- Reads the bytes of a hexadecimal text; `width` asks for exactly that many. -/
def decode (input : String) (width : Option Nat) : Except HexError ByteArray :=
  let digits := digitsOf input
  if digits.length % 2 = 1 then .error .oddLength
  else if width.any (· ≠ digits.length / 2) then .error .invalidStringLength
  else
    match firstBadDigit digits with
    | some (byte, index) => .error (.invalidCharacter (Char.ofNat byte.toNat) index)
    | none => .ok (ByteArray.mk ((pairs digits).getD []).toArray)

/-- Two lowercase digits. -/
def byteDigits (byte : UInt8) : List Char :=
  let digits := Nat.toDigits 16 byte.toNat
  if digits.length = 1 then '0' :: digits else digits

/-- `0x` and two lowercase digits per byte. -/
def encode (bytes : ByteArray) : String :=
  String.ofList ('0' :: 'x' :: bytes.data.toList.flatMap byteDigits)

/-- `0x` and the lowercase digits of a number without leading zeros. -/
def ofNat (value : Nat) : String := "0x" ++ String.ofList (Nat.toDigits 16 value)

end Hex

end MeteredPayments

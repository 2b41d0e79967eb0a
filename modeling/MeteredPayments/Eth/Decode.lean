import MeteredPayments.Bytes.Hex
import MeteredPayments.Eth.Address
import MeteredPayments.Json.Decode

/-!
# Reading Ethereum values from JSON

Fixed-size byte strings (hashes, addresses) are read from a hexadecimal string of exactly the
right length or from an array of that many bytes; byte strings of any size from a hexadecimal
string or an array of bytes; unsigned words of 64 or 256 bits from an integer of up to 128 bits or
from a string of digits, hexadecimal after `0x`, octal after `0o`, binary after `0b` and decimal
otherwise, with underscores ignored.
-/

namespace MeteredPayments.Json

/-- The bytes of an array of numbers below 256. -/
def byteArray (items : List Json) : Except String (List UInt8) :=
  items.mapM fun item => (fun value => value.toUInt8) <$> unsigned 8 "u8" item

/-- Exactly `width` bytes: a hexadecimal string or an array of bytes. -/
def fixedBytes (width : Nat) : Decoder ByteArray
  | .string text => (Hex.decode text (some width)).mapError HexError.message
  | .array items =>
    -- the elements are read one by one; a surplus element that is a byte is refused
    let lengthError := fun (count : Nat) => s!"invalid length {count}, expected exactly {width} bytes"
    match (items.take width).mapM (unsigned 8 "u8") with
    | .error message => .error message
    | .ok values =>
      if values.length < width then .error (lengthError values.length)
      else
        match items.drop width with
        | [] => .ok (ByteArray.mk (values.map (·.toUInt8)).toArray)
        | extra :: rest =>
          match unsigned 8 "u8" extra with
          | .ok _ => .error (lengthError (width + 1))
          | .error _ =>
            if rest.isEmpty then .ok (ByteArray.mk (values.map (·.toUInt8)).toArray)
            else .error s!"invalid length {items.length}, expected fewer elements in array"
  | other => .error (invalidType (unexpectedAny other)
      s!"{width} bytes, represented as a hex string of length {2 * width}, an array of u8, or raw bytes")

/-- Bytes of any number: a hexadecimal string or an array of bytes. -/
def variableBytes : Decoder ByteArray
  | .string text =>
    match Hex.decode text none with
    | .ok bytes => .ok bytes
    | .error _ => .error (invalidValue (.string text) "a valid hex string")
  | .array items => (fun bytes => ByteArray.mk bytes.toArray) <$> byteArray items
  | other => .error (invalidType (unexpectedAny other)
      "a variable number of bytes represented as a hex string, an array of u8, or raw bytes")

/-- The value of a digit in bases up to 36. -/
def digitValue (character : Char) : Option Nat :=
  if '0' ≤ character ∧ character ≤ '9' then some (character.toNat - '0'.toNat)
  else if 'a' ≤ character ∧ character ≤ 'z' then some (character.toNat - 'a'.toNat + 10)
  else if 'A' ≤ character ∧ character ≤ 'Z' then some (character.toNat - 'A'.toNat + 10)
  else none

/-- The number written by `digits` in `base`, underscores ignored, if it is below `limit`. -/
def digitsValue (base limit : Nat) (digits : List Char) : Option Nat :=
  digits.foldlM (fun value character =>
    if character = '_' then some value
    else do
      let digit ← digitValue character
      if digit < base ∧ base * value + digit < limit then some (base * value + digit) else none) 0

/-- Reads an unsigned number of `bits` bits from text: a base prefix, then digits. -/
def wordOfText (bits : Nat) (text : String) : Option Nat :=
  match text.toList with
  | '0' :: 'x' :: rest | '0' :: 'X' :: rest => digitsValue 16 (Nat.pow 2 bits) rest
  | '0' :: 'o' :: rest | '0' :: 'O' :: rest => digitsValue 8 (Nat.pow 2 bits) rest
  | '0' :: 'b' :: rest | '0' :: 'B' :: rest => digitsValue 2 (Nat.pow 2 bits) rest
  | digits => digitsValue 10 (Nat.pow 2 bits) digits

/-- The value of an integer that an unsigned word of `bits` bits takes, or why it cannot. -/
def fitWord (bits value : Nat) : Except String Nat :=
  if value < Nat.pow 2 bits then .ok value else .error s!"Value is too large for Uint<{bits}>"

/-- An unsigned word of `bits` bits, a multiple of 8: an integer of up to 128 bits, or text. -/
def word (bits : Nat) : Decoder Nat
  | .string text =>
    match wordOfText bits text with
    | some value => .ok value
    | none => .error (invalidValue (.string text) s!"a {bits / 8} byte hex string")
  | other =>
    match unexpectedAny other with
    | .unsigned value => fitWord bits value
    | .unsigned128 value => fitWord bits value
    | found => .error (invalidType found s!"a {bits / 8} byte hex string")

/-- An account address. -/
def address : Decoder Address := fun value => do
  let bytes ← fixedBytes 20 value
  pure (Address.ofNat (BigEndian.toNat bytes))

end MeteredPayments.Json

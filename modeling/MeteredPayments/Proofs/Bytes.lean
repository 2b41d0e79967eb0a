import Mathlib
import MeteredPayments.Eth.Address

/-!
# Bytes written and read back

Big-endian numbers and hexadecimal text read back as what was written, so the record form of an
address, `0x` and lowercase digits, reads as the address (`Address.parse_toHex`).
-/

namespace MeteredPayments

/-- The fold over a byte array walks its bytes in order, as the fold over its array does. -/
theorem ByteArray.foldlM_loop_eq {β : Type} (f : β → UInt8 → Id β) (bytes : ByteArray)
    (stop : Nat) (bounded : stop ≤ bytes.size) (bounded' : stop ≤ bytes.data.size)
    (count index : Nat) (value : β) :
    ByteArray.foldlM.loop f bytes stop bounded count index value =
      Array.foldlM.loop f bytes.data stop bounded' count index value := by
  induction count generalizing index value with
  | zero => simp [ByteArray.foldlM.loop, Array.foldlM.loop]
  | succ count induction =>
      rw [ByteArray.foldlM.loop, Array.foldlM.loop]
      split
      · simp only [bind, induction]
        rfl
      · rfl

theorem ByteArray.foldl_eq_foldl_toList {β : Type} (f : β → UInt8 → β) (init : β)
    (bytes : ByteArray) : bytes.foldl f init = bytes.data.toList.foldl f init := by
  rw [Array.foldl_toList]
  unfold ByteArray.foldl ByteArray.foldlM Array.foldl Array.foldlM
  simp only [Nat.le_refl, dite_true, Id.run, ByteArray.size_data]
  exact ByteArray.foldlM_loop_eq _ _ _ _ _ _ _ _

namespace BigEndian

/-- Reading bytes after a value shifts that value past them. -/
theorem foldl_digits (bytes : List UInt8) (start : Nat) :
    bytes.foldl (fun value byte => 256 * value + byte.toNat) start =
      start * 256 ^ bytes.length + bytes.foldl (fun value byte => 256 * value + byte.toNat) 0 := by
  induction bytes generalizing start with
  | nil => simp
  | cons byte rest induction =>
      simp only [List.foldl_cons, List.length_cons]
      rw [induction, induction (256 * 0 + byte.toNat), pow_succ]
      ring

@[simp] theorem size_ofNat (width value : Nat) : (ofNat width value).size = width := by
  simp [ofNat, ByteArray.size]

/-- The bytes of a number from the `width`-th down to the last read as the number modulo
`256 ^ width`. -/
theorem foldl_low_bytes (width value : Nat) :
    ((List.range width).reverse.map fun index => (value >>> (8 * index)).toUInt8).foldl
      (fun value byte => 256 * value + byte.toNat) 0 = value % 256 ^ width := by
  induction width with
  | zero => simp [Nat.mod_one]
  | succ width induction =>
      rw [List.range_succ, List.reverse_append, List.reverse_singleton, List.singleton_append,
        List.map_cons, List.foldl_cons, foldl_digits, induction, List.length_map,
        List.length_reverse, List.length_range]
      -- the leading byte is the digit of `256 ^ width` in base 256
      have leading : (value >>> (8 * width)).toUInt8.toNat = value / 256 ^ width % 256 := by
        rw [Nat.toUInt8, UInt8.toNat_ofNat', Nat.shiftRight_eq_div_pow, pow_mul]
        norm_num
      rw [leading, pow_succ, Nat.mod_mul]
      ring

/-- The `width` low bytes of a number read back as the number modulo `256 ^ width`. -/
theorem toNat_ofNat (width value : Nat) : toNat (ofNat width value) = value % 256 ^ width := by
  have written : (ofNat width value).data.toList =
      (List.range width).reverse.map fun index => (value >>> (8 * index)).toUInt8 := by
    simp [ofNat]
  rw [toNat, ByteArray.foldl_eq_foldl_toList, written, foldl_low_bytes]

@[simp] theorem size_word (value : Nat) : (word value).size = 32 := size_ofNat 32 value

/-- A number below `2^256` reads back from its 32-byte word. -/
theorem toNat_word {value : Nat} (fits : value < 2 ^ 256) : toNat (word value) = value := by
  rw [word, toNat_ofNat]
  exact Nat.mod_eq_of_lt (by simpa using fits)

end BigEndian

namespace Hex

/-- The byte of the text of one lowercase hexadecimal digit. -/
def digitByte (digit : Nat) : UInt8 := (Nat.digitChar digit).toNat.toUInt8

/-- The two text bytes of the digits of one byte. -/
def byteText (byte : UInt8) : List UInt8 :=
  [digitByte (byte.toNat / 16), digitByte (byte.toNat % 16)]

theorem byteDigits_eq (byte : UInt8) :
    byteDigits byte = [Nat.digitChar (byte.toNat / 16), Nat.digitChar (byte.toNat % 16)] := by
  have small := byte.toNat_lt
  unfold byteDigits
  by_cases low : byte.toNat < 16
  · rw [Nat.toDigits_of_lt_base low]
    simp [Nat.div_eq_of_lt low, Nat.mod_eq_of_lt low]
  · rw [Nat.toDigits_of_base_le (by decide) (by omega),
      Nat.toDigits_of_lt_base (n := byte.toNat / 16) (by omega)]
    simp

/-- A digit is one byte of text. -/
theorem utf8EncodeChar_digitChar : ∀ digit < 16,
    String.utf8EncodeChar (Nat.digitChar digit) = [digitByte digit] := by
  decide

theorem digitValue_digitByte : ∀ digit < 16, digitValue (digitByte digit) = some digit := by
  decide

theorem digitsOf_encode (bytes : ByteArray) :
    digitsOf (encode bytes) = bytes.data.toList.flatMap byteText := by
  have digits : ∀ byte : UInt8,
      (byteDigits byte).flatMap String.utf8EncodeChar = byteText byte := by
    intro byte
    have small := byte.toNat_lt
    rw [byteDigits_eq, byteText, List.flatMap_cons, List.flatMap_cons, List.flatMap_nil,
      utf8EncodeChar_digitChar _ (by omega), utf8EncodeChar_digitChar _ (by omega)]
    rfl
  simp only [digitsOf, encode, String.toUTF8_eq_toByteArray, String.toByteArray_ofList,
    List.utf8Encode, List.toList_data_toByteArray, List.flatMap_cons, List.flatMap_assoc, digits]
  rfl

theorem pairs_flatMap_byteText (bytes : List UInt8) :
    pairs (bytes.flatMap byteText) = some bytes := by
  induction bytes with
  | nil => rfl
  | cons byte rest induction =>
      have small := byte.toNat_lt
      have whole : (16 * (byte.toNat / 16) + byte.toNat % 16).toUInt8 = byte := by
        rw [Nat.div_add_mod]
        exact UInt8.ofNat_toNat
      simp only [byteText, List.flatMap_cons, List.cons_append, List.nil_append, pairs,
        digitValue_digitByte _ (show byte.toNat / 16 < 16 by omega),
        digitValue_digitByte _ (show byte.toNat % 16 < 16 by omega), induction]
      change some ((16 * (byte.toNat / 16) + byte.toNat % 16).toUInt8 :: rest) =
        some (byte :: rest)
      rw [whole]

theorem firstBadDigit_flatMap_byteText (bytes : List UInt8) :
    firstBadDigit (bytes.flatMap byteText) = none := by
  rw [firstBadDigit, List.find?_eq_none]
  rintro ⟨digit, index⟩ member
  obtain ⟨byte, -, written⟩ := List.mem_flatMap.mp (List.fst_mem_of_mem_zipIdx member)
  have small := byte.toNat_lt
  simp only [byteText, List.mem_cons, List.not_mem_nil, or_false] at written
  rcases written with same | same <;> rw [same] <;>
    simp [digitValue_digitByte _ (show byte.toNat / 16 < 16 by omega),
      digitValue_digitByte _ (show byte.toNat % 16 < 16 by omega)]

/-- Reading the text written for a byte string, at its own width, gives the bytes back. -/
theorem decode_encode (bytes : ByteArray) :
    decode (encode bytes) (some bytes.size) = .ok bytes := by
  have length : (bytes.data.toList.flatMap byteText).length = 2 * bytes.size := by
    rw [List.length_flatMap]
    simp only [byteText, List.length_cons, List.length_nil, Nat.zero_add, List.map_const',
      List.sum_replicate, smul_eq_mul, Array.length_toList, ByteArray.size_data]
    omega
  unfold decode
  dsimp only
  rw [digitsOf_encode, length, firstBadDigit_flatMap_byteText, pairs_flatMap_byteText]
  simp

end Hex

namespace Address

@[simp] theorem size_toBytes (address : Address) : address.toBytes.size = 20 :=
  BigEndian.size_ofNat 20 address.toNat

/-- The twenty bytes of an address read back as the address. -/
theorem ofNat_toNat_toBytes (address : Address) :
    ofNat (BigEndian.toNat address.toBytes) = address := by
  obtain ⟨number, bounded⟩ := address
  have fits : number % 256 ^ 20 = number := Nat.mod_eq_of_lt (by simpa using bounded)
  simp only [ofNat, toBytes, BigEndian.toNat_ofNat, fits, mk.injEq]
  exact Nat.mod_eq_of_lt bounded

/-- The record form of an address reads back as the address. -/
theorem parse_toHex (address : Address) : parse address.toHex = .ok address := by
  unfold parse toHex
  rw [← size_toBytes address, Hex.decode_encode]
  change Except.ok (ofNat (BigEndian.toNat address.toBytes)) = .ok address
  rw [ofNat_toNat_toBytes]

/-- The record form of an address is `0x` followed by lowercase digits. -/
theorem toHex_toList (address : Address) :
    address.toHex.toList = '0' :: 'x' :: address.toBytes.data.toList.flatMap fun byte =>
      [Nat.digitChar (byte.toNat / 16), Nat.digitChar (byte.toNat % 16)] := by
  have digits : Hex.byteDigits = fun byte : UInt8 =>
      [Nat.digitChar (byte.toNat / 16), Nat.digitChar (byte.toNat % 16)] :=
    funext Hex.byteDigits_eq
  simp only [toHex, Hex.encode, String.toList_ofList, digits]

/-- Every character of the record form of an address is `x` or a digit. -/
theorem mem_toHex {address : Address} {character : Char}
    (member : character ∈ address.toHex.toList) :
    character = 'x' ∨ ∃ digit < 16, character = Nat.digitChar digit := by
  rw [toHex_toList] at member
  rcases List.mem_cons.mp member with zero | rest
  · exact .inr ⟨0, by decide, zero⟩
  rcases List.mem_cons.mp rest with ex | digits
  · exact .inl ex
  obtain ⟨byte, -, written⟩ := List.mem_flatMap.mp digits
  have small := byte.toNat_lt
  simp only [List.mem_cons, List.not_mem_nil, or_false] at written
  rcases written with high | low
  · exact .inr ⟨_, by omega, high⟩
  · exact .inr ⟨_, by omega, low⟩

end Address

end MeteredPayments

import Mathlib
import MeteredPayments.Proofs.Decimal
import MeteredPayments.Json.Write
import MeteredPayments.Price.Document

/-!
# Prices in JSON text

A price written into JSON as a quoted decimal text is read back from its opening quote, stopping
right after the closing one (`readPrice_written`, `decimal_text_round_trips`).
-/

namespace MeteredPayments

/-! ## Reading a string -/

namespace Json.Reader

variable {text : ByteArray}

/-- Skipping from `start` stops at `stop` when every byte in between is kept and the byte at
`stop`, if there is one, is not. -/
theorem skipFrom_eq {keep : UInt8 → Bool} {start stop : Nat} (le : start ≤ stop)
    (within : stop ≤ text.size)
    (kept : ∀ index (lt : index < text.size), start ≤ index → index < stop → keep text[index])
    (stops : ∀ lt : stop < text.size, keep text[stop] = false) :
    skipFrom text keep start = stop := by
  fun_induction skipFrom text keep start with
  | case1 index lt keeps induction =>
      -- the byte at `index` is kept, so `index` is not yet `stop`
      have before : index ≠ stop := by
        rintro rfl
        rw [stops lt] at keeps
        contradiction
      exact induction (by omega) fun other lt' low high => kept other lt' (by omega) high
  | case2 index lt refuses =>
      by_contra differs
      rw [kept index lt (Nat.le_refl index) (by omega)] at refuses
      contradiction
  | case3 index beyond => omega

/-- A byte that may stand unescaped inside a string: no quote, no backslash, no control byte. -/
def plainByte (byte : UInt8) : Prop := byte ≠ 34 ∧ byte ≠ 92 ∧ 32 ≤ byte

/-- A string whose bytes are plain up to its closing quote at `stop` is read in one piece: the
reader decodes the bytes read so far and the plain ones, and stops after the quote. -/
theorem stringBody_plain {fuel : Nat} {bytes : List UInt8} {start stop : Nat} (le : start ≤ stop)
    (plain : ∀ index (lt : index < text.size), start ≤ index → index < stop → plainByte text[index])
    (closing : text[stop]? = some 34) :
    (stringBody text (fuel + 1) bytes).run start =
      .ok ((String.fromUTF8? ⟨(bytes ++ (text.extract start stop).data.toList).toArray⟩).getD "")
        (stop + 1) := by
  obtain ⟨inside, quote⟩ := getElem?_eq_some_iff.mp closing
  have skipped : skipFrom text (fun byte => byte ≠ 34 ∧ byte ≠ 92 ∧ 32 ≤ byte) start = stop :=
    skipFrom_eq le inside.le (fun index lt low high => decide_eq_true (plain index lt low high))
      (fun lt => by simp [quote])
  rw [stringBody]
  simp only [EStateM.run_bind, EStateM.run_get, skipped, EStateM.run_set, closing]
  rfl

theorem fromUTF8?_toByteArray (body : String) : String.fromUTF8? body.toByteArray = some body := by
  rw [String.fromUTF8?, dif_pos body.isValidUTF8]
  rfl

end Json.Reader

/-! ## Writing a price -/

namespace Json

/-- A printable character other than the quote and the backslash is written as itself. -/
theorem escapeCharacter_of_plain {character : Char} (quote : character ≠ '"')
    (backslash : character ≠ '\\') (printable : 0x20 ≤ character.toNat) :
    escapeCharacter character = character.toString := by
  unfold escapeCharacter
  split
  · exact absurd rfl quote
  · exact absurd rfl backslash
  · simp at printable
  · simp at printable
  · simp at printable
  · rw [if_neg (by omega), if_neg (by omega), if_neg (by omega)]

/-- A text with no quote, backslash or control character is written between two quotes as it
is. -/
theorem quoteString_of_plain {text : String}
    (plain : ∀ character ∈ text.toList,
      character ≠ '"' ∧ character ≠ '\\' ∧ 0x20 ≤ character.toNat) :
    quoteString text = "\"" ++ text ++ "\"" := by
  have escaped : ∀ characters : List Char, (∀ character ∈ characters,
      character ≠ '"' ∧ character ≠ '\\' ∧ 0x20 ≤ character.toNat) →
      (String.join (characters.map escapeCharacter)).toList = characters := by
    intro characters
    induction characters with
    | nil => intro _; rfl
    | cons first rest induction =>
        intro all
        obtain ⟨quote, backslash, printable⟩ := all first (by simp)
        rw [List.map_cons, String.join_cons, String.toList_append,
          induction fun character member => all character (by simp [member]),
          escapeCharacter_of_plain quote backslash printable, Char.toString_eq_singleton,
          String.toList_singleton, List.singleton_append]
  rw [quoteString, String.toList_inj.mp (escaped text.toList plain)]

end Json

/-- The code of a decimal digit or of a point lies between that of the point and that of `9`. -/
theorem decimal_bounds {character : Char} (decimal : character.isDigit ∨ character = '.') :
    46 ≤ character.toNat ∧ character.toNat ≤ 57 := by
  rcases decimal with digit | rfl
  · have := Char.isDigit_iff_toNat.mp digit
    have zero_code : '0'.toNat = 48 := rfl
    have nine_code : '9'.toNat = 57 := rfl
    omega
  · decide

/-- A decimal digit or a point needs no escape. -/
theorem plain_of_decimal {character : Char} (decimal : character.isDigit ∨ character = '.') :
    character ≠ '"' ∧ character ≠ '\\' ∧ 0x20 ≤ character.toNat := by
  have bounds := decimal_bounds decimal
  refine ⟨fun same => ?_, fun same => ?_, by omega⟩
  · rw [same] at bounds
    exact absurd bounds (by decide)
  · rw [same] at bounds
    exact absurd bounds (by decide)

/-- A decimal digit or a point is one ASCII byte that may stand unescaped in a string. -/
theorem plainByte_of_decimal {character : Char} (decimal : character.isDigit ∨ character = '.') :
    character.toNat < 128 ∧ Json.Reader.plainByte (UInt8.ofNat character.toNat) := by
  have bounds := decimal_bounds decimal
  have code : (UInt8.ofNat character.toNat).toNat = character.toNat := by
    simp [Nat.mod_eq_of_lt (show character.toNat < 256 by omega)]
  refine ⟨by omega, ?_⟩
  simp only [Json.Reader.plainByte, ne_eq, ← UInt8.toNat_inj, UInt8.le_iff_toNat_le, code,
    UInt8.reduceToNat]
  omega

/-- Every byte of a text of digits and points may stand unescaped in a string. -/
theorem plainByte_of_mem_decimal {body : String}
    (decimal : ∀ character ∈ body.toList, character.isDigit ∨ character = '.') :
    ∀ byte ∈ body.toByteArray.data.toList, Json.Reader.plainByte byte := by
  have encoded : body.toByteArray = body.toList.utf8Encode := by
    rw [← String.toByteArray_ofList, String.ofList_toList]
  intro byte member
  rw [encoded, List.utf8Encode, List.toList_data_toByteArray, List.mem_flatMap] at member
  obtain ⟨character, present, encodes⟩ := member
  obtain ⟨ascii, plain⟩ := plainByte_of_decimal (decimal character present)
  have small : character.val.toNat ≤ 0x7f := by
    change character.val.toNat < 128 at ascii
    omega
  rw [String.utf8EncodeChar, if_pos small, List.mem_singleton] at encodes
  rw [encodes]
  exact plain

/-! ## Reading a price -/

namespace Pricing

open Json.Reader

variable {text : ByteArray}

/-- Reading a price at an opening quote: when the bytes up to the closing quote are plain and are
the text of `price`, the price is read and reading stops after the quote. -/
theorem readPrice_quoted {start stop : Nat} {body : String} {price : Price}
    (opening : text[start]? = some 34) (lt : start < stop)
    (plain : ∀ index (lt : index < text.size), start < index → index < stop →
      plainByte text[index])
    (closing : text[stop]? = some 34)
    (holds : text.extract (start + 1) stop = body.toByteArray)
    (parsed : Price.parse body = .ok price) :
    (readPrice text).run start = .ok price (stop + 1) := by
  obtain ⟨inside, quote⟩ := getElem?_eq_some_iff.mp opening
  have no_blanks : skipFrom text isBlank start = start :=
    skipFrom_eq (Nat.le_refl start) inside.le (fun _ _ low high => absurd high (by omega))
      (fun lt => by simp [quote, isBlank])
  have read := @stringBody_plain text text.size [] (start + 1) stop lt
    (fun index lt low high => plain index lt low high) closing
  have decoded : (String.fromUTF8?
      ⟨([] ++ (text.extract (start + 1) stop).data.toList).toArray⟩).getD "" = body := by
    rw [holds, List.nil_append, Array.toArray_toList, fromUTF8?_toByteArray]
    rfl
  rw [readPrice]
  simp only [EStateM.run_bind, skipBlanks, EStateM.run_modify, no_blanks, peek, EStateM.run_get,
    EStateM.run_pure, opening, advance, string, read, decoded, parsed]


/-- A text of plain bytes between two quotes that reads as a price is read as that price,
whatever stands before and after it. -/
theorem readPrice_between_quotes {body : String} {price : Price} (before rest : ByteArray)
    (plain : ∀ byte ∈ body.toByteArray.data.toList, plainByte byte)
    (parsed : Price.parse body = .ok price) :
    (readPrice (before ++ "\"".toByteArray ++ body.toByteArray ++ ("\"".toByteArray ++ rest))).run
        before.size =
      .ok price (before.size + 1 + body.toByteArray.size + 1) := by
  set quote := "\"".toByteArray
  set bytes := body.toByteArray
  have quote_eq : quote = ⟨#[34]⟩ := rfl
  have quote_size : quote.size = 1 := by rw [quote_eq]; rfl
  have front : (before ++ quote).size = before.size + 1 := by
    rw [ByteArray.size_append, quote_size]
  have middle : (before ++ quote ++ bytes).size = before.size + 1 + bytes.size := by
    rw [ByteArray.size_append, front]
  have total : (before ++ quote ++ bytes ++ (quote ++ rest)).size =
      before.size + 1 + bytes.size + 1 + rest.size := by
    simp only [ByteArray.size_append, quote_size]
    omega
  refine readPrice_quoted ?opening (by omega) ?plain ?closing ?holds parsed
  case opening =>
    refine getElem?_eq_some_iff.mpr ⟨by omega, ?_⟩
    rw [ByteArray.getElem_append_left (by omega), ByteArray.getElem_append_left (by omega),
      ByteArray.getElem_append_right (Nat.le_refl _)]
    simp only [quote_eq, Nat.sub_self]
    rfl
  case plain =>
    intro index lt low high
    rw [ByteArray.getElem_append_left (by omega), ByteArray.getElem_append_right (by omega)]
    exact plain _ (Array.getElem_mem_toList _)
  case closing =>
    refine getElem?_eq_some_iff.mpr ⟨by omega, ?_⟩
    rw [ByteArray.getElem_append_right (by omega), ByteArray.getElem_append_left (by omega)]
    simp only [middle, Nat.sub_self]
    simp only [quote_eq]
    rfl
  case holds =>
    have nothing : (quote ++ rest).extract (before.size + 1 - (before.size + 1 + bytes.size)) 0 =
        ByteArray.empty :=
      ByteArray.extract_eq_empty_iff.mpr (by omega)
    rw [ByteArray.extract_append, middle, Nat.sub_self, nothing, ByteArray.append_empty]
    exact ByteArray.extract_append_eq_right front.symm (by rw [front])

/-- A written price is read back: reading from the opening quote of its JSON string gives the
price and stops after the closing quote, whatever stands before and after the string. -/
theorem readPrice_written (price : Price) (before rest : ByteArray) :
    (readPrice (before ++ (Json.compact (.string price.toDecimalString)).toUTF8 ++ rest)).run
        before.size =
      .ok price (before.size + (Json.compact (.string price.toDecimalString)).toUTF8.size) := by
  have decimal := Price.mem_toDecimalString price
  set quote := "\"".toByteArray
  have written : (Json.compact (.string price.toDecimalString)).toUTF8 =
      quote ++ price.toDecimalString.toByteArray ++ quote := by
    rw [Json.compact, Json.quoteString_of_plain fun character member =>
        plain_of_decimal (decimal character member),
      String.toUTF8_eq_toByteArray, String.toByteArray_append, String.toByteArray_append]
  have regrouped : before ++ (quote ++ price.toDecimalString.toByteArray ++ quote) ++ rest =
      before ++ quote ++ price.toDecimalString.toByteArray ++ (quote ++ rest) := by
    simp only [ByteArray.append_assoc]
  have size : (quote ++ price.toDecimalString.toByteArray ++ quote).size =
      1 + price.toDecimalString.toByteArray.size + 1 := by
    simp only [ByteArray.size_append]
    rfl
  rw [written, regrouped, size, ← Nat.add_assoc, ← Nat.add_assoc]
  exact readPrice_between_quotes before rest (plainByte_of_mem_decimal decimal)
    (Price.parse_toDecimalString price)

end Pricing

/-! ## Decimal text -/

namespace Price

/-- Prices are read back from their decimal text, written canonically, and read back from JSON. -/
theorem decimal_text_round_trips :
    (∀ price : Price, parse price.toDecimalString = .ok price) ∧
    (∀ (input : String) (price : Price), parse input = .ok price →
      price.toDecimalString = canonicalText input) ∧
    Function.Injective toDecimalString ∧
    ∀ (price : Price) (before rest : ByteArray),
      (Pricing.readPrice (before ++ (Json.compact (.string price.toDecimalString)).toUTF8 ++
          rest)).run before.size =
        .ok price (before.size + (Json.compact (.string price.toDecimalString)).toUTF8.size) :=
  ⟨parse_toDecimalString, fun _ _ parsed => toDecimalString_of_parse parsed,
    toDecimalString_injective, Pricing.readPrice_written⟩

/-- A padded amount is read and written back without its padding. -/
theorem padded_amount_written_canonically :
    parse "007.50" = .ok ⟨7500000000000000000, by decide⟩ ∧
    (⟨7500000000000000000, by decide⟩ : Price).toDecimalString = canonicalText "007.50" :=
  have parsed : parse "007.50" = .ok ⟨7500000000000000000, by decide⟩ := by decide +kernel
  ⟨parsed, decimal_text_round_trips.2.1 "007.50" _ parsed⟩

end Price

end MeteredPayments

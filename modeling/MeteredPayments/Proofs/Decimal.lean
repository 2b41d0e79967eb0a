import Mathlib
import MeteredPayments.Price.Basic

/-!
# Decimal text of prices

Writing a price and reading it back gives the price, and reading a text and writing the price
gives the text's canonical form, so no two prices are written alike.
-/

namespace MeteredPayments

/-! ## Decimal digits -/

theorem decimalDigit?_of_isDigit {character : Char} (digit : character.isDigit = true) :
    decimalDigit? character = some (character.toNat - '0'.toNat) := by
  simp only [Char.isDigit, Bool.and_eq_true, decide_eq_true_eq] at digit
  exact if_pos ⟨digit.1, digit.2⟩

theorem decimalDigit?_of_not_isDigit {character : Char} (other : character.isDigit = false) :
    decimalDigit? character = none := by
  simp only [Char.isDigit, Bool.and_eq_false_iff, decide_eq_false_iff_not] at other
  exact if_neg fun ⟨low, high⟩ => other.elim (· low) (· high)

/-- A decimal digit lies at or above `0` and is worth less than ten. -/
theorem isDigit_value {character : Char} (digit : character.isDigit = true) :
    '0'.toNat ≤ character.toNat ∧ character.toNat - '0'.toNat < 10 := by
  have bounds := Char.isDigit_iff_toNat.mp digit
  have zero_code : '0'.toNat = 48 := rfl
  have nine_code : '9'.toNat = 57 := rfl
  omega

theorem digitChar_eq_ofNat : ∀ digit < 10, Nat.digitChar digit = Char.ofNat ('0'.toNat + digit) := by
  decide

/-- A decimal digit is the digit of its value. -/
theorem digitChar_toNat_sub {character : Char} (digit : character.isDigit = true) :
    (character.toNat - '0'.toNat).digitChar = character := by
  obtain ⟨low, small⟩ := isDigit_value digit
  rw [digitChar_eq_ofNat _ small,
    show '0'.toNat + (character.toNat - '0'.toNat) = character.toNat by omega, Char.ofNat_toNat]

theorem ofDigitChars_ge (digits : List Char) (start : Nat) :
    start ≤ Nat.ofDigitChars 10 digits start := by
  rw [Nat.ofDigitChars_eq_ofDigitChars_zero]
  have : start ≤ 10 ^ digits.length * start := Nat.le_mul_of_pos_left start (by positivity)
  omega

theorem ofDigitChars_concat (digits : List Char) (last : Char) :
    Nat.ofDigitChars 10 (digits ++ [last]) 0 =
      10 * Nat.ofDigitChars 10 digits 0 + (last.toNat - '0'.toNat) := by
  rw [Nat.ofDigitChars_append, Nat.ofDigitChars_cons, Nat.ofDigitChars_nil]

/-- A value written with `count` digits is below `10 ^ count`. -/
theorem ofDigitChars_lt {digits : List Char} (all : ∀ character ∈ digits, character.isDigit) :
    Nat.ofDigitChars 10 digits 0 < 10 ^ digits.length := by
  induction digits using List.reverseRecOn with
  | nil => simp
  | append_singleton digits last induction =>
      have below := induction fun character member => all character (by simp [member])
      have last_digit := isDigit_value (all last (by simp))
      rw [ofDigitChars_concat, List.length_append, List.length_singleton, Nat.pow_succ]
      omega

/-- Only zeros have the value zero. -/
theorem ofDigitChars_eq_zero_iff {digits : List Char}
    (all : ∀ character ∈ digits, character.isDigit) :
    Nat.ofDigitChars 10 digits 0 = 0 ↔ ∀ character ∈ digits, character = '0' := by
  induction digits using List.reverseRecOn with
  | nil => simp
  | append_singleton digits last induction =>
      have earlier := induction fun character member => all character (by simp [member])
      have last_digit := isDigit_value (all last (by simp))
      have last_zero : last = '0' ↔ last.toNat - '0'.toNat = 0 := by
        rw [← Char.toNat_inj]
        omega
      rw [ofDigitChars_concat, List.forall_mem_append, List.forall_mem_singleton, ← earlier,
        last_zero]
      omega

theorem takeWhile_zero_eq_replicate (digits : List Char) :
    digits.takeWhile (· = '0') = List.replicate (digits.takeWhile (· = '0')).length '0' :=
  List.eq_replicate_iff.mpr ⟨rfl, fun character member => by
    simpa using List.mem_takeWhile_imp member⟩

/-- Leading zeros do not change the value. -/
theorem ofDigitChars_dropWhile_zero (digits : List Char) :
    Nat.ofDigitChars 10 (digits.dropWhile (· = '0')) 0 = Nat.ofDigitChars 10 digits 0 := by
  have zeros := takeWhile_zero_eq_replicate digits
  conv => rhs; rw [← List.takeWhile_append_dropWhile (p := (· = '0')) (l := digits)]
  rw [Nat.ofDigitChars_append, zeros, Nat.ofDigitChars_replicate_zero, Nat.mul_zero]

/-! ## Whole numbers -/

/-- The digits of a whole number as they are written: without leading zeros, and `0` when none
remain. -/
def wholeDigits (digits : List Char) : List Char :=
  match digits.dropWhile (· = '0') with
  | [] => ['0']
  | rest => rest

/-- A nonempty list of digits that does not start with a zero is the text of its value. The
induction adds one digit on the right, as `Nat.toDigits` does. -/
theorem toDigits_ofDigitChars_of_head {digits : List Char}
    (all : ∀ character ∈ digits, character.isDigit) (nonempty : digits ≠ [])
    (lead : digits.head? ≠ some '0') :
    Nat.toDigits 10 (Nat.ofDigitChars 10 digits 0) = digits := by
  induction digits using List.reverseRecOn with
  | nil => exact absurd rfl nonempty
  | append_singleton digits last induction =>
      have last_digit := all last (by simp)
      have last_small := (isDigit_value last_digit).2
      rw [ofDigitChars_concat]
      cases digits with
      | nil =>
          rw [Nat.ofDigitChars_nil, Nat.mul_zero, Nat.zero_add, Nat.toDigits_of_lt_base last_small,
            digitChar_toNat_sub last_digit]
          rfl
      | cons first rest =>
          -- the earlier digits start with a nonzero digit, so they have a positive value
          have first_digit := all first (by simp)
          have first_nonzero : first ≠ '0' := fun same => lead (by simp [same])
          have positive : 0 < Nat.ofDigitChars 10 (first :: rest) 0 := by
            have low := (isDigit_value first_digit).1
            have code : first.toNat ≠ '0'.toNat := fun same => first_nonzero (Char.toNat_inj.mp same)
            rw [Nat.ofDigitChars_cons]
            have := ofDigitChars_ge rest (10 * 0 + (first.toNat - '0'.toNat))
            omega
          rw [← Nat.toDigits_append_toDigits (by decide) positive last_small,
            induction (fun character member => all character (List.mem_append_left _ member))
              (by simp) (by simpa using lead),
            Nat.toDigits_of_lt_base last_small, digitChar_toNat_sub last_digit]

/-- A list of decimal digits is, leading zeros dropped, the text of its value. -/
theorem toDigits_ofDigitChars {digits : List Char}
    (all : ∀ character ∈ digits, character.isDigit) :
    Nat.toDigits 10 (Nat.ofDigitChars 10 digits 0) = wholeDigits digits := by
  rw [← ofDigitChars_dropWhile_zero, wholeDigits]
  have lead := List.head?_dropWhile_not (· = '0') digits
  have kept : ∀ character ∈ digits.dropWhile (· = '0'), character.isDigit :=
    fun character member => all character ((List.dropWhile_suffix _).subset member)
  split
  · rename_i none
    rw [none, Nat.ofDigitChars_nil, Nat.toDigits_zero]
  · rename_i rest nonempty
    refine toDigits_ofDigitChars_of_head kept nonempty ?_
    intro first
    rw [first] at lead
    simp at lead

theorem dot_not_mem_of_digits {digits : List Char}
    (all : ∀ character ∈ digits, character.isDigit) : '.' ∉ digits :=
  fun member => absurd (all '.' member) (by decide)

theorem toList_toString (value : Nat) : (toString value).toList = Nat.toDigits 10 value := by
  rw [Nat.toString_eq_ofList_toDigits, String.toList_ofList]

theorem isDigit_of_mem_toDigits (value : Nat) :
    ∀ character ∈ Nat.toDigits 10 value, character.isDigit :=
  fun _ member => Nat.isDigit_of_mem_toDigits (by decide) (by decide) member

/-! ## Fractions -/

theorem padDecimal_toList (value width : Nat) :
    (Price.padDecimal value width).toList =
      List.replicate (width - (Nat.toDigits 10 value).length) '0' ++ Nat.toDigits 10 value := by
  simp only [Price.padDecimal, String.toList_append, String.toList_ofList, Nat.toString_eq_repr,
    Nat.toList_repr, ← String.length_toList]

/-- Eighteen digits with a nonzero value are that value padded with zeros to eighteen places. -/
theorem padDecimal_ofDigitChars {digits : List Char}
    (all : ∀ character ∈ digits, character.isDigit) (length : digits.length = 18)
    (nonzero : Nat.ofDigitChars 10 digits 0 ≠ 0) :
    (Price.padDecimal (Nat.ofDigitChars 10 digits 0) 18).toList = digits := by
  have rest_nonempty : digits.dropWhile (· = '0') ≠ [] := by
    intro none
    rw [← ofDigitChars_dropWhile_zero, none, Nat.ofDigitChars_nil] at nonzero
    exact nonzero rfl
  have written : Nat.toDigits 10 (Nat.ofDigitChars 10 digits 0) = digits.dropWhile (· = '0') := by
    rw [toDigits_ofDigitChars all, wholeDigits]
    split
    · contradiction
    · rfl
  have zeros := takeWhile_zero_eq_replicate digits
  have split_lengths := congrArg List.length (List.takeWhile_append_dropWhile (p := (· = '0'))
    (l := digits))
  rw [List.length_append] at split_lengths
  rw [padDecimal_toList, written]
  conv => rhs; rw [← List.takeWhile_append_dropWhile (p := (· = '0')) (l := digits), zeros]
  congr 2
  omega

/-- Zeros on the right are what trimming the trailing zeros drops. -/
theorem rdropWhile_append_zeros (digits : List Char) (count : Nat) :
    (digits ++ List.replicate count '0').rdropWhile (· = '0') = digits.rdropWhile (· = '0') := by
  induction count with
  | zero => simp
  | succ count induction =>
      rw [List.replicate_succ', ← List.append_assoc,
        List.rdropWhile_concat_pos _ _ _ (by simp), induction]

/-- Trimming the trailing zeros of eighteen digits and padding them back gives the digits. -/
theorem fractionDigits_rdropWhile {digits : List Char} (length : digits.length = 18) :
    Price.fractionDigits (digits.rdropWhile (· = '0')) = digits := by
  have zeros : digits.rtakeWhile (· = '0') =
      List.replicate (digits.rtakeWhile (· = '0')).length '0' :=
    List.eq_replicate_iff.mpr ⟨rfl, fun character member => by
      simpa using List.mem_rtakeWhile_imp member⟩
  have split_lengths := congrArg List.length (List.rdropWhile_append_rtakeWhile
    (p := (· = '0')) (l := digits))
  rw [List.length_append] at split_lengths
  have short : (digits.rdropWhile (· = '0')).length ≤ 18 := by omega
  rw [Price.fractionDigits, List.take_of_length_le short]
  conv => rhs; rw [← List.rdropWhile_append_rtakeWhile (p := (· = '0')) (l := digits), zeros]
  congr 2
  omega

theorem fractionDigits_length (fraction : List Char) :
    (Price.fractionDigits fraction).length = 18 := by
  simp only [Price.fractionDigits, List.length_append, List.length_replicate, List.length_take]
  omega

theorem isDigit_of_mem_fractionDigits {fraction : List Char}
    (all : ∀ character ∈ fraction, character.isDigit) :
    ∀ character ∈ Price.fractionDigits fraction, character.isDigit := by
  intro character member
  rcases List.mem_append.mp member with kept | padding
  · exact all character (List.mem_of_mem_take kept)
  · rw [List.eq_of_mem_replicate padding]
    rfl

/-- The value of the padded fraction digits is the value of the first eighteen, scaled. -/
theorem ofDigitChars_fractionDigits (fraction : List Char) :
    Nat.ofDigitChars 10 (Price.fractionDigits fraction) 0 =
      10 ^ (18 - (fraction.take 18).length) * Nat.ofDigitChars 10 (fraction.take 18) 0 := by
  rw [Price.fractionDigits, Nat.ofDigitChars_append, Nat.ofDigitChars_replicate_zero]

/-! ## Reading an amount -/

namespace Price

theorem priceLimit_lt_wordLimit : priceLimit < wordLimit := by decide

theorem accumulateDigits_cons (input : String) (first : Char) (rest : List Char) (start : Nat) :
    accumulateDigits input (first :: rest) start =
      accumulateDigits.step input start first >>= accumulateDigits input rest := rfl

/-- Appending digits succeeds exactly on ASCII digits whose value stays below `2^256`, and gives
that value; the running value never exceeds the final one, so only the final one is compared. -/
theorem accumulateDigits_eq_ok {input : String} {digits : List Char} {start value : Nat}
    (small : start < wordLimit) :
    accumulateDigits input digits start = .ok value ↔
      (∀ character ∈ digits, character.isDigit) ∧ Nat.ofDigitChars 10 digits start < wordLimit ∧
        value = Nat.ofDigitChars 10 digits start := by
  induction digits generalizing start with
  | nil =>
      simp only [accumulateDigits, List.foldlM_nil, List.not_mem_nil, Nat.ofDigitChars_nil]
      constructor
      · rintro ⟨⟩
        exact ⟨fun _ => False.elim, small, rfl⟩
      · rintro ⟨-, -, rfl⟩
        rfl
  | cons first rest induction =>
      rw [accumulateDigits_cons, Nat.ofDigitChars_cons, List.forall_mem_cons]
      cases digit : first.isDigit with
      | false =>
          simp only [accumulateDigits.step, decimalDigit?_of_not_isDigit digit, Bool.false_eq_true,
            false_and, iff_false]
          rintro ⟨⟩
      | true =>
          simp only [accumulateDigits.step, decimalDigit?_of_isDigit digit]
          by_cases fits : 10 * start + (first.toNat - '0'.toNat) < wordLimit
          · simp only [if_pos fits, true_and]
            exact induction fits
          · simp only [if_neg fits]
            have := ofDigitChars_ge rest (10 * start + (first.toNat - '0'.toNat))
            constructor
            · rintro ⟨⟩
            · rintro ⟨-, below, -⟩
              omega

/-- The fraction check finds nothing exactly when every fraction character is a digit. -/
theorem find?_not_decimal_eq_none {fraction : List Char} :
    fraction.find? (fun character => (decimalDigit? character).isNone) = none ↔
      ∀ character ∈ fraction, character.isDigit := by
  rw [List.find?_eq_none]
  refine forall₂_congr fun character _ => ?_
  cases digit : character.isDigit
  · simp [decimalDigit?_of_not_isDigit digit]
  · simp [decimalDigit?_of_isDigit digit]

theorem accumulateDigits_fractionDigits {input : String} {fraction : List Char}
    (all : ∀ character ∈ fraction, character.isDigit) :
    accumulateDigits input (fractionDigits fraction) 0 =
      .ok (Nat.ofDigitChars 10 (fractionDigits fraction) 0) := by
  have below := ofDigitChars_lt (isDigit_of_mem_fractionDigits all)
  rw [fractionDigits_length] at below
  exact (accumulateDigits_eq_ok (by decide)).mpr
    ⟨isDigit_of_mem_fractionDigits all, below.trans (by decide), rfl⟩

/-- The characters around the point make a price exactly when they are digits, the whole value
is below `2^256` and the amount below the price limit; the price is the whole tokens and the
first 18 fraction digits as wei. -/
theorem build_eq_ok {input : String} {whole fraction : List Char} {price : Price} :
    parse.build input whole fraction = .ok price ↔
      (∀ character ∈ whole, character.isDigit) ∧ Nat.ofDigitChars 10 whole 0 < wordLimit ∧
      (∀ character ∈ fraction, character.isDigit) ∧
      price.wei = Nat.ofDigitChars 10 whole 0 * weiPerToken +
        Nat.ofDigitChars 10 (fractionDigits fraction) 0 := by
  have start : (0 : Nat) < wordLimit := by decide
  rw [parse.build]
  cases integer : accumulateDigits input whole 0 with
  | error problem =>
      constructor
      · rintro ⟨⟩
      · rintro ⟨whole_digits, below, -⟩
        have accepted : accumulateDigits input whole 0 = .ok (Nat.ofDigitChars 10 whole 0) :=
          (accumulateDigits_eq_ok start).mpr ⟨whole_digits, below, rfl⟩
        rw [integer] at accepted
        cases accepted
  | ok integer_value =>
      obtain ⟨whole_digits, below, rfl⟩ := (accumulateDigits_eq_ok start).mp integer
      cases found : fraction.find? (fun character => (decimalDigit? character).isNone) with
      | some character =>
          constructor
          · rintro ⟨⟩
          · rintro ⟨-, -, fraction_digits, -⟩
            rw [find?_not_decimal_eq_none.mpr fraction_digits] at found
            cases found
      | none =>
          have fraction_digits := find?_not_decimal_eq_none.mp found
          simp only [bind, Except.bind, accumulateDigits_fractionDigits fraction_digits]
          split
          · constructor
            · rintro ⟨⟩
              exact ⟨whole_digits, below, fraction_digits, rfl⟩
            · rintro ⟨-, -, -, wei_eq⟩
              obtain ⟨wei, wei_lt⟩ := price
              subst wei_eq
              rfl
          · rename_i too_large
            constructor
            · rintro ⟨⟩
            · rintro ⟨-, -, -, wei_eq⟩
              exact absurd (wei_eq ▸ price.wei_lt) too_large

/-! ## Writing an amount and reading it back -/

/-- A value below `10^18` padded to 18 places: 18 digits of that value. -/
theorem padDecimal_digits {value : Nat} (small : value < weiPerToken) :
    (∀ character ∈ (padDecimal value 18).toList, character.isDigit) ∧
      (padDecimal value 18).toList.length = 18 ∧
      Nat.ofDigitChars 10 (padDecimal value 18).toList 0 = value := by
  have short := (Nat.length_toDigits_le_iff (by decide) (by decide)).mpr small
  rw [padDecimal_toList]
  refine ⟨fun character member => ?_, by simp only [List.length_append, List.length_replicate]; omega,
    by rw [Nat.ofDigitChars_append, Nat.ofDigitChars_replicate_zero, Nat.mul_zero,
      Nat.ofDigitChars_ten_toDigits]⟩
  rcases List.mem_append.mp member with padding | written
  · rw [List.eq_of_mem_replicate padding]
    rfl
  · exact isDigit_of_mem_toDigits value character written

/-- The text of a price is made of decimal digits and points. -/
theorem mem_toDecimalString (price : Price) :
    ∀ character ∈ price.toDecimalString.toList, character.isDigit ∨ character = '.' := by
  have whole_digits := isDigit_of_mem_toDigits (price.wei / weiPerToken)
  obtain ⟨pad_digits, -, -⟩ :=
    padDecimal_digits (Nat.mod_lt price.wei (by decide : 0 < weiPerToken))
  intro character member
  rw [toDecimalString] at member
  split_ifs at member
  · rw [toList_toString] at member
    exact .inl (whole_digits character member)
  · simp only [String.toList_append, String.toList_ofList, toList_toString, List.mem_append,
      List.mem_reverse] at member
    rcases member with (whole | point) | fraction
    · exact .inl (whole_digits character whole)
    · exact .inr (by simpa using point)
    · exact .inl (pad_digits character (List.mem_reverse.mp
        ((List.dropWhile_suffix _).subset fraction)))

/-- Writing a price and reading the text back gives the price. -/
theorem parse_toDecimalString (price : Price) : parse price.toDecimalString = .ok price := by
  have whole_digits := isDigit_of_mem_toDigits (price.wei / weiPerToken)
  have whole_small : Nat.ofDigitChars 10 (Nat.toDigits 10 (price.wei / weiPerToken)) 0 <
      wordLimit := by
    rw [Nat.ofDigitChars_ten_toDigits]
    exact (Nat.div_le_self _ _).trans_lt (price.wei_lt.trans priceLimit_lt_wordLimit)
  have tokens_and_wei := Nat.div_add_mod price.wei weiPerToken
  rw [toDecimalString, parse]
  split_ifs with zero
  · rw [toList_toString, List.splitOn_eq_singleton (dot_not_mem_of_digits whole_digits)]
    refine build_eq_ok.mpr ⟨whole_digits, whole_small, List.forall_mem_nil _, ?_⟩
    rw [Nat.ofDigitChars_ten_toDigits, ofDigitChars_fractionDigits, List.take_nil,
      Nat.ofDigitChars_nil, Nat.mul_zero, Nat.add_zero]
    exact (Nat.div_mul_cancel (Nat.dvd_of_mod_eq_zero zero)).symm
  · obtain ⟨pad_digits, pad_length, pad_value⟩ :=
      padDecimal_digits (Nat.mod_lt price.wei (by decide : 0 < weiPerToken))
    set pad := (padDecimal (price.wei % weiPerToken) 18).toList
    have trimmed_digits : ∀ character ∈ pad.rdropWhile (· = '0'), character.isDigit :=
      fun character member => pad_digits character (((List.rdropWhile_prefix _ _).subset member))
    dsimp only
    rw [show (pad.reverse.dropWhile (· = '0')).reverse = pad.rdropWhile (· = '0') from rfl]
    simp only [String.toList_append, String.toList_ofList, toList_toString,
      show ".".toList = ['.'] from rfl, List.append_assoc, List.singleton_append]
    rw [List.splitOn_append_cons_self_of_not_mem (dot_not_mem_of_digits whole_digits),
      List.splitOn_eq_singleton (dot_not_mem_of_digits trimmed_digits)]
    refine build_eq_ok.mpr ⟨whole_digits, whole_small, trimmed_digits, ?_⟩
    rw [Nat.ofDigitChars_ten_toDigits, fractionDigits_rdropWhile pad_length, pad_value,
      Nat.mul_comm]
    exact tokens_and_wei.symm

/-! ## Reading a text and writing it back -/

/-- The canonical text of the amount read from the digits before the point and those after it:
the whole digits without leading zeros, then, unless the first 18 fraction digits are all zero,
a point and those digits without their trailing zeros. -/
def canonicalAmount (whole fraction : List Char) : String :=
  let kept := (fraction.take 18).rdropWhile (· = '0')
  if kept = [] then String.ofList (wholeDigits whole)
  else String.ofList (wholeDigits whole) ++ "." ++ String.ofList kept

/-- The canonical text of a decimal amount, split at its point as reading splits it; a text with
two or more points, which no price is read from, is its own. -/
def canonicalText (input : String) : String :=
  match input.toList.splitOn '.' with
  | [whole] => canonicalAmount whole []
  | [whole, fraction] => canonicalAmount whole fraction
  | _ => input

example : canonicalText "0012.3400" = "12.34" := by rfl

/-- Padding the fraction and trimming its trailing zeros keeps the first 18 digits, trimmed. -/
theorem rdropWhile_fractionDigits (fraction : List Char) :
    (fractionDigits fraction).rdropWhile (· = '0') = (fraction.take 18).rdropWhile (· = '0') :=
  rdropWhile_append_zeros _ _

/-- The first 18 fraction digits have the value zero exactly when trimming their trailing zeros
leaves nothing. -/
theorem ofDigitChars_fractionDigits_eq_zero {fraction : List Char}
    (all : ∀ character ∈ fraction, character.isDigit) :
    Nat.ofDigitChars 10 (fractionDigits fraction) 0 = 0 ↔
      (fraction.take 18).rdropWhile (· = '0') = [] := by
  have kept : ∀ character ∈ fraction.take 18, character.isDigit :=
    fun character member => all character (List.mem_of_mem_take member)
  rw [ofDigitChars_fractionDigits, Nat.mul_eq_zero, ofDigitChars_eq_zero_iff kept,
    List.rdropWhile_eq_nil_iff]
  simp only [Nat.pow_eq_zero, OfNat.ofNat_ne_zero, false_and, false_or, decide_eq_true_eq]

/-- The price read from the characters around a point is written as their canonical text. -/
theorem toDecimalString_of_build {input : String} {whole fraction : List Char} {price : Price}
    (built : parse.build input whole fraction = .ok price) :
    price.toDecimalString = canonicalAmount whole fraction := by
  obtain ⟨whole_digits, -, fraction_digits, wei_eq⟩ := build_eq_ok.mp built
  have padded_digits := isDigit_of_mem_fractionDigits fraction_digits
  have fraction_small : Nat.ofDigitChars 10 (fractionDigits fraction) 0 < weiPerToken := by
    have below := ofDigitChars_lt padded_digits
    rwa [fractionDigits_length] at below
  have split : price.wei / weiPerToken = Nat.ofDigitChars 10 whole 0 ∧
      price.wei % weiPerToken = Nat.ofDigitChars 10 (fractionDigits fraction) 0 :=
    (Nat.div_mod_unique (by decide)).mpr
      ⟨by rw [wei_eq, Nat.mul_comm, Nat.add_comm], fraction_small⟩
  obtain ⟨tokens, rest⟩ := split
  have whole_text : toString (Nat.ofDigitChars 10 whole 0) = String.ofList (wholeDigits whole) := by
    rw [Nat.toString_eq_ofList_toDigits, toDigits_ofDigitChars whole_digits]
  rw [toDecimalString, canonicalAmount]
  dsimp only
  rw [tokens, rest, whole_text]
  by_cases zero : Nat.ofDigitChars 10 (fractionDigits fraction) 0 = 0
  · rw [if_pos zero, if_pos ((ofDigitChars_fractionDigits_eq_zero fraction_digits).mp zero)]
  · rw [if_neg zero, if_neg (mt (ofDigitChars_fractionDigits_eq_zero fraction_digits).mpr zero),
      padDecimal_ofDigitChars padded_digits (fractionDigits_length fraction) zero,
      show ((fractionDigits fraction).reverse.dropWhile (· = '0')).reverse =
        (fractionDigits fraction).rdropWhile (· = '0') from rfl, rdropWhile_fractionDigits]

/-- Reading a text and writing the price gives the canonical form of the text. -/
theorem toDecimalString_of_parse {input : String} {price : Price}
    (parsed : parse input = .ok price) : price.toDecimalString = canonicalText input := by
  rw [parse] at parsed
  rw [canonicalText]
  generalize input.toList.splitOn '.' = parts at parsed ⊢
  rcases parts with _ | ⟨whole, _ | ⟨fraction, _ | ⟨extra, rest⟩⟩⟩
  · cases parsed
  · exact toDecimalString_of_build parsed
  · exact toDecimalString_of_build parsed
  · cases parsed

/-- No two prices are written alike. -/
theorem toDecimalString_injective : Function.Injective toDecimalString := by
  intro left right same
  have read := parse_toDecimalString left
  rw [same, parse_toDecimalString right] at read
  exact (Except.ok.inj read).symm

end Price

end MeteredPayments

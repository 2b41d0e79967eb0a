import MeteredPayments.Proofs.Decimal

/-!
# Reading decimal token amounts

Reading a text as a price accepts exactly the grammar of decimal token amounts and reports the
first problem in a fixed order: too many points, then the whole digits, then the fraction digits,
then an amount too large (`amount_reading_outcome`).
-/

namespace MeteredPayments

namespace Price

/-! ## The grammar -/

/-- The characters of a text before its first point. -/
def wholeText (input : String) : List Char := input.toList.takeWhile (· ≠ '.')

/-- The characters of a text after its first point; none when it has no point. -/
def fractionText (input : String) : List Char := (input.toList.dropWhile (· ≠ '.')).drop 1

/-- Decimal digits whose value is below `2^256`. Reading them from the left never overflows,
since the running value only grows. -/
def ReadsBelowWord (digits : List Char) : Prop :=
  (∀ character ∈ digits, character.isDigit) ∧ Nat.ofDigitChars 10 digits 0 < 2 ^ 256

/-- Reading `text` from the left stops at `character`, the first character that is no ASCII
digit, before the running value reaches `2^256`. -/
def StopsAt (text : List Char) (character : Char) : Prop :=
  ∃ read rest, text = read ++ character :: rest ∧ ReadsBelowWord read ∧
    character.isDigit = false

/-- Reading `text` from the left overflows: after digits of value `v` below `2^256`, a digit
takes the running value to `10 * v + digit ≥ 2^256`. -/
def OverflowsAt (text : List Char) : Prop :=
  ∃ read digit rest, text = read ++ digit :: rest ∧ ReadsBelowWord read ∧ digit.isDigit ∧
    2 ^ 256 ≤ 10 * Nat.ofDigitChars 10 read 0 + (digit.toNat - '0'.toNat)

/-- `character` is the first character of `text` that is no ASCII digit. -/
def FirstNonDigit (text : List Char) (character : Char) : Prop :=
  ∃ read rest, text = read ++ character :: rest ∧ (∀ digit ∈ read, digit.isDigit) ∧
    character.isDigit = false

/-- The amount `whole.fraction` tokens in wei, rounded down. -/
def amountWei (whole fraction : List Char) : Nat :=
  ⌊((Nat.ofDigitChars 10 whole 0 : ℚ) + Nat.ofDigitChars 10 fraction 0 / 10 ^ fraction.length) *
    10 ^ 18⌋₊

/-! ## Splitting at the first point -/

theorem dot_not_mem_takeWhile (text : List Char) : '.' ∉ text.takeWhile (· ≠ '.') :=
  fun member => by simpa using List.mem_takeWhile_imp member

/-- A text with a point is the text before its first point, the point, and the text after. -/
theorem eq_takeWhile_append {text : List Char} (present : '.' ∈ text) :
    text = text.takeWhile (· ≠ '.') ++ '.' :: (text.dropWhile (· ≠ '.')).drop 1 := by
  have nonempty : text.dropWhile (· ≠ '.') ≠ [] := fun none => by
    simpa using List.dropWhile_eq_nil_iff.mp none '.' present
  obtain ⟨first, rest, dropped⟩ := List.exists_cons_of_ne_nil nonempty
  have stops := List.head_dropWhile_not (fun character => decide (character ≠ '.')) nonempty
  have first_dot : first = '.' := by
    simp only [dropped, List.head_cons] at stops
    simpa using stops
  conv_lhs => rw [← List.takeWhile_append_dropWhile (p := (· ≠ '.')) (l := text)]
  rw [dropped, first_dot, List.drop_one, List.tail_cons]

/-- Reading splits a text at its points: with none, the text is all whole part; with one, it is
the whole and fraction texts; with more, it has at least three parts. -/
theorem parse_eq (input : String) :
    parse input = if 2 ≤ input.toList.count '.' then .error (.multipleDecimalPoints input)
      else parse.build input (wholeText input) (fractionText input) := by
  by_cases present : '.' ∈ input.toList
  · have split : input.toList = wholeText input ++ '.' :: fractionText input :=
      eq_takeWhile_append present
    have whole_free : '.' ∉ wholeText input := dot_not_mem_takeWhile input.toList
    have counted : input.toList.count '.' = (fractionText input).count '.' + 1 := by
      rw [split, List.count_append, List.count_eq_zero.mpr whole_free, List.count_cons_self]
      omega
    have parts : input.toList.splitOn '.' = wholeText input :: (fractionText input).splitOn '.' := by
      rw [split, List.splitOn_append_cons_self_of_not_mem whole_free]
    by_cases again : '.' ∈ fractionText input
    · -- a second point: the parts after the whole text are at least two
      have fraction_split : fractionText input =
          (fractionText input).takeWhile (· ≠ '.') ++ '.' ::
            ((fractionText input).dropWhile (· ≠ '.')).drop 1 :=
        eq_takeWhile_append again
      obtain ⟨last, others, rest_parts⟩ := List.exists_cons_of_ne_nil
        (List.splitOn_ne_nil '.' (((fractionText input).dropWhile (· ≠ '.')).drop 1))
      have two : 2 ≤ input.toList.count '.' := by
        have := List.count_pos_iff.mpr again
        omega
      rw [if_pos two, parse, parts, fraction_split,
        List.splitOn_append_cons_self_of_not_mem (dot_not_mem_takeWhile (fractionText input)),
        rest_parts]
    · have one : ¬ 2 ≤ input.toList.count '.' := by
        rw [counted, List.count_eq_zero.mpr again]
        omega
      rw [if_neg one, parse, parts, List.splitOn_eq_singleton again]
  · have all_other : ∀ character ∈ input.toList, decide (character ≠ '.') = true :=
      fun character member => decide_eq_true fun same => present (same ▸ member)
    have whole_eq : wholeText input = input.toList := List.takeWhile_eq_self_iff.mpr all_other
    have fraction_eq : fractionText input = [] := by
      rw [fractionText, List.dropWhile_eq_nil_iff.mpr all_other]
      rfl
    have none : ¬ 2 ≤ input.toList.count '.' := by
      rw [List.count_eq_zero.mpr present]
      omega
    rw [if_neg none, parse, List.splitOn_eq_singleton present, whole_eq, fraction_eq]

/-! ## Where reading digits stops -/

/-- Appending digits fails exactly where the reading stops: after digits whose running value
stays below `2^256`, at a character that is no ASCII digit, or at a digit that takes the value to
`2^256`. Each step of the induction reads one character: it stops there, or the rest is read from
the larger value. -/
theorem accumulateDigits_eq_error {input : String} {digits : List Char} {start : Nat}
    (small : start < wordLimit) {error : PriceError} :
    accumulateDigits input digits start = .error error ↔
      ∃ read character rest, digits = read ++ character :: rest ∧
        (∀ digit ∈ read, digit.isDigit) ∧ Nat.ofDigitChars 10 read start < wordLimit ∧
        (character.isDigit = false ∧ error = .invalidCharacter input character ∨
          character.isDigit = true ∧
            wordLimit ≤ 10 * Nat.ofDigitChars 10 read start + (character.toNat - '0'.toNat) ∧
            error = .overflow input) := by
  induction digits generalizing start with
  | nil =>
      constructor
      · rintro ⟨⟩
      · rintro ⟨read, character, rest, split, -⟩
        cases read <;> cases split
  | cons first rest induction =>
      rw [accumulateDigits_cons]
      cases digit : first.isDigit with
      | false =>
          -- the first character stops the reading
          simp only [accumulateDigits.step, decimalDigit?_of_not_isDigit digit]
          constructor
          · rintro ⟨⟩
            exact ⟨[], first, rest, rfl, List.forall_mem_nil _, small, .inl ⟨digit, rfl⟩⟩
          · rintro ⟨read, character, rest', split, read_digits, -, outcome⟩
            cases read with
            | nil =>
                obtain ⟨rfl, rfl⟩ := List.cons.inj split
                rcases outcome with ⟨-, rfl⟩ | ⟨character_digit, -⟩
                · rfl
                · rw [digit] at character_digit
                  cases character_digit
            | cons head read =>
                have head_digit := read_digits head List.mem_cons_self
                obtain ⟨rfl, -⟩ := List.cons.inj split
                rw [digit] at head_digit
                cases head_digit
      | true =>
          simp only [accumulateDigits.step, decimalDigit?_of_isDigit digit]
          by_cases fits : 10 * start + (first.toNat - '0'.toNat) < wordLimit
          · -- the first digit is read; the rest is read from the larger value
            simp only [if_pos fits]
            rw [show (Except.ok (10 * start + (first.toNat - '0'.toNat)) >>=
                accumulateDigits input rest) =
                accumulateDigits input rest (10 * start + (first.toNat - '0'.toNat)) from rfl,
              induction fits]
            constructor
            · rintro ⟨read, character, rest', rfl, read_digits, below, outcome⟩
              refine ⟨first :: read, character, rest', rfl, ?_, ?_, ?_⟩
              · intro head member
                rcases List.mem_cons.mp member with rfl | later
                · exact digit
                · exact read_digits head later
              · rwa [Nat.ofDigitChars_cons]
              · rwa [Nat.ofDigitChars_cons]
            · rintro ⟨read, character, rest', split, read_digits, below, outcome⟩
              cases read with
              | nil =>
                  obtain ⟨rfl, rfl⟩ := List.cons.inj split
                  rw [Nat.ofDigitChars_nil] at outcome
                  rcases outcome with ⟨character_digit, -⟩ | ⟨-, too_large, -⟩
                  · rw [digit] at character_digit
                    cases character_digit
                  · exact absurd too_large (Nat.not_le.mpr fits)
              | cons head read =>
                  obtain ⟨rfl, rfl⟩ := List.cons.inj split
                  rw [Nat.ofDigitChars_cons] at below outcome
                  exact ⟨read, character, rest', rfl,
                    fun digit member => read_digits digit (List.mem_cons_of_mem _ member), below,
                    outcome⟩
          · -- the first digit takes the value to `2^256`
            simp only [if_neg fits]
            have grows := ofDigitChars_ge rest (10 * start + (first.toNat - '0'.toNat))
            constructor
            · rintro ⟨⟩
              refine ⟨[], first, rest, rfl, List.forall_mem_nil _, small, .inr ⟨digit, ?_, rfl⟩⟩
              rw [Nat.ofDigitChars_nil]
              omega
            · rintro ⟨read, character, rest', split, read_digits, below, outcome⟩
              cases read with
              | nil =>
                  obtain ⟨rfl, rfl⟩ := List.cons.inj split
                  rcases outcome with ⟨character_digit, -⟩ | ⟨-, -, rfl⟩
                  · rw [digit] at character_digit
                    cases character_digit
                  · rfl
              | cons head read =>
                  -- a longer prefix would have passed `2^256` already
                  have bigger := ofDigitChars_ge read (10 * start + (head.toNat - '0'.toNat))
                  rw [Nat.ofDigitChars_cons] at below
                  obtain ⟨rfl, -⟩ := List.cons.inj split
                  omega

/-- Reading digits from zero gives an invalid character exactly where the reading stops at
one. -/
theorem accumulateDigits_eq_invalid {input : String} {digits : List Char} {character : Char} :
    accumulateDigits input digits 0 = .error (.invalidCharacter input character) ↔
      StopsAt digits character := by
  rw [accumulateDigits_eq_error (by decide)]
  constructor
  · rintro ⟨read, found, rest, rfl, read_digits, below, ⟨not_digit, same⟩ | ⟨-, -, wrong⟩⟩
    · cases same
      exact ⟨read, rest, rfl, ⟨read_digits, below⟩, not_digit⟩
    · cases wrong
  · rintro ⟨read, rest, rfl, ⟨read_digits, below⟩, not_digit⟩
    exact ⟨read, character, rest, rfl, read_digits, below, .inl ⟨not_digit, rfl⟩⟩

/-- Reading digits from zero overflows exactly where a digit takes the value to `2^256`. -/
theorem accumulateDigits_eq_overflow {input : String} {digits : List Char} :
    accumulateDigits input digits 0 = .error (.overflow input) ↔ OverflowsAt digits := by
  rw [accumulateDigits_eq_error (by decide)]
  constructor
  · rintro ⟨read, found, rest, rfl, read_digits, below, ⟨-, wrong⟩ | ⟨digit, too_large, -⟩⟩
    · cases wrong
    · exact ⟨read, found, rest, rfl, ⟨read_digits, below⟩, digit, too_large⟩
  · rintro ⟨read, digit, rest, rfl, ⟨read_digits, below⟩, is_digit, too_large⟩
    exact ⟨read, digit, rest, rfl, read_digits, below, .inr ⟨is_digit, too_large, rfl⟩⟩

/-- Reading digits fails only with an invalid character or an overflow, naming the text. -/
theorem accumulateDigits_error_cases {input : String} {digits : List Char} {error : PriceError}
    (failed : accumulateDigits input digits 0 = .error error) :
    (∃ character, error = .invalidCharacter input character) ∨ error = .overflow input := by
  obtain ⟨-, character, -, -, -, -, ⟨-, rfl⟩ | ⟨-, -, rfl⟩⟩ :=
    (accumulateDigits_eq_error (by decide)).mp failed
  · exact .inl ⟨character, rfl⟩
  · exact .inr rfl

/-- Reading digits from zero succeeds exactly on digits whose value is below `2^256`. -/
theorem accumulateDigits_eq_ok_iff {input : String} {digits : List Char} {value : Nat} :
    accumulateDigits input digits 0 = .ok value ↔
      ReadsBelowWord digits ∧ value = Nat.ofDigitChars 10 digits 0 := by
  rw [accumulateDigits_eq_ok (by decide), ReadsBelowWord, and_assoc]
  rfl

theorem isNone_decimalDigit? (character : Char) :
    (decimalDigit? character).isNone = !character.isDigit := by
  cases digit : character.isDigit
  · simp [decimalDigit?_of_not_isDigit digit]
  · simp [decimalDigit?_of_isDigit digit]

/-- The fraction check finds the first character that is no ASCII digit. -/
theorem find?_not_decimal_eq_some {fraction : List Char} {character : Char} :
    fraction.find? (fun character => (decimalDigit? character).isNone) = some character ↔
      FirstNonDigit fraction character := by
  simp only [isNone_decimalDigit?, List.find?_eq_some_iff_append, Bool.not_not,
    Bool.not_eq_true']
  constructor
  · rintro ⟨not_digit, read, rest, rfl, read_digits⟩
    exact ⟨read, rest, rfl, read_digits, not_digit⟩
  · rintro ⟨read, rest, rfl, read_digits, not_digit⟩
    exact ⟨not_digit, read, rest, rfl, read_digits⟩

/-! ## Reading the parts around the point -/

section Build

variable {input : String} {whole fraction : List Char}

/-- The whole part stops the reading when it does not read below `2^256`. -/
theorem build_of_whole_error {problem : PriceError}
    (failed : accumulateDigits input whole 0 = .error problem) :
    parse.build input whole fraction = .error problem := by
  rw [parse.build, failed]
  rfl

/-- After a whole part that reads, the first fraction character that is no digit stops the
reading. -/
theorem build_of_fraction_invalid {value : Nat} {character : Char}
    (read : accumulateDigits input whole 0 = .ok value)
    (found : fraction.find? (fun character => (decimalDigit? character).isNone) = some character) :
    parse.build input whole fraction = .error (.invalidCharacter input character) := by
  rw [parse.build, read]
  simp only [bind, Except.bind, found]

/-- After a whole part that reads and a fraction of digits, the amount is a price when it is
below the limit and an overflow when it is not. -/
theorem build_of_digits {value : Nat} (read : accumulateDigits input whole 0 = .ok value)
    (digits : ∀ character ∈ fraction, character.isDigit) :
    parse.build input whole fraction =
      if h : value * weiPerToken + Nat.ofDigitChars 10 (fractionDigits fraction) 0 < priceLimit
      then .ok ⟨_, h⟩ else .error (.overflow input) := by
  rw [parse.build, read]
  simp only [bind, Except.bind, find?_not_decimal_eq_none.mpr digits,
    accumulateDigits_fractionDigits digits]

/-- Reading the parts around the point gives an invalid character exactly when the whole part
stops at one, or the whole part reads and the fraction has one. -/
theorem build_eq_invalid {character : Char} :
    parse.build input whole fraction = .error (.invalidCharacter input character) ↔
      StopsAt whole character ∨ ReadsBelowWord whole ∧ FirstNonDigit fraction character := by
  cases integer : accumulateDigits input whole 0 with
  | error problem =>
      have whole_fails : ¬ ReadsBelowWord whole := fun reads => by
        rw [(accumulateDigits_eq_ok_iff.mpr ⟨reads, rfl⟩)] at integer
        cases integer
      have stops : StopsAt whole character ↔ problem = .invalidCharacter input character := by
        rw [← accumulateDigits_eq_invalid, integer, Except.error.injEq]
      rw [build_of_whole_error integer, Except.error.injEq, ← stops]
      simp only [whole_fails, false_and, or_false]
  | ok value =>
      obtain ⟨whole_reads, -⟩ := accumulateDigits_eq_ok_iff.mp integer
      have no_stop : ¬ StopsAt whole character := fun stops => by
        rw [accumulateDigits_eq_invalid.mpr stops] at integer
        cases integer
      simp only [no_stop, whole_reads, true_and, false_or]
      cases found : fraction.find? (fun character => (decimalDigit? character).isNone) with
      | some other =>
          rw [build_of_fraction_invalid integer found, ← find?_not_decimal_eq_some, found]
          simp
      | none =>
          have digits := find?_not_decimal_eq_none.mp found
          have no_invalid : ¬ FirstNonDigit fraction character := by
            rw [← find?_not_decimal_eq_some, found]
            simp
          simp only [build_of_digits integer digits, no_invalid, iff_false]
          split <;> simp

/-- Reading the parts around the point overflows exactly when the whole part does, or the whole
part reads, the fraction is digits, and the amount is not below the limit. -/
theorem build_eq_overflow :
    parse.build input whole fraction = .error (.overflow input) ↔
      OverflowsAt whole ∨ ReadsBelowWord whole ∧ (∀ character ∈ fraction, character.isDigit) ∧
        priceLimit ≤ Nat.ofDigitChars 10 whole 0 * weiPerToken +
          Nat.ofDigitChars 10 (fractionDigits fraction) 0 := by
  cases integer : accumulateDigits input whole 0 with
  | error problem =>
      have whole_fails : ¬ ReadsBelowWord whole := fun reads => by
        rw [(accumulateDigits_eq_ok_iff.mpr ⟨reads, rfl⟩)] at integer
        cases integer
      have overflows : OverflowsAt whole ↔ problem = .overflow input := by
        rw [← accumulateDigits_eq_overflow, integer, Except.error.injEq]
      rw [build_of_whole_error integer, Except.error.injEq, ← overflows]
      simp only [whole_fails, false_and, or_false]
  | ok value =>
      obtain ⟨whole_reads, rfl⟩ := accumulateDigits_eq_ok_iff.mp integer
      have no_overflow : ¬ OverflowsAt whole := fun overflows => by
        rw [accumulateDigits_eq_overflow.mpr overflows] at integer
        cases integer
      simp only [no_overflow, whole_reads, true_and, false_or]
      cases found : fraction.find? (fun character => (decimalDigit? character).isNone) with
      | some other =>
          have not_digits : ¬ ∀ character ∈ fraction, character.isDigit := fun digits => by
            rw [find?_not_decimal_eq_none.mpr digits] at found
            cases found
          rw [build_of_fraction_invalid integer found]
          simp [not_digits]
      | none =>
          have digits := find?_not_decimal_eq_none.mp found
          rw [build_of_digits integer digits]
          split
          · next below => simp [below]
          · next above => exact ⟨fun _ => ⟨digits, Nat.le_of_not_lt above⟩, fun _ => rfl⟩

/-- Reading the parts around the point fails only with an invalid character or an overflow,
naming the text. -/
theorem build_error_cases {error : PriceError}
    (failed : parse.build input whole fraction = .error error) :
    (∃ character, error = .invalidCharacter input character) ∨ error = .overflow input := by
  cases integer : accumulateDigits input whole 0 with
  | error problem =>
      rw [build_of_whole_error integer] at failed
      cases failed
      exact accumulateDigits_error_cases integer
  | ok value =>
      cases found : fraction.find? (fun character => (decimalDigit? character).isNone) with
      | some character =>
          rw [build_of_fraction_invalid integer found] at failed
          cases failed
          exact .inl ⟨character, rfl⟩
      | none =>
          rw [build_of_digits integer (find?_not_decimal_eq_none.mp found)] at failed
          split at failed
          · cases failed
          · cases failed
            exact .inr rfl

end Build

/-! ## The amount read -/

/-- The value of the fraction digits scaled to wei and rounded down is the value of the first
eighteen, padded with zeros. -/
theorem fraction_scaled {fraction : List Char} (digits : ∀ character ∈ fraction, character.isDigit) :
    Nat.ofDigitChars 10 fraction 0 * 10 ^ 18 / 10 ^ fraction.length =
      Nat.ofDigitChars 10 (fractionDigits fraction) 0 := by
  rw [ofDigitChars_fractionDigits]
  by_cases short : fraction.length ≤ 18
  · -- padding: the digits are all kept and scaled up
    rw [List.take_of_length_le short, ← Nat.pow_sub_mul_pow 10 short, ← Nat.mul_assoc,
      Nat.mul_div_cancel _ (by positivity), Nat.mul_comm]
  · -- truncation: the digits past the eighteenth are dropped
    have long : 18 ≤ fraction.length := by omega
    have kept_length : (fraction.take 18).length = 18 := List.length_take_of_le long
    have dropped_small : Nat.ofDigitChars 10 (fraction.drop 18) 0 < 10 ^ (fraction.length - 18) := by
      have dropped_digits : ∀ character ∈ fraction.drop 18, character.isDigit :=
        fun character member => digits character (List.mem_of_mem_drop member)
      have below := ofDigitChars_lt dropped_digits
      rwa [List.length_drop] at below
    have split : Nat.ofDigitChars 10 fraction 0 =
        10 ^ (fraction.length - 18) * Nat.ofDigitChars 10 (fraction.take 18) 0 +
          Nat.ofDigitChars 10 (fraction.drop 18) 0 := by
      conv_lhs => rw [← List.take_append_drop 18 fraction]
      rw [Nat.ofDigitChars_append, Nat.ofDigitChars_eq_ofDigitChars_zero, List.length_drop]
    have powers : 10 ^ fraction.length = 10 ^ 18 * 10 ^ (fraction.length - 18) := by
      rw [← Nat.pow_add]
      congr 1
      omega
    rw [kept_length, Nat.sub_self, Nat.pow_zero, Nat.one_mul, powers, Nat.mul_comm _ (10 ^ 18),
      Nat.mul_div_mul_left _ _ (by positivity), split, Nat.mul_add_div (by positivity),
      Nat.div_eq_of_lt dropped_small, Nat.add_zero]

theorem amountWei_eq {whole fraction : List Char} (digits : ∀ character ∈ fraction, character.isDigit) :
    amountWei whole fraction =
      Nat.ofDigitChars 10 whole 0 * weiPerToken + Nat.ofDigitChars 10 (fractionDigits fraction) 0 := by
  have scaled : ((Nat.ofDigitChars 10 whole 0 : ℚ) +
      Nat.ofDigitChars 10 fraction 0 / 10 ^ fraction.length) * 10 ^ 18 =
      ((10 ^ fraction.length * (Nat.ofDigitChars 10 whole 0 * 10 ^ 18) +
        Nat.ofDigitChars 10 fraction 0 * 10 ^ 18 : ℕ) : ℚ) / ((10 ^ fraction.length : ℕ) : ℚ) := by
    push_cast
    field_simp
    ring
  rw [amountWei, scaled, Nat.floor_div_eq_div, Nat.mul_add_div (by positivity),
    fraction_scaled digits]
  rfl

example : amountWei "12".toList "0000000000000000019".toList = 12000000000000000001 := by
  decide +kernel

/-- The amount of a fraction of digits, written with the first eighteen digits scaled to wei. -/
theorem amountWei_eq_take {whole fraction : List Char}
    (digits : ∀ character ∈ fraction, character.isDigit) :
    amountWei whole fraction =
      Nat.ofDigitChars 10 whole 0 * 10 ^ 18 +
        Nat.ofDigitChars 10 (fraction.take 18) 0 * 10 ^ (18 - (fraction.take 18).length) := by
  rw [amountWei_eq digits, ofDigitChars_fractionDigits, Nat.mul_comm (10 ^ _)]
  rfl

/-! ## Reading a text -/

/-- Reading a text as a price: the outcome and its first error, in the order the reader checks. -/
theorem amount_reading_outcome (input : String) :
    (parse input = .error (.multipleDecimalPoints input) ↔ 2 ≤ input.toList.count '.') ∧
    (∀ character, parse input = .error (.invalidCharacter input character) ↔
      input.toList.count '.' ≤ 1 ∧
        (StopsAt (wholeText input) character ∨
          ReadsBelowWord (wholeText input) ∧ FirstNonDigit (fractionText input) character)) ∧
    (parse input = .error (.overflow input) ↔
      input.toList.count '.' ≤ 1 ∧
        (OverflowsAt (wholeText input) ∨
          ReadsBelowWord (wholeText input) ∧
            (∀ character ∈ fractionText input, character.isDigit) ∧
            2 ^ 191 ≤ amountWei (wholeText input) (fractionText input))) ∧
    (∀ price : Price, parse input = .ok price ↔
      input.toList.count '.' ≤ 1 ∧ ReadsBelowWord (wholeText input) ∧
        (∀ character ∈ fractionText input, character.isDigit) ∧
        price.wei = amountWei (wholeText input) (fractionText input)) ∧
    ((∀ character ∈ fractionText input, character.isDigit) →
      amountWei (wholeText input) (fractionText input) =
        Nat.ofDigitChars 10 (wholeText input) 0 * 10 ^ 18 +
          Nat.ofDigitChars 10 ((fractionText input).take 18) 0 *
            10 ^ (18 - ((fractionText input).take 18).length)) ∧
    (∀ error, parse input = .error error →
      error = .multipleDecimalPoints input ∨
        (∃ character, error = .invalidCharacter input character) ∨ error = .overflow input) := by
  rw [parse_eq]
  by_cases many : 2 ≤ input.toList.count '.'
  · -- too many points: nothing else is looked at
    simp only [if_pos many]
    refine ⟨iff_of_true trivial many, fun character => iff_of_false (by simp) (by omega),
      iff_of_false (by simp) (by omega), fun price => iff_of_false (by simp) (by omega),
      amountWei_eq_take, fun error failed => ?_⟩
    cases failed
    exact .inl rfl
  · have one : input.toList.count '.' ≤ 1 := by omega
    simp only [if_neg many, one, true_and]
    have never_many : parse.build input (wholeText input) (fractionText input) ≠
        .error (.multipleDecimalPoints input) := fun failed => by
      rcases build_error_cases failed with ⟨character, wrong⟩ | wrong <;> cases wrong
    refine ⟨iff_of_false never_many many, fun character => build_eq_invalid, ?_,
      fun price => ?_, amountWei_eq_take, fun error failed => .inr (build_error_cases failed)⟩
    · rw [build_eq_overflow]
      refine or_congr Iff.rfl (and_congr Iff.rfl (and_congr_right fun digits => ?_))
      rw [amountWei_eq digits]
      rfl
    · rw [build_eq_ok, ReadsBelowWord, and_assoc]
      refine and_congr Iff.rfl (and_congr Iff.rfl (and_congr_right fun digits => ?_))
      rw [amountWei_eq digits]

end Price

end MeteredPayments

import MeteredPayments.Proofs.Reading

/-!
# Accumulating decimal digits

Digits read onto a start value stop at the first character that is no digit or whose running
value reaches `2^256`, whichever comes first (`accumulateDigits_outcome`). Running values only
grow, so all stay below `2^256` exactly when the last one does.
-/

namespace MeteredPayments

namespace Price

/-- The value after reading the first `count` characters of `digits` onto `start`: the start
shifted left by `count` decimal places, plus the value of those characters. -/
def runningValue (start : Nat) (digits : List Char) (count : Nat) : Nat :=
  start * 10 ^ count + Nat.ofDigitChars 10 (digits.take count) 0

/-- Reading `digits` onto `start` gets through all of them: each is an ASCII digit, and the
running value after each is below `2^256`. -/
def ReadsOnto (start : Nat) (digits : List Char) : Prop :=
  (∀ character ∈ digits, character.isDigit) ∧
    ∀ count < digits.length, runningValue start digits (count + 1) < wordLimit

theorem runningValue_eq {start : Nat} {digits : List Char} {count : Nat}
    (inside : count ≤ digits.length) :
    runningValue start digits count = Nat.ofDigitChars 10 (digits.take count) start := by
  rw [runningValue, @Nat.ofDigitChars_eq_ofDigitChars_zero (digits.take count) start,
    List.length_take_of_le inside, Nat.mul_comm]

/-- Running values only grow. -/
theorem runningValue_le_runningValue {start : Nat} {digits : List Char} {early late : Nat}
    (ordered : early ≤ late) (inside : late ≤ digits.length) :
    runningValue start digits early ≤ runningValue start digits late := by
  -- the later value reads the characters between the two counts onto the earlier one
  have split := List.take_append_drop early (digits.take late)
  rw [List.take_take, Nat.min_eq_left ordered] at split
  rw [runningValue_eq (ordered.trans inside), runningValue_eq inside, ← split,
    Nat.ofDigitChars_append]
  exact ofDigitChars_ge _ _

/-- The running value after a prefix and one more character is ten times the value of the
prefix, plus the character's digit. -/
theorem runningValue_append_cons (start : Nat) (read rest : List Char) (character : Char) :
    runningValue start (read ++ character :: rest) (read.length + 1) =
      10 * Nat.ofDigitChars 10 read start + (character.toNat - '0'.toNat) := by
  rw [runningValue_eq (by simp), List.take_append, List.take_of_length_le (by omega),
    Nat.add_sub_cancel_left, List.take_succ_cons, List.take_zero, Nat.ofDigitChars_append,
    Nat.ofDigitChars_cons, Nat.ofDigitChars_nil]

/-- With a start below `2^256`, every running value stays below `2^256` exactly when the last
one does. -/
theorem readsOnto_iff {start : Nat} {digits : List Char} (small : start < wordLimit) :
    ReadsOnto start digits ↔
      (∀ character ∈ digits, character.isDigit) ∧ Nat.ofDigitChars 10 digits start < wordLimit := by
  have last : runningValue start digits digits.length = Nat.ofDigitChars 10 digits start := by
    rw [runningValue_eq le_rfl, List.take_length]
  refine and_congr_right fun _ => ⟨fun below => ?_, fun below count inside => ?_⟩
  · rcases Nat.eq_zero_or_pos digits.length with empty | nonempty
    · rwa [List.length_eq_zero_iff.mp empty, Nat.ofDigitChars_nil]
    · have final := below (digits.length - 1) (by omega)
      rwa [Nat.sub_add_cancel nonempty, last] at final
  · calc runningValue start digits (count + 1)
        ≤ runningValue start digits digits.length := runningValue_le_runningValue inside le_rfl
      _ = Nat.ofDigitChars 10 digits start := last
      _ < wordLimit := below

theorem accumulateDigits_eq_ok_iff_readsOnto {input : String} {digits : List Char}
    {start value : Nat} (small : start < wordLimit) :
    accumulateDigits input digits start = .ok value ↔
      ReadsOnto start digits ∧ value = start * 10 ^ digits.length + Nat.ofDigitChars 10 digits 0 := by
  have shifted : Nat.ofDigitChars 10 digits start =
      start * 10 ^ digits.length + Nat.ofDigitChars 10 digits 0 := by
    rw [@Nat.ofDigitChars_eq_ofDigitChars_zero digits start, Nat.mul_comm]
  rw [accumulateDigits_eq_ok small, readsOnto_iff small, and_assoc, shifted]

theorem accumulateDigits_eq_error_iff_stops {input : String} {digits : List Char} {start : Nat}
    (small : start < wordLimit) {error : PriceError} :
    accumulateDigits input digits start = .error error ↔
      ∃ read character rest, digits = read ++ character :: rest ∧ ReadsOnto start read ∧
        (character.isDigit = false ∧ error = .invalidCharacter input character ∨
          character.isDigit = true ∧ wordLimit ≤ runningValue start digits (read.length + 1) ∧
            error = .overflow input) := by
  rw [accumulateDigits_eq_error small]
  refine exists_congr fun read => exists_congr fun character => exists_congr fun rest => ?_
  constructor
  · rintro ⟨rfl, read_digits, below, outcome⟩
    rw [runningValue_append_cons]
    exact ⟨rfl, (readsOnto_iff small).mpr ⟨read_digits, below⟩, outcome⟩
  · rintro ⟨rfl, reads, outcome⟩
    rw [runningValue_append_cons] at outcome
    obtain ⟨read_digits, below⟩ := (readsOnto_iff small).mp reads
    exact ⟨rfl, read_digits, below, outcome⟩

theorem accumulateDigits_outcome (input : String) (digits : List Char) {start : Nat}
    (small : start < wordLimit) (result : Except PriceError Nat) :
    accumulateDigits input digits start = result ↔
      (ReadsOnto start digits ∧
          result = .ok (start * 10 ^ digits.length + Nat.ofDigitChars 10 digits 0)) ∨
        ∃ read character rest, digits = read ++ character :: rest ∧ ReadsOnto start read ∧
          (character.isDigit = false ∧ result = .error (.invalidCharacter input character) ∨
            character.isDigit = true ∧ wordLimit ≤ runningValue start digits (read.length + 1) ∧
              result = .error (.overflow input)) := by
  cases result with
  | ok value =>
      rw [accumulateDigits_eq_ok_iff_readsOnto small]
      simp
  | error error =>
      rw [accumulateDigits_eq_error_iff_stops small]
      simp

/-- Reading `7x` from zero stops at the letter. -/
theorem digit_then_letter_stops_at_letter :
    0 < wordLimit ∧ accumulateDigits "7x" ['7', 'x'] 0 = .error (.invalidCharacter "7x" 'x') :=
  ⟨by decide, (accumulateDigits_outcome "7x" ['7', 'x'] (by decide) _).mpr
    (.inr ⟨['7'], 'x', [], rfl, ⟨by simp, by decide +kernel⟩, .inl ⟨rfl, rfl⟩⟩)⟩

end Price

end MeteredPayments

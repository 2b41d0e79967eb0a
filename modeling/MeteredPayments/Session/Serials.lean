import MeteredPayments.Session.Store

/-!
# Serial session ids

The id source of a provider that runs on its own: the ids `sessionId 1`, `sessionId 2`, … in
turn, each shaped as a random UUID whose last twelve hexadecimal digits are the serial. The digits
read back as the serial (`serialOf_sessionId`), so no id comes twice and a draw beyond every
serial taken is free.
-/

namespace MeteredPayments

namespace Store

/-- Twelve lowercase hexadecimal digits of a number. -/
def serialDigits (serial : Nat) : String :=
  let digits := Nat.toDigits 16 serial
  String.ofList (List.replicate (12 - digits.length) '0' ++ digits)

/-- The id of the session created as number `serial`, shaped as a random UUID. -/
def sessionId (serial : Nat) : String :=
  "5e55104d-0000-4000-8000-" ++ serialDigits serial

/-- The value of a lowercase hexadecimal digit, as `Nat.digitChar` writes it. -/
def hexDigitValue (digit : Char) : Nat := ((List.range 16).map Nat.digitChar).idxOf digit

/-- The number written by lowercase hexadecimal digits, most significant first. -/
def hexValue (digits : List Char) : Nat :=
  digits.foldl (fun value digit => 16 * value + hexDigitValue digit) 0

/-- The serial of an id the store hands out: its digits after the 24-character prefix. -/
def serialOf (sessionId : String) : Nat := hexValue (sessionId.toList.drop 24)

theorem hexDigitValue_digitChar : ∀ digit < 16, hexDigitValue (Nat.digitChar digit) = digit := by
  decide

/-- Leading zeros read as zero. -/
theorem foldl_zeros (count : Nat) :
    (List.replicate count '0').foldl (fun value digit => 16 * value + hexDigitValue digit) 0 = 0 := by
  induction count with
  | zero => rfl
  | succ count induction =>
      have zeroValue : 16 * 0 + hexDigitValue '0' = 0 := by decide
      rw [List.replicate_succ, List.foldl_cons, zeroValue, induction]

theorem hexValue_toDigits (value : Nat) : hexValue (Nat.toDigits 16 value) = value := by
  induction value using Nat.base_induction 16 (by decide) with
  | single digit small =>
      simp [hexValue, Nat.toDigits_of_lt_base small, hexDigitValue_digitChar digit small]
  | digit high low small positive induction =>
      rw [← Nat.toDigits_append_toDigits (by decide) positive small, hexValue, List.foldl_append,
        ← hexValue, induction, Nat.toDigits_of_lt_base small]
      simp [hexDigitValue_digitChar low small]

theorem serialOf_sessionId (serial : Nat) : serialOf (sessionId serial) = serial := by
  have prefixLength : "5e55104d-0000-4000-8000-".toList.length = 24 := by simp
  have written : (sessionId serial).toList =
      "5e55104d-0000-4000-8000-".toList ++ (serialDigits serial).toList := by
    unfold sessionId
    exact String.toList_append
  have padded : (serialDigits serial).toList =
      List.replicate (12 - (Nat.toDigits 16 serial).length) '0' ++ Nat.toDigits 16 serial := by
    unfold serialDigits
    exact String.toList_ofList
  rw [serialOf, written, List.drop_left' prefixLength, padded, hexValue, List.foldl_append,
    foldl_zeros, ← hexValue, hexValue_toDigits]

/-- The sum of the serials of the taken ids. -/
def serialTotal (taken : List String) : Nat := taken.foldr (fun id total => serialOf id + total) 0

/-- A taken id has a serial no larger than the sum of the serials taken. -/
theorem serialOf_le_serialTotal {taken : List String} {sessionId : String}
    (member : sessionId ∈ taken) : serialOf sessionId ≤ serialTotal taken := by
  induction taken with
  | nil => cases member
  | cons first rest induction =>
      rw [serialTotal, List.foldr_cons, ← serialTotal]
      rcases List.mem_cons.mp member with rfl | later
      · exact Nat.le_add_right _ _
      · exact Nat.le_add_left_of_le (induction later)

end Store

/-- The serial ids, drawn from the first on: the draw after every serial taken is free. -/
def IdSource.serials : IdSource where
  draw index := Store.sessionId (index + 1)
  drawn := 0
  freeBy taken start := start + Store.serialTotal taken
  freeBy_spec taken start := by
    refine ⟨Nat.le_add_right _ _, fun member => ?_⟩
    have bounded := Store.serialOf_le_serialTotal member
    rw [Store.serialOf_sessionId] at bounded
    omega

end MeteredPayments

/-!
# Double-precision numbers

A JSON number that is no integer is handed on as a double only when its text is the double's own,
the shortest decimal that reads back to it in compact or plain form. All of it is exact arithmetic
on naturals and integers.
-/

namespace MeteredPayments.Json

/-- A finite double-precision number: `significand * 2^exponent`, negated when `negative`. The
significand is below `2^53`, and at least `2^52` unless the exponent is the least one. -/
structure Binary64 where
  /-- Whether the number is negative (zero may be negative too). -/
  negative : Bool
  /-- The integer significand. -/
  significand : Nat
  /-- The binary exponent. -/
  exponent : Int
deriving DecidableEq, Repr

namespace Binary64

/-- The least binary exponent, that of the subnormal numbers. -/
def minExponent : Int := -1074

/-- The greatest binary exponent of a finite number. -/
def maxExponent : Int := 971

/-- The number of binary digits of a natural number, one for zero. -/
def bitLength (value : Nat) : Nat := value.log2 + 1

/-- `numerator / denominator` rounded to the nearest integer, ties to the even one. -/
def roundHalfEven (numerator denominator : Nat) : Nat :=
  let quotient := numerator / denominator
  let twice := 2 * (numerator % denominator)
  if twice > denominator then quotient + 1
  else if twice < denominator then quotient
  else if quotient % 2 = 1 then quotient + 1 else quotient

/-- The fraction `numerator / (denominator * 2^exponent)`, as a numerator and a denominator. -/
def scaled (numerator denominator : Nat) (exponent : Int) : Nat × Nat :=
  if exponent ≥ 0 then (numerator, denominator * Nat.pow 2 exponent.toNat)
  else (numerator * Nat.pow 2 (-exponent).toNat, denominator)

/-- Moves a binary exponent until `numerator / (denominator * 2^exponent)` lies in
`[2^52, 2^53)`, at most `fuel` steps. -/
def settleExponent (numerator denominator : Nat) : Nat → Int → Int
  | 0, exponent => exponent
  | fuel + 1, exponent =>
    let (top, bottom) := scaled numerator denominator exponent
    if top ≥ bottom * Nat.pow 2 53 then settleExponent numerator denominator fuel (exponent + 1)
    else if top < bottom * Nat.pow 2 52 then settleExponent numerator denominator fuel (exponent - 1)
    else exponent

/-- The double nearest to `digits * 10^exponent`, negated when `negative`, ties to the even
significand; none when it is too large to be finite. -/
def ofDecimal (negative : Bool) (digits : Nat) (exponent : Int) : Option Binary64 :=
  let count : Int := (toString digits).length
  if digits = 0 then some ⟨negative, 0, minExponent⟩
  else if count + exponent > 310 then none
  else if count + exponent < -330 then some ⟨negative, 0, minExponent⟩
  else
    let (numerator, denominator) :=
      if exponent ≥ 0 then (digits * Nat.pow 10 exponent.toNat, 1)
      else (digits, Nat.pow 10 (-exponent).toNat)
    let estimate : Int := (bitLength numerator : Int) - (bitLength denominator : Int) - 53
    let binary := max (settleExponent numerator denominator 4 estimate) minExponent
    let (top, bottom) := scaled numerator denominator binary
    let significand := roundHalfEven top bottom
    let (significand, binary) :=
      if significand = Nat.pow 2 53 then (Nat.pow 2 52, binary + 1) else (significand, binary)
    if binary > maxExponent then none else some ⟨negative, significand, binary⟩

/-- The decimal digits that reads back to a positive double at decimal exponent `k`, if any:
the nearest to the double, ties to even. `value`, `low` and `high` are the double and the ends
of its rounding interval in units of `2^unitExponent`. -/
def candidateAt (value low high : Nat) (inclusive : Bool) (unitExponent k : Int) : Option Nat :=
  let left := Nat.pow 2 (max unitExponent 0).toNat * Nat.pow 10 (max (-k) 0).toNat
  let unit := Nat.pow 10 (max k 0).toNat * Nat.pow 2 (max (-unitExponent) 0).toNat
  let least := if inclusive then (low * left + unit - 1) / unit else low * left / unit + 1
  let most := if inclusive then high * left / unit else (high * left - 1) / unit
  if least ≤ most then
    let quotient := value * left / unit
    let twice := 2 * (value * left % unit)
    let preferred :=
      if twice > unit then quotient + 1
      else if twice < unit then quotient
      else if quotient % 2 = 0 then quotient else quotient + 1
    let other := if preferred = quotient then quotient + 1 else quotient
    some (if least ≤ preferred ∧ preferred ≤ most then preferred else other)
  else none

/-- Tries decimal exponents from `k` down, at most `fuel` of them, for the first that holds a
decimal reading back to the double. -/
def searchDown (value low high : Nat) (inclusive : Bool) (unitExponent : Int) :
    Nat → Int → Nat × Int
  | 0, k => (value, k)
  | fuel + 1, k =>
    match candidateAt value low high inclusive unitExponent k with
    | some digits => (digits, k)
    | none => searchDown value low high inclusive unitExponent fuel (k - 1)

/-- The shortest decimal `digits * 10^k` that reads back to the positive double
`significand * 2^exponent`, the nearest to it among the shortest. -/
def shortest (significand : Nat) (exponent : Int) : Nat × Int :=
  let asymmetric := significand = Nat.pow 2 52 ∧ exponent > minExponent
  let value := 4 * significand
  let low := if asymmetric then value - 1 else value - 2
  let start : Int := ((bitLength significand : Int) + exponent) * 30103 / 100000 + 3
  searchDown value low (value + 2) (significand % 2 = 0) (exponent - 2) 60 start

/-- A run of zeros. -/
def zeros (count : Nat) : List Char := List.replicate count '0'

/-- The compact form: positional when the decimal point falls within sixteen digits of the
first digit (with `.0` after an integer), scientific otherwise. -/
def compactText (number : Binary64) : String :=
  let sign := if number.negative then "-" else ""
  if number.significand = 0 then sign ++ "0.0"
  else
    let (digits, k) := shortest number.significand number.exponent
    let digits := (toString digits).toList
    let point : Int := digits.length + k
    let body :=
      if 0 ≤ k ∧ point ≤ 16 then digits ++ zeros k.toNat ++ ['.', '0']
      else if 0 < point ∧ point ≤ 16 then
        digits.take point.toNat ++ '.' :: digits.drop point.toNat
      else if -5 < point ∧ point ≤ 0 then '0' :: '.' :: zeros (-point).toNat ++ digits
      else
        let mantissa := match digits with
          | [digit] => [digit]
          | digit :: rest => digit :: '.' :: rest
          | [] => []
        mantissa ++ 'e' :: (toString (point - 1)).toList
    sign ++ String.ofList body

/-- The plain positional form, with no decimal point after an integer. -/
def plainText (number : Binary64) : String :=
  let sign := if number.negative then "-" else ""
  if number.significand = 0 then sign ++ "0"
  else
    let (digits, k) := shortest number.significand number.exponent
    let digits := (toString digits).toList
    let point : Int := digits.length + k
    let body :=
      if 0 ≤ k then digits ++ zeros k.toNat
      else if 0 < point then digits.take point.toNat ++ '.' :: digits.drop point.toNat
      else '0' :: '.' :: zeros (-point).toNat ++ digits
    sign ++ String.ofList body

/-- How a message shows the number: its plain form, with `.0` added when that has no decimal
point. -/
def describe (number : Binary64) : String :=
  let text := number.plainText
  if text.contains '.' then text else text ++ ".0"

/-- The value of a run of decimal digits, if it is one. -/
def digitsValue (digits : List Char) : Option Nat :=
  if digits.all Char.isDigit then
    some (digits.foldl (fun value digit => 10 * value + (digit.toNat - 48)) 0)
  else none

/-- The sign, the digits and the decimal exponent of the text of a JSON number: an optional
minus, digits with an optional fraction, and an optional exponent. -/
def decimalParts (text : String) : Option (Bool × Nat × Int) := do
  let characters := text.toList
  let (negative, characters) := match characters with
    | '-' :: rest => (true, rest)
    | _ => (false, characters)
  let (mantissa, exponentPart) := characters.span fun c => c ≠ 'e' ∧ c ≠ 'E'
  let (whole, fraction) := mantissa.span (· ≠ '.')
  let fraction := fraction.drop 1
  let exponent : Int ← match exponentPart with
    | [] => some 0
    | _ :: '-' :: digits => (fun value => -(value : Int)) <$> digitsValue digits
    | _ :: '+' :: digits => (Int.ofNat ·) <$> digitsValue digits
    | _ :: digits => (Int.ofNat ·) <$> digitsValue digits
  let digits ← digitsValue (whole ++ fraction)
  pure (negative, digits, exponent - fraction.length)

/-- The double a JSON number's text reads as, if it is finite. -/
def ofText? (text : String) : Option Binary64 := do
  let (negative, digits, exponent) ← decimalParts text
  ofDecimal negative digits exponent

/-- Whether a JSON number's text is the double's own, in either form. -/
def isOwnText (number : Binary64) (text : String) : Bool :=
  number.compactText = text || number.plainText = text

end Binary64

end MeteredPayments.Json

/-!
# Prices

A price is a whole number of wei below `2^191`, so a price times a 64-bit quantity stays below
`2^255` and no cost wraps. Prices are written as decimal token amounts, read with their checks in
a fixed order and their fraction past the eighteenth digit dropped.
-/

namespace MeteredPayments

/-- One token is `10^18` wei. -/
def weiPerToken : Nat := Nat.pow 10 18

/-- Every price is below `2^191` wei. -/
def priceLimit : Nat := Nat.pow 2 191

/-- Amounts of wei are 256-bit words: every amount is below `2^256`. -/
def wordLimit : Nat := Nat.pow 2 256

/-- The largest 256-bit word, where saturating sums stop. -/
def wordMax : Nat := wordLimit - 1

/-- A sum that stops at the largest 256-bit word. -/
def saturatingAdd (left right : Nat) : Nat := min (left + right) wordMax

/-- The product of two 256-bit words, wrapping around past the largest word. -/
def wordMul (left right : Nat) : Nat := left * right % wordLimit

/-- The sum of two 256-bit words, wrapping around past the largest word. -/
def wordAdd (left right : Nat) : Nat := (left + right) % wordLimit

/-- A price in wei, below the price limit. -/
structure Price where
  /-- The amount in wei. -/
  wei : Nat
  /-- Every price is below `2^191` wei. -/
  wei_lt : wei < priceLimit
deriving DecidableEq

/-- Why a text or an amount is no price. -/
inductive PriceError where
  /-- The text has two or more points. -/
  | multipleDecimalPoints (input : String)
  /-- The text holds a character that is no ASCII digit where a digit belongs. -/
  | invalidCharacter (input : String) (character : Char)
  /-- The amount is not below the price limit. -/
  | overflow (input : String)
deriving DecidableEq, Repr

namespace PriceError

/-- The sentence that reports the error. -/
def message : PriceError → String
  | .multipleDecimalPoints input => s!"more than one decimal point in \"{input}\""
  | .invalidCharacter input character => s!"invalid character '{character}' in \"{input}\""
  | .overflow input => s!"\"{input}\" is not below the price limit of 2^191 wei"

/-- The name of the kind of error. -/
def kind : PriceError → String
  | .multipleDecimalPoints _ => "MultipleDecimalPoints"
  | .invalidCharacter _ _ => "InvalidCharacter"
  | .overflow _ => "Overflow"

end PriceError

/-- The value of an ASCII decimal digit; other characters have none. -/
def decimalDigit? (character : Char) : Option Nat :=
  if '0' ≤ character ∧ character ≤ '9' then some (character.toNat - '0'.toNat) else none

/-- Appends decimal digits to `start`, refusing a character that is no ASCII digit and a running
value that reaches `2^256`; `input` is the whole text, for the error. -/
def accumulateDigits (input : String) (digits : List Char) (start : Nat) :
    Except PriceError Nat :=
  digits.foldlM step start
where
  /-- One more digit on the right of `value`. -/
  step (value : Nat) (character : Char) : Except PriceError Nat :=
    match decimalDigit? character with
    | none => .error (.invalidCharacter input character)
    | some digit =>
      if 10 * value + digit < wordLimit then .ok (10 * value + digit) else .error (.overflow input)

namespace Price

/-- The price of nothing. -/
def zero : Price := ⟨0, by decide⟩

instance : Inhabited Price := ⟨zero⟩

/-- The price of `wei` wei, refused when it is not below the limit. -/
def ofWei (wei : Nat) : Except PriceError Price :=
  if h : wei < priceLimit then .ok ⟨wei, h⟩ else .error (.overflow (toString wei))

/-- Whether the price is zero. -/
def isZero (price : Price) : Bool := price.wei == 0

/-- The cost of `quantity` units at this price, as a word. -/
def cost (price : Price) (quantity : Nat) : Nat := wordMul price.wei quantity

/-- The first 18 fraction digits, padded on the right with zeros to 18. -/
def fractionDigits (fraction : List Char) : List Char :=
  let kept := fraction.take 18
  kept ++ List.replicate (18 - kept.length) '0'

/-- Reads a decimal token amount (see the module comment for the order of the checks). -/
def parse (input : String) : Except PriceError Price :=
  match input.toList.splitOn '.' with
  | [whole] => build whole []
  | [whole, fraction] => build whole fraction
  | _ => .error (.multipleDecimalPoints input)
where
  /-- The price from the characters before the point and those after it. -/
  build (whole fraction : List Char) : Except PriceError Price := do
    let integer ← accumulateDigits input whole 0
    match fraction.find? (fun character => (decimalDigit? character).isNone) with
    | some character => .error (.invalidCharacter input character)
    | none =>
      let part ← accumulateDigits input (fractionDigits fraction) 0
      let wei := integer * weiPerToken + part
      if h : wei < priceLimit then .ok ⟨wei, h⟩ else .error (.overflow input)

/-- `value` in decimal, padded on the left with zeros to `width` digits. -/
def padDecimal (value width : Nat) : String :=
  let digits := toString value
  String.ofList (List.replicate (width - digits.length) '0') ++ digits

/-- The price as a decimal token amount: the whole tokens, then, unless it is zero, a point and
the 18-digit fraction without its trailing zeros. -/
def toDecimalString (price : Price) : String :=
  let whole := price.wei / weiPerToken
  let fraction := price.wei % weiPerToken
  if fraction = 0 then toString whole
  else
    let digits := (padDecimal fraction 18).toList
    toString whole ++ "." ++ String.ofList (digits.reverse.dropWhile (· = '0')).reverse

instance : ToString Price := ⟨toDecimalString⟩

end Price

end MeteredPayments

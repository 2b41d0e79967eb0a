/-!
# Punycode

The bootstring encoding of RFC 3492 as domain names use it after `xn--`, with its refusals: a
character that is no base-36 digit, a number cut short, a value past 32 bits or no scalar value.
-/

namespace MeteredPayments.Domain.Punycode

/-- The bound that every intermediate value stays below: 32 bits. -/
def limit : Nat := Nat.pow 2 32

/-- The value of a base-36 digit: `a`-`z` (either case) are 0 to 25, `0`-`9` are 26 to 35. -/
def digitValue (character : Char) : Option Nat :=
  let code := character.toNat
  if 0x30 ≤ code ∧ code ≤ 0x39 then some (code - 0x30 + 26)
  else if 0x41 ≤ code ∧ code ≤ 0x5A then some (code - 0x41)
  else if 0x61 ≤ code ∧ code ≤ 0x7A then some (code - 0x61)
  else none

/-- The threshold of the digit at position `k`, between 1 and 26. -/
def threshold (k bias : Nat) : Nat :=
  if k ≤ bias then 1 else if bias + 26 ≤ k then 26 else k - bias

/-- Divides `delta` by 35 until it is at most 455, counting 36 for each division. -/
def shrink (delta k : Nat) : Nat × Nat :=
  if 455 < delta then shrink (delta / 35) (k + 36) else (delta, k)
termination_by delta
decreasing_by omega

/-- The bias after a delta, from the delta, the number of code points so far, and whether it
is the first delta. -/
def adapt (delta points : Nat) (first : Bool) : Nat :=
  let delta := if first then delta / 700 else delta / 2
  let delta := delta + delta / points
  let (delta, k) := shrink delta 0
  k + 36 * delta / (delta + 38)

/-- Reads one variable-length number onto `index`: the new index and the input after the
number, or none. -/
def readNumber (bias : Nat) : Nat → Nat → Nat → List Char → Option (Nat × List Char)
  | _, _, _, [] => none
  | index, weight, k, character :: rest => do
    let digit ← digitValue character
    let index := index + digit * weight
    if limit ≤ digit * weight ∨ limit ≤ index then none
    else
      let t := threshold k bias
      if digit < t then some (index, rest)
      else
        let weight := weight * (36 - t)
        if limit ≤ weight then none else readNumber bias index weight (k + 36) rest

/-- Inserts the code points the numbers of `input` stand for into `output`; `index` is where
the next one may go, `code` the value of the last one, and `fuel` bounds the count of numbers
(each takes at least one character). -/
def insertAll : Nat → List Char → Nat → Nat → Nat → List Char → Option (List Char)
  | _, output, _, _, _, [] => some output
  | 0, _, _, _, _, _ :: _ => none
  | fuel + 1, output, index, code, bias, input@(_ :: _) => do
    let (next, rest) ← readNumber bias index 1 36 input
    let size := output.length + 1
    let bias := adapt (next - index) size (index = 0)
    let code := code + next / size
    if limit ≤ code ∨ !code.isValidChar then none
    else
      let position := next % size
      insertAll fuel (output.insertIdx position (Char.ofNat code)) (position + 1) code bias rest

/-- Decodes the part of a label after `xn--`: the ASCII code points before the last hyphen,
with the code points of the numbers after it inserted. A hyphen that starts the text leaves the
whole text to the numbers. -/
def decode (input : List Char) : Option (List Char) :=
  match input.reverse.findIdx? (· = '-') with
  | some fromEnd =>
    let position := input.length - 1 - fromEnd
    let numbers := if position = 0 then input else input.drop (position + 1)
    insertAll numbers.length (input.take position) 0 128 72 numbers
  | none => insertAll input.length [] 0 128 72 input

end MeteredPayments.Domain.Punycode

import MeteredPayments.Json.Value
import MeteredPayments.Price.Basic

/-!
# Pricing

A provider charges a price per processed block and a price per transferred byte. The cost of a
usage report is the sum of the two products, in 256-bit words; since both prices are below
`2^191` and both quantities below `2^64`, the sum stays below `2^256` and never wraps.
-/

namespace MeteredPayments

/-- The prices a provider charges. -/
structure Pricing where
  /-- Price of one processed block. -/
  perBlock : Price
  /-- Price of one transferred byte. -/
  perByte : Price
deriving DecidableEq

namespace Pricing

/-- Charges nothing. -/
def free : Pricing := ⟨Price.zero, Price.zero⟩

instance : Inhabited Pricing := ⟨free⟩

/-- Reads both prices as decimal token amounts, the block price first. -/
def parse (perBlock perByte : String) : Except PriceError Pricing := do
  let block ← Price.parse perBlock
  let byte ← Price.parse perByte
  pure ⟨block, byte⟩

/-- The cost of `blocks` processed blocks and `bytes` transferred bytes, as a word. -/
def usageCost (pricing : Pricing) (blocks bytes : Nat) : Nat :=
  wordAdd (pricing.perBlock.cost blocks) (pricing.perByte.cost bytes)

/-- The record form: both prices as decimal token amounts. -/
def toJson (pricing : Pricing) : Json :=
  .object [("price_per_block", .string pricing.perBlock.toDecimalString),
    ("price_per_byte", .string pricing.perByte.toDecimalString)]

end Pricing

end MeteredPayments

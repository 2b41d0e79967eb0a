import Mathlib
import MeteredPayments.Price.Pricing

/-!
# Costs never wrap

A price is below `2^191` wei and a quantity below `2^64`, so every cost of a usage report is the
exact product or sum, with no bit to spare at the largest price and quantity.
-/

namespace MeteredPayments

namespace Price

/-- Turning wei into a price succeeds exactly below `2^191`, and keeps the amount. -/
theorem ofWei_eq_ok {wei : Nat} {price : Price} :
    ofWei wei = .ok price ↔ price.wei = wei ∧ wei < 2 ^ 191 := by
  unfold ofWei
  split
  · next below =>
      constructor
      · rintro ⟨⟩
        exact ⟨rfl, below⟩
      · rintro ⟨rfl, -⟩
        rfl
  · next above =>
      constructor
      · rintro ⟨⟩
      · rintro ⟨-, below⟩
        exact absurd below above

/-- A price times a 64-bit quantity is below `2^255`. -/
theorem mul_lt (price : Price) {quantity : Nat} (small : quantity < 2 ^ 64) :
    price.wei * quantity < 2 ^ 255 :=
  calc price.wei * quantity < priceLimit * 2 ^ 64 := Nat.mul_lt_mul'' price.wei_lt small
    _ = 2 ^ 255 := by decide

/-- The cost of a 64-bit quantity is the exact product: it never wraps. -/
theorem cost_eq_mul (price : Price) {quantity : Nat} (small : quantity < 2 ^ 64) :
    price.cost quantity = price.wei * quantity := by
  have fits : price.wei * quantity < wordLimit := (price.mul_lt small).trans (by decide)
  exact Nat.mod_eq_of_lt fits

end Price

namespace Pricing

variable (pricing : Pricing) {blocks bytes : Nat}

/-- The block and byte costs of 64-bit quantities add up to less than `2^256`. -/
theorem costs_lt (blocks_small : blocks < 2 ^ 64) (bytes_small : bytes < 2 ^ 64) :
    pricing.perBlock.wei * blocks + pricing.perByte.wei * bytes < 2 ^ 256 := by
  have block_cost := pricing.perBlock.mul_lt blocks_small
  have byte_cost := pricing.perByte.mul_lt bytes_small
  omega

/-- The cost of a usage report of 64-bit quantities is the exact sum of its block and byte
costs. -/
theorem usageCost_eq (blocks_small : blocks < 2 ^ 64) (bytes_small : bytes < 2 ^ 64) :
    pricing.usageCost blocks bytes =
      pricing.perBlock.wei * blocks + pricing.perByte.wei * bytes := by
  have fits : pricing.perBlock.wei * blocks + pricing.perByte.wei * bytes < wordLimit :=
    pricing.costs_lt blocks_small bytes_small
  rw [usageCost, pricing.perBlock.cost_eq_mul blocks_small,
    pricing.perByte.cost_eq_mul bytes_small, wordAdd, Nat.mod_eq_of_lt fits]

/-- Pricing two usage reports together costs what pricing them apart does, while the combined
quantities are 64-bit counts. -/
theorem usageCost_add {moreBlocks moreBytes : Nat} (blocks_small : blocks + moreBlocks < 2 ^ 64)
    (bytes_small : bytes + moreBytes < 2 ^ 64) :
    pricing.usageCost (blocks + moreBlocks) (bytes + moreBytes) =
      pricing.usageCost blocks bytes + pricing.usageCost moreBlocks moreBytes := by
  rw [pricing.usageCost_eq blocks_small bytes_small,
    pricing.usageCost_eq (by omega : blocks < 2 ^ 64) (by omega : bytes < 2 ^ 64),
    pricing.usageCost_eq (by omega : moreBlocks < 2 ^ 64) (by omega : moreBytes < 2 ^ 64),
    Nat.mul_add, Nat.mul_add]
  omega

end Pricing

/-- Every price is below `2^191` wei, and no cost of 64-bit quantities wraps. -/
theorem costs_never_wrap :
    (∀ price : Price, price.wei < 2 ^ 191) ∧
    (∀ (wei : Nat) (price : Price), Price.ofWei wei = .ok price ↔ price.wei = wei ∧ wei < 2 ^ 191) ∧
    (∀ (price : Price) (quantity : Nat), quantity < 2 ^ 64 →
      price.cost quantity = price.wei * quantity ∧ price.wei * quantity < 2 ^ 255) ∧
    (∀ (pricing : Pricing) (blocks bytes : Nat), blocks < 2 ^ 64 → bytes < 2 ^ 64 →
      pricing.usageCost blocks bytes = pricing.perBlock.wei * blocks + pricing.perByte.wei * bytes ∧
      pricing.perBlock.wei * blocks + pricing.perByte.wei * bytes < 2 ^ 256) ∧
    (∀ (pricing : Pricing) (blocks moreBlocks bytes moreBytes : Nat),
      blocks + moreBlocks < 2 ^ 64 → bytes + moreBytes < 2 ^ 64 →
      pricing.usageCost (blocks + moreBlocks) (bytes + moreBytes) =
        pricing.usageCost blocks bytes + pricing.usageCost moreBlocks moreBytes) := by
  refine ⟨fun price => price.wei_lt, fun _ _ => Price.ofWei_eq_ok, ?_, ?_, ?_⟩
  · intro price quantity small
    exact ⟨price.cost_eq_mul small, price.mul_lt small⟩
  · intro pricing blocks bytes blocks_small bytes_small
    exact ⟨pricing.usageCost_eq blocks_small bytes_small,
      pricing.costs_lt blocks_small bytes_small⟩
  · intro pricing blocks moreBlocks bytes moreBytes blocks_small bytes_small
    exact pricing.usageCost_add blocks_small bytes_small

/-- The largest price, one wei below the limit. -/
def Price.largest : Price := ⟨2 ^ 191 - 1, by decide⟩

/-- At the largest prices and the largest 64-bit quantities, the cost of a usage report is twice
the largest price times the largest quantity, and it fits a word. -/
theorem largest_usage_cost_fits :
    (2 ^ 64 - 1 < 2 ^ 64) ∧
    (Pricing.mk Price.largest Price.largest).usageCost (2 ^ 64 - 1) (2 ^ 64 - 1) =
      (2 ^ 191 - 1) * (2 ^ 64 - 1) + (2 ^ 191 - 1) * (2 ^ 64 - 1) ∧
    (2 ^ 191 - 1) * (2 ^ 64 - 1) + (2 ^ 191 - 1) * (2 ^ 64 - 1) < 2 ^ 256 :=
  ⟨by decide, costs_never_wrap.2.2.2.1 _ _ _ (by decide) (by decide)⟩

end MeteredPayments

import MeteredPayments.Proofs.Bytes
import MeteredPayments.Signer.Proof

/-!
# The layout of authorization preimages

An authorization preimage packs chain id, contract, tag, deadline and authorizer at fixed places,
so its slices read back the fields and equal preimages have equal fields
(`authorization_preimage_layout`).
-/

namespace MeteredPayments

/-- The middle of three concatenated byte strings lies between the size of the first and that
size plus its own. -/
theorem ByteArray.extract_of_eq_append {bytes before middle after : ByteArray} {start stop : Nat}
    (split : bytes = before ++ middle ++ after) (at_start : before.size = start)
    (at_stop : start + middle.size = stop) : bytes.extract start stop = middle := by
  have shifted := @ByteArray.extract_append_size_add before (middle ++ after) 0 middle.size
  rw [Nat.add_zero, ByteArray.extract_append_eq_left rfl] at shifted
  rw [split, ByteArray.append_assoc, ← at_stop, ← at_start, shifted]

namespace Signer

/-- Reads the fields of an authorization preimage from their fixed places, each big-endian: the
chain id from bytes 0 to 32, the contract from 32 to 52, the deadline from 72 to 104 and the
authorizer from 104 to 124. -/
def readPreimage (bytes : ByteArray) : Nat × Address × Nat × Address :=
  (BigEndian.toNat (bytes.extract 0 32), Address.ofNat (BigEndian.toNat (bytes.extract 32 52)),
    BigEndian.toNat (bytes.extract 72 104), Address.ofNat (BigEndian.toNat (bytes.extract 104 124)))

@[simp] theorem utf8ByteSize_proofTag : proofTag.utf8ByteSize = 20 := by decide

/-- The tag is ASCII: each of its characters is one byte, the character's code. -/
theorem proofTag_codes :
    proofTag.toUTF8.data.toList.map UInt8.toNat = proofTag.toList.map Char.toNat := by
  decide

section Layout

variable (chainId deadline : Nat) (contract authorizer : Address)

@[simp] theorem size_preimage : (preimage chainId contract deadline authorizer).size = 124 := by
  simp [preimage]

-- Each slice splits the preimage into what comes before it, the field and what follows.

theorem preimage_chainId :
    (preimage chainId contract deadline authorizer).extract 0 32 = BigEndian.word chainId :=
  @ByteArray.extract_of_eq_append _ ByteArray.empty (BigEndian.word chainId)
    (contract.toBytes ++ proofTag.toUTF8 ++ BigEndian.word deadline ++ authorizer.toBytes) _ _
    (by simp only [preimage, ByteArray.append_assoc, ByteArray.empty_append]) rfl (by simp)

theorem preimage_contract :
    (preimage chainId contract deadline authorizer).extract 32 52 = contract.toBytes :=
  @ByteArray.extract_of_eq_append _ (BigEndian.word chainId) contract.toBytes
    (proofTag.toUTF8 ++ BigEndian.word deadline ++ authorizer.toBytes) _ _
    (by simp only [preimage, ByteArray.append_assoc]) (by simp) (by simp)

theorem preimage_tag :
    (preimage chainId contract deadline authorizer).extract 52 72 = proofTag.toUTF8 :=
  @ByteArray.extract_of_eq_append _ (BigEndian.word chainId ++ contract.toBytes) proofTag.toUTF8
    (BigEndian.word deadline ++ authorizer.toBytes) _ _
    (by simp only [preimage, ByteArray.append_assoc]) (by simp) (by simp)

theorem preimage_deadline :
    (preimage chainId contract deadline authorizer).extract 72 104 = BigEndian.word deadline :=
  @ByteArray.extract_of_eq_append _ (BigEndian.word chainId ++ contract.toBytes ++ proofTag.toUTF8)
    (BigEndian.word deadline) authorizer.toBytes _ _
    (by simp only [preimage, ByteArray.append_assoc]) (by simp) (by simp)

theorem preimage_authorizer :
    (preimage chainId contract deadline authorizer).extract 104 124 = authorizer.toBytes :=
  @ByteArray.extract_of_eq_append _
    (BigEndian.word chainId ++ contract.toBytes ++ proofTag.toUTF8 ++ BigEndian.word deadline)
    authorizer.toBytes ByteArray.empty _ _
    (by simp only [preimage, ByteArray.append_empty]) (by simp) (by simp)

end Layout

/-- The fields read back from a preimage are the fields it packs, for a chain id and a deadline
below `2^256`. -/
theorem readPreimage_preimage {chainId deadline : Nat} (chainFits : chainId < 2 ^ 256)
    (deadlineFits : deadline < 2 ^ 256) (contract authorizer : Address) :
    readPreimage (preimage chainId contract deadline authorizer) =
      (chainId, contract, deadline, authorizer) := by
  rw [readPreimage, preimage_chainId, preimage_contract, preimage_deadline, preimage_authorizer,
    BigEndian.toNat_word chainFits, BigEndian.toNat_word deadlineFits, Address.ofNat_toNat_toBytes,
    Address.ofNat_toNat_toBytes]

theorem authorization_preimage_layout {chainId deadline : Nat} (chainFits : chainId < 2 ^ 256)
    (deadlineFits : deadline < 2 ^ 256) (contract authorizer : Address) :
    let bytes := preimage chainId contract deadline authorizer
    bytes.size = 124 ∧ bytes.extract 0 32 = BigEndian.word chainId ∧
      bytes.extract 32 52 = contract.toBytes ∧
      (bytes.extract 52 72).data.toList.map UInt8.toNat =
        "authorizeSignerProof".toList.map Char.toNat ∧
      bytes.extract 72 104 = BigEndian.word deadline ∧ bytes.extract 104 124 = authorizer.toBytes ∧
      readPreimage bytes = (chainId, contract, deadline, authorizer) ∧
      ∀ otherChain otherDeadline (otherContract otherAuthorizer : Address),
        otherChain < 2 ^ 256 → otherDeadline < 2 ^ 256 →
        preimage otherChain otherContract otherDeadline otherAuthorizer = bytes →
        (otherChain, otherContract, otherDeadline, otherAuthorizer) =
          (chainId, contract, deadline, authorizer) := by
  intro bytes
  refine ⟨size_preimage .., preimage_chainId .., preimage_contract .., ?_, preimage_deadline ..,
    preimage_authorizer .., readPreimage_preimage chainFits deadlineFits contract authorizer, ?_⟩
  · rw [preimage_tag]
    exact proofTag_codes
  · -- equal preimages read back as equal fields
    intro otherChain otherDeadline otherContract otherAuthorizer otherChainFits otherDeadlineFits
      same
    rw [← readPreimage_preimage otherChainFits otherDeadlineFits, same]
    exact readPreimage_preimage chainFits deadlineFits contract authorizer

/-- The preimage of chain 1, deadline 10 and the addresses of bytes `0x11` and `0x22` reads back
as those fields. -/
theorem sample_preimage_reads_back :
    let contract := Address.ofNat 0x1111111111111111111111111111111111111111
    let authorizer := Address.ofNat 0x2222222222222222222222222222222222222222
    1 < 2 ^ 256 ∧ 10 < 2 ^ 256 ∧
      readPreimage (preimage 1 contract 10 authorizer) = (1, contract, 10, authorizer) :=
  ⟨by decide, by decide,
    (authorization_preimage_layout (by decide) (by decide) _ _).2.2.2.2.2.2.1⟩

end Signer

end MeteredPayments

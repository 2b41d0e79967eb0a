import MeteredPayments.Bytes.Hex
import MeteredPayments.Eth.Address
import MeteredPayments.Json.Value

/-!
# EIP-712 domains

Typed data is signed under a domain: a name, a version, a chain id and the contract that
verifies the signature. The domain separator is the Keccak-256 hash of the domain's type hash
and its four fields encoded as 32-byte words (strings by their hashes), and the digest that is
signed is the hash of `0x19 0x01`, the separator and the hash of the message.
-/

namespace MeteredPayments

/-- An EIP-712 signing domain. -/
structure Domain where
  /-- Name of the signing scheme. -/
  name : String
  /-- Version of the signing scheme. -/
  version : String
  /-- The chain the verifying contract lives on. -/
  chainId : Nat
  /-- The contract that checks signatures. -/
  verifyingContract : Address
deriving DecidableEq

namespace Domain

/-- The domain of vouchers redeemed by the collector contract `collector` on chain `chainId`. -/
def ofCollector (chainId : Nat) (collector : Address) : Domain :=
  ⟨"GraphTallyCollector", "1", chainId, collector⟩

/-- The hash of the domain's type. -/
def typeHash : ByteArray :=
  Keccak.hash "EIP712Domain(string name,string version,uint256 chainId,address verifyingContract)".toUTF8

/-- The domain separator. -/
def separator (domain : Domain) : ByteArray :=
  Keccak.hash (typeHash ++ Keccak.hash domain.name.toUTF8 ++ Keccak.hash domain.version.toUTF8 ++
    BigEndian.word domain.chainId ++ BigEndian.word domain.verifyingContract.toNat)

/-- The digest signed for a message whose struct hash is `structHash`. -/
def signingHash (domain : Domain) (structHash : ByteArray) : ByteArray :=
  Keccak.hash (ByteArray.mk #[0x19, 0x01] ++ domain.separator ++ structHash)

/-- The record form, the chain id in hexadecimal. -/
def toJson (domain : Domain) : Json :=
  .object [("name", .string domain.name), ("version", .string domain.version),
    ("chainId", .string (Hex.ofNat domain.chainId)),
    ("verifyingContract", .string domain.verifyingContract.toHex)]

end Domain

end MeteredPayments

import MeteredPayments.Voucher.Signed

/-!
# Authorization proofs

A signer proves that it may sign for an authorizer by signing, as an Ethereum personal message,
the Keccak-256 digest of a packed preimage: the chain id as a 32-byte word, the 20 bytes of the
verifying contract, the ASCII tag `authorizeSignerProof`, the deadline as a 32-byte word and the
20 bytes of the authorizer, 124 bytes in all. A personal message is hashed behind the prefix
`"\x19Ethereum Signed Message:\n"` and its length in decimal.
-/

namespace MeteredPayments.Signer

/-- The tag that marks an authorization preimage. -/
def proofTag : String := "authorizeSignerProof"

/-- The packed preimage of an authorization proof. -/
def preimage (chainId : Nat) (contract : Address) (deadline : Nat) (authorizer : Address) :
    ByteArray :=
  BigEndian.word chainId ++ contract.toBytes ++ proofTag.toUTF8 ++ BigEndian.word deadline ++
    authorizer.toBytes

/-- The digest the signer signs. -/
def digest (chainId : Nat) (contract : Address) (deadline : Nat) (authorizer : Address) : ByteArray :=
  Keccak.hash (preimage chainId contract deadline authorizer)

/-- The hash under which a personal message is signed. -/
def personalHash (message : ByteArray) : ByteArray :=
  Keccak.hash (("\x19Ethereum Signed Message:\n" ++ toString message.size).toUTF8 ++ message)

/-- Signs an authorization with the secret key `secret`. -/
def signProof (secret : Nat) (chainId : Nat) (contract : Address) (deadline : Nat)
    (authorizer : Address) : Option Ecdsa.Signature :=
  Ecdsa.sign secret (personalHash (digest chainId contract deadline authorizer))

/-- The signer of an authorization proof. -/
def recoverProofSigner (proof : Ecdsa.Signature) (chainId : Nat) (contract : Address)
    (deadline : Nat) (authorizer : Address) : Except SignatureError Address :=
  match Ecdsa.recover proof (personalHash (digest chainId contract deadline authorizer)) with
  | some key => .ok (Address.ofPublicKey key)
  | none => .error {}

/-- The 65 bytes of a signature: `r`, `s` and `27` plus the parity. -/
def signatureBytes (signature : Ecdsa.Signature) : ByteArray :=
  BigEndian.word signature.r ++ BigEndian.word signature.s ++
    ByteArray.mk #[if signature.yParity then 28 else 27]

end MeteredPayments.Signer

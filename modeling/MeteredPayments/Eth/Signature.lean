import MeteredPayments.Crypto.Ecdsa
import MeteredPayments.Eth.Decode

/-!
# Signatures as JSON

A signature is written as `r` and `s` in hexadecimal without leading zeros and the parity twice,
as `yParity` and as `v`, each `0x0` or `0x1`. It is read from an object with `r`, `s` and the
parity as `yParity` (0 or 1) or as `v`, which may also be 27 or 28 or, as EIP-155 writes it,
`35 + 2 * chain + parity`; `yParity` wins when both are present.
-/

namespace MeteredPayments.Ecdsa.Signature

/-- The parity that a `v` value stands for, if any. -/
def parityOfV (v : Nat) : Option Bool :=
  if v = 0 ∨ v = 27 then some false
  else if v = 1 ∨ v = 28 then some true
  else if v ≥ 35 then some ((v - 35) % 2 = 1)
  else none

/-- The record form. -/
def toJson (signature : Signature) : Json :=
  let parity := .string (if signature.yParity then "0x1" else "0x0")
  .object [("r", .string (Hex.ofNat signature.r)), ("s", .string (Hex.ofNat signature.s)),
    ("yParity", parity), ("v", parity)]

/-- Reads a signature. -/
def decode : Json.Decoder Signature := fun value => do
  let fields ← Json.record "HumanReadableRepr"
    [.of "r" .required (Json.word 256), .of "s" .required (Json.word 256),
     .of "yParity" .optional (Json.optional (Json.word 64) ∘ some),
     .of "v" .defaulted (Json.optional (Json.word 64) ∘ some)] value
  let r ← Json.required fields "r" (Json.word 256)
  let s ← Json.required fields "s" (Json.word 256)
  let yParity ← Json.optional (Json.word 64) (fields.lookup "yParity")
  let v ← Json.optional (Json.word 64) (fields.lookup "v")
  let parity ← match yParity, v with
    | some 0, _ => pure false
    | some 1, _ => pure true
    | some _, _ => throw "invalid yParity"
    | none, some v =>
      match parityOfV v with
      | some parity => pure parity
      | none => throw "invalid v"
    | none, none => throw "missing `yParity` or `v`"
  pure ⟨r, s, parity⟩

end MeteredPayments.Ecdsa.Signature

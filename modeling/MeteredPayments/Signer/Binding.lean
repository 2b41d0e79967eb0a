import MeteredPayments.Eth.Address
import MeteredPayments.Text.Blank

/-!
# Signer bindings

On the command line an accepted signer is written `<signer>` when it signs for itself or
`<signer>:<authorizer>`; each part may have blanks around it. Text with two or more colons is
malformed, whatever its parts; otherwise each part must be an address, and a refusal quotes the
part as it was written, blanks included.
-/

namespace MeteredPayments.Signer

/-- A signer and the authorizer it signs for. -/
structure Binding where
  /-- The signer. -/
  signer : Address
  /-- The authorizer, who pays. -/
  authorizer : Address
deriving DecidableEq

/-- Why a text is no signer binding. -/
inductive BindingError where
  /-- Two or more colons. -/
  | malformed (input : String)
  /-- A part that is no address, and why. -/
  | invalidAddress (input : String) (reason : String)
deriving DecidableEq, Repr

namespace BindingError

/-- The sentence that reports the error. -/
def message : BindingError → String
  | .malformed input => "expected <signer> or <signer>:<authorizer>, got " ++ Text.quote input
  | .invalidAddress input reason => "invalid address " ++ Text.quote input ++ ": " ++ reason

/-- The name of the kind of error. -/
def kind : BindingError → String
  | .malformed _ => "Malformed"
  | .invalidAddress _ _ => "InvalidAddress"

end BindingError

/-- Reads one part of a binding as an address, ignoring blanks around it. -/
def bindingAddress (part : String) : Except BindingError Address :=
  (Address.parse (Text.trimBlanks part)).mapError fun error => .invalidAddress part error.message

/-- Reads a signer binding from the parts of the text between its colons. -/
def Binding.parse (input : String) : Except BindingError Binding :=
  match input.toList.splitOn ':' with
  | [signer] => do
    let address ← bindingAddress (String.ofList signer)
    pure ⟨address, address⟩
  | [signer, authorizer] => do
    let signer ← bindingAddress (String.ofList signer)
    let authorizer ← bindingAddress (String.ofList authorizer)
    pure ⟨signer, authorizer⟩
  | _ => .error (.malformed input)

end MeteredPayments.Signer

import MeteredPayments.Proofs.Bytes
import MeteredPayments.Signer.Binding

/-!
# The grammar of signer bindings

A binding is `<signer>` or `<signer>:<authorizer>`, each part an address with blanks around it;
text with two colons is malformed whatever its parts (`binding_text_grammar`).
-/

namespace MeteredPayments

/-- Splitting at a separator gives one part more than there are separators. -/
theorem length_splitOn (characters : List Char) (separator : Char) :
    (characters.splitOn separator).length = characters.count separator + 1 := by
  induction characters with
  | nil => simp
  | cons head rest induction =>
      rw [List.splitOn_cons_eq_if_modifyHead, List.count_cons]
      by_cases same : head = separator
      · simp [same, induction]
      · simp [same, induction]

namespace Text

theorem dropWhile_solid {characters : List Char}
    (solid : ∀ character ∈ characters, isBlank character = false) :
    characters.dropWhile isBlank = characters := by
  cases characters with
  | nil => rfl
  | cons head rest => exact List.dropWhile_cons_of_neg (by simp [solid head (by simp)])

/-- Blanks around a text that has no blank are trimmed away. -/
theorem trimBlanks_padded {before text after : String}
    (blanks : ∀ character ∈ before.toList ++ after.toList, isBlank character = true)
    (solid : ∀ character ∈ text.toList, isBlank character = false) (nonempty : text.toList ≠ []) :
    trimBlanks (before ++ text ++ after) = text := by
  obtain ⟨head, rest, split⟩ := List.exists_cons_of_ne_nil nonempty
  have leading : (before.toList ++ (text.toList ++ after.toList)).dropWhile isBlank =
      text.toList ++ after.toList := by
    rw [List.dropWhile_append_of_pos
        (fun character member => blanks character (List.mem_append_left _ member)),
      split, List.cons_append, List.dropWhile_cons_of_neg (by simp [solid head (by simp [split])])]
  have trailing : (after.toList.reverse ++ text.toList.reverse).dropWhile isBlank =
      text.toList.reverse := by
    rw [List.dropWhile_append_of_pos (fun character member =>
        blanks character (List.mem_append_right _ (List.mem_reverse.mp member))),
      dropWhile_solid (fun character member => solid character (List.mem_reverse.mp member))]
  simp only [trimBlanks, String.toList_append, List.append_assoc, leading, List.reverse_append,
    trailing, List.reverse_reverse, String.ofList_toList]

end Text

/-- No digit is a blank or a colon. -/
theorem digitChar_solid : ∀ digit < 16,
    Text.isBlank (Nat.digitChar digit) = false ∧ Nat.digitChar digit ≠ ':' := by
  decide

/-- The record form of an address has neither blanks nor colons. -/
theorem Address.toHex_solid {address : Address} {character : Char}
    (member : character ∈ address.toHex.toList) :
    Text.isBlank character = false ∧ character ≠ ':' := by
  rcases mem_toHex member with rfl | ⟨digit, small, rfl⟩
  · decide
  · exact digitChar_solid digit small

namespace Signer

/-- A part is read as an address or refused as the text it is, never as malformed text. -/
theorem bindingAddress_cases (part : String) :
    (∃ address, bindingAddress part = .ok address) ∨
      ∃ reason, bindingAddress part = .error (.invalidAddress part reason) := by
  unfold bindingAddress
  cases Address.parse (Text.trimBlanks part) with
  | ok address => exact .inl ⟨address, rfl⟩
  | error cause => exact .inr ⟨cause.message, rfl⟩

/-- Text without a colon is one address, which signs for itself. -/
theorem parse_without_colon {input : String} (single : ':' ∉ input.toList) :
    Binding.parse input =
      match Address.parse (Text.trimBlanks input) with
      | .ok address => .ok ⟨address, address⟩
      | .error cause => .error (.invalidAddress input cause.message) := by
  unfold Binding.parse
  rw [List.splitOn_eq_singleton single]
  dsimp only
  rw [String.ofList_toList]
  unfold bindingAddress
  cases Address.parse (Text.trimBlanks input) <;> rfl

/-- Text with one colon is a signer and its authorizer, the signer read first. -/
theorem parse_with_colon {signer authorizer : String} (signerPart : ':' ∉ signer.toList)
    (authorizerPart : ':' ∉ authorizer.toList) :
    Binding.parse (signer ++ ":" ++ authorizer) =
      match Address.parse (Text.trimBlanks signer), Address.parse (Text.trimBlanks authorizer) with
      | .ok signerAddress, .ok authorizerAddress => .ok ⟨signerAddress, authorizerAddress⟩
      | .error cause, _ => .error (.invalidAddress signer cause.message)
      | .ok _, .error cause => .error (.invalidAddress authorizer cause.message) := by
  have parts : (signer ++ ":" ++ authorizer).toList.splitOn ':' =
      [signer.toList, authorizer.toList] := by
    rw [String.toList_append, String.toList_append, List.append_assoc,
      show (":" : String).toList = [':'] from rfl, List.singleton_append,
      List.splitOn_append_cons_self_of_not_mem signerPart, List.splitOn_eq_singleton authorizerPart]
  unfold Binding.parse
  rw [parts]
  dsimp only
  rw [String.ofList_toList, String.ofList_toList]
  unfold bindingAddress
  cases Address.parse (Text.trimBlanks signer) <;>
    cases Address.parse (Text.trimBlanks authorizer) <;> rfl

/-- Text is malformed exactly when it has two colons or more, whatever its parts. -/
theorem parse_malformed_iff (input : String) :
    Binding.parse input = .error (.malformed input) ↔ 2 ≤ input.toList.count ':' := by
  have length := length_splitOn input.toList ':'
  unfold Binding.parse
  rcases parts : input.toList.splitOn ':' with _ | ⟨first, _ | ⟨second, _ | ⟨third, rest⟩⟩⟩ <;>
    dsimp only
  · simp [parts] at length
  · -- one part: the answer is an address or a refused address
    simp only [parts, List.length_cons, List.length_nil] at length
    refine ⟨fun malformed => ?_, fun many => by omega⟩
    rcases bindingAddress_cases (String.ofList first) with ⟨address, read⟩ | ⟨reason, read⟩ <;>
      rw [read] at malformed <;> cases malformed
  · -- two parts: the same, for each part in turn
    simp only [parts, List.length_cons, List.length_nil] at length
    refine ⟨fun malformed => ?_, fun many => by omega⟩
    rcases bindingAddress_cases (String.ofList first) with ⟨signer, read⟩ | ⟨reason, read⟩ <;>
      rw [read] at malformed
    · rcases bindingAddress_cases (String.ofList second) with
        ⟨authorizer, read'⟩ | ⟨reason, read'⟩ <;> rw [read'] at malformed <;> cases malformed
    · cases malformed
  · simp only [parts, List.length_cons] at length
    exact iff_of_true rfl (by omega)

/-- The record forms of two addresses around a colon, with blanks around each, are read as the
first signing for the second; the first alone signs for itself. -/
theorem parse_padded (signer authorizer : Address) {before after before' after' : String}
    (padding : ∀ character ∈ before.toList ++ after.toList ++ before'.toList ++ after'.toList,
      Text.isBlank character = true) :
    Binding.parse ((before ++ signer.toHex ++ after) ++ ":" ++
        (before' ++ authorizer.toHex ++ after')) = .ok ⟨signer, authorizer⟩ ∧
      Binding.parse (before ++ signer.toHex ++ after) = .ok ⟨signer, signer⟩ := by
  have colon_not_blank : Text.isBlank ':' = false := by decide
  have nonempty : ∀ address : Address, address.toHex.toList ≠ [] := by
    intro address
    rw [Address.toHex_toList]
    exact List.cons_ne_nil _ _
  -- each padded part trims to the record form and holds no colon
  have part : ∀ (address : Address) (front back : String),
      (∀ character ∈ front.toList ++ back.toList, Text.isBlank character = true) →
      Text.trimBlanks (front ++ address.toHex ++ back) = address.toHex ∧
        ':' ∉ (front ++ address.toHex ++ back).toList := by
    intro address front back blanks
    refine ⟨Text.trimBlanks_padded blanks (fun _ member => (address.toHex_solid member).1)
      (nonempty address), ?_⟩
    intro member
    simp only [String.toList_append, List.mem_append] at member
    rcases member with (inFront | inHex) | inBack
    · simpa [colon_not_blank] using blanks ':' (List.mem_append_left _ inFront)
    · exact (address.toHex_solid inHex).2 rfl
    · simpa [colon_not_blank] using blanks ':' (List.mem_append_right _ inBack)
  obtain ⟨signerTrim, signerSingle⟩ := part signer before after fun character member =>
    padding character (by simp only [List.mem_append] at member ⊢; tauto)
  obtain ⟨authorizerTrim, authorizerSingle⟩ := part authorizer before' after' fun character member =>
    padding character (by simp only [List.mem_append] at member ⊢; tauto)
  constructor
  · rw [parse_with_colon signerSingle authorizerSingle, signerTrim, authorizerTrim,
      Address.parse_toHex, Address.parse_toHex]
  · rw [parse_without_colon signerSingle, signerTrim, Address.parse_toHex]

end Signer

/-- A binding with two colons is malformed; otherwise it reads as one self-signing address or as a
signer and its authorizer, each trimmed of blanks. -/
theorem binding_text_grammar :
    (∀ input : String,
      (Signer.Binding.parse input = .error (.malformed input) ↔ 2 ≤ input.toList.count ':') ∧
      (':' ∉ input.toList →
        Signer.Binding.parse input =
          match Address.parse (Text.trimBlanks input) with
          | .ok address => .ok ⟨address, address⟩
          | .error cause => .error (.invalidAddress input cause.message)) ∧
      ∀ signer authorizer, input = signer ++ ":" ++ authorizer →
        ':' ∉ signer.toList → ':' ∉ authorizer.toList →
        Signer.Binding.parse input =
          match Address.parse (Text.trimBlanks signer),
              Address.parse (Text.trimBlanks authorizer) with
          | .ok signerAddress, .ok authorizerAddress => .ok ⟨signerAddress, authorizerAddress⟩
          | .error cause, _ => .error (.invalidAddress signer cause.message)
          | .ok _, .error cause => .error (.invalidAddress authorizer cause.message)) ∧
    ∀ (signer authorizer : Address) (before after before' after' : String),
      (∀ character ∈ before.toList ++ after.toList ++ before'.toList ++ after'.toList,
        Text.isBlank character = true) →
      Signer.Binding.parse ((before ++ signer.toHex ++ after) ++ ":" ++
          (before' ++ authorizer.toHex ++ after')) = .ok ⟨signer, authorizer⟩ ∧
        Signer.Binding.parse (before ++ signer.toHex ++ after) = .ok ⟨signer, signer⟩ := by
  refine ⟨fun input => ⟨Signer.parse_malformed_iff input, Signer.parse_without_colon, ?_⟩,
    fun signer authorizer _ _ _ _ padding => Signer.parse_padded signer authorizer padding⟩
  rintro signer authorizer rfl signerPart authorizerPart
  exact Signer.parse_with_colon signerPart authorizerPart

end MeteredPayments

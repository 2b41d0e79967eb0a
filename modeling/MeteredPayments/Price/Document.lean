import MeteredPayments.Json.Text
import MeteredPayments.Price.Pricing

/-!
# Pricing documents

A pricing document is a JSON object with the optional string members `price_per_block` and
`price_per_byte`, or an array of at most two such strings. Absent prices are zero, a repeated
member is refused, and a refusal names its place in the text.
-/

namespace MeteredPayments.Pricing

open Json Json.Reader

variable (text : ByteArray)

/-- What a refused value was expected to be, for messages. -/
def documentName : String := "struct PricingConfig"

/-- Reads one price: a string that holds a decimal token amount. -/
def readPrice : Reader Price := do
  match ← skipBlanks text with
  | none => failAhead text .eofWhileParsingValue
  | some 34 =>
    advance
    match Price.parse (← string text) with
    | .ok price => pure price
    | .error error => throw (ReadError.unplaced error.message)
  | some _ => throw (← unexpectedValue text "a string")

/-- Reads the colon between a member's key and its value. -/
def readColon : Reader Unit := do
  match ← skipBlanks text with
  | some 58 => advance
  | some _ => failAhead text .expectedColon
  | none => failAhead text .eofWhileParsingObject

/-- Reads the key of a member, once it is known that one must follow. -/
def readKey : Reader String := do
  match ← peek text with
  | some 34 => advance; string text
  | some 125 => failAhead text .trailingComma
  | some _ => failAhead text .keyMustBeAString
  | none => failAhead text .eofWhileParsingValue

/-- Reads the members of the object form up to its closing brace, which is left unread;
`first` tells whether no member was read yet. -/
def readMembers : Nat → Bool → Option Price → Option Price → Reader Pricing
  | 0, _, _, _ => failAhead text .eofWhileParsingObject
  | fuel + 1, first, block, byte => do
    let key ← do
      match ← skipBlanks text with
      | some 125 => pure none
      | some 44 =>
        if first then some <$> readKey text
        else do advance; let _ ← skipBlanks text; some <$> readKey text
      | some _ =>
        if first then some <$> readKey text else failAhead text .expectedObjectCommaOrEnd
      | none => failAhead text .eofWhileParsingObject
    match key with
    | none => pure ⟨block.getD Price.zero, byte.getD Price.zero⟩
    | some "price_per_block" =>
      if block.isSome then throw (ReadError.unplaced "duplicate field `price_per_block`")
      else do
        readColon text
        let price ← readPrice text
        readMembers fuel false (some price) byte
    | some "price_per_byte" =>
      if byte.isSome then throw (ReadError.unplaced "duplicate field `price_per_byte`")
      else do
        readColon text
        let price ← readPrice text
        readMembers fuel false block (some price)
    | some _ =>
      readColon text
      skip text
      readMembers fuel false block byte

/-- Reads the next element of the array form, if one follows; `first` tells whether no element
was read yet. -/
def readElement (first : Bool) : Reader (Option Price) := do
  match ← skipBlanks text with
  | some 93 => pure none
  | some 44 =>
    if first then some <$> readPrice text
    else do
      advance
      match ← skipBlanks text with
      | some 93 => failAhead text .trailingComma
      | some _ => some <$> readPrice text
      | none => failAhead text .eofWhileParsingValue
  | some _ => if first then some <$> readPrice text else failAhead text .expectedListCommaOrEnd
  | none => failAhead text .eofWhileParsingList

/-- Reads the array form up to its closing bracket, which is left unread. -/
def readElements : Reader Pricing := do
  let block ← readElement text true
  let byte ← readElement text block.isNone
  pure ⟨block.getD Price.zero, byte.getD Price.zero⟩

/-- Reads the closing bracket of the array form. -/
def closeArray : Reader Unit := do
  match ← skipBlanks text with
  | some 93 => advance
  | some 44 =>
    advance
    match ← skipBlanks text with
    | some 93 => failAhead text .trailingComma
    | _ => failAhead text .trailingCharacters
  | some _ => failAhead text .trailingCharacters
  | none => failAhead text .eofWhileParsingList

/-- Reads the closing brace of the object form. -/
def closeObject : Reader Unit := do
  match ← skipBlanks text with
  | some 125 => advance
  | some 44 => failAhead text .trailingComma
  | some _ => failAhead text .trailingCharacters
  | none => failAhead text .eofWhileParsingObject

/-- Runs `body`, then `close` whatever became of it; the first refusal wins. -/
def thenClose {α : Type} (body : Reader α) (close : Reader Unit) : Reader α := do
  let outcome ← tryCatch (Except.ok <$> body) fun error => pure (Except.error error)
  let closed ← tryCatch (Except.ok <$> close) fun error => pure (Except.error error)
  match outcome, closed with
  | .ok value, .ok () => pure value
  | .error error, _ => throw error
  | .ok _, .error error => throw error

/-- Reads a whole pricing document. -/
def readAll : Reader Pricing := do
  let pricing ← placed text do
    match ← skipBlanks text with
    | none => failAhead text .eofWhileParsingValue
    | some 91 => advance; thenClose (readElements text) (closeArray text)
    | some 123 => advance; thenClose (readMembers text (text.size + 1) true none none) (closeObject text)
    | some _ => throw (← unexpectedValue text documentName)
  finish text
  pure pricing

/-- Reads a pricing document, or says where and why it is refused. -/
def ofDocument (document : String) : Except ReadError Pricing :=
  match (readAll document.toUTF8).run 0 with
  | .ok pricing _ => .ok pricing
  | .error error _ => .error error

end MeteredPayments.Pricing

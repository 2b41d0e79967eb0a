import MeteredPayments.Json.Value
import MeteredPayments.Text.Quoted

/-!
# Reading JSON text

Readers of blanks, strings, numbers, words and whole values over the UTF-8 bytes of a text, with
the index of the next byte as their state. A failure reports its line and the byte place after
the byte read (`failHere`) or looked at (`failAhead`).
-/

namespace MeteredPayments.Json

/-- A place in a text: the line, from 1, and how many bytes of that line stand before it. -/
structure Position where
  /-- The line, counted from 1. -/
  line : Nat
  /-- Bytes of the line before the place. -/
  column : Nat
deriving DecidableEq, Repr

/-- The faults of JSON syntax. -/
inductive SyntaxFault where
  | eofWhileParsingList
  | eofWhileParsingObject
  | eofWhileParsingString
  | eofWhileParsingValue
  | expectedColon
  | expectedListCommaOrEnd
  | expectedObjectCommaOrEnd
  | expectedSomeIdent
  | expectedSomeValue
  | invalidEscape
  | invalidNumber
  | controlCharacterWhileParsingString
  | keyMustBeAString
  | loneLeadingSurrogateInHexEscape
  | trailingComma
  | trailingCharacters
  | unexpectedEndOfHexEscape
deriving DecidableEq, Repr

/-- The sentence that reports a syntax fault. -/
def SyntaxFault.message : SyntaxFault → String
  | .eofWhileParsingList => "EOF while parsing a list"
  | .eofWhileParsingObject => "EOF while parsing an object"
  | .eofWhileParsingString => "EOF while parsing a string"
  | .eofWhileParsingValue => "EOF while parsing a value"
  | .expectedColon => "expected `:`"
  | .expectedListCommaOrEnd => "expected `,` or `]`"
  | .expectedObjectCommaOrEnd => "expected `,` or `\x7d`"
  | .expectedSomeIdent => "expected ident"
  | .expectedSomeValue => "expected value"
  | .invalidEscape => "invalid escape"
  | .invalidNumber => "invalid number"
  | .controlCharacterWhileParsingString =>
    "control character (\\u0000-\\u001F) found while parsing a string"
  | .keyMustBeAString => "key must be a string"
  | .loneLeadingSurrogateInHexEscape => "lone leading surrogate in hex escape"
  | .trailingComma => "trailing comma"
  | .trailingCharacters => "trailing characters"
  | .unexpectedEndOfHexEscape => "unexpected end of hex escape"

/-- What a reader found where it wanted something else. -/
inductive Unexpected where
  | boolean (value : Bool)
  | unsigned (value : Nat)
  | signed (value : Int)
  /-- An integer that fits 128 bits but not 64, handed over as such. -/
  | unsigned128 (value : Nat)
  /-- A negative integer that fits 128 bits but not 64, handed over as such. -/
  | signed128 (value : Int)
  /-- A number that is neither kind of integer. -/
  | number
  /-- A fraction, as the shortest decimal that reads back to it. -/
  | float (text : String)
  | string (value : String)
  | null
  | sequence
  | map
deriving DecidableEq, Repr

/-- How a message names what was found. -/
def Unexpected.describe : Unexpected → String
  | .boolean value => s!"boolean `{value}`"
  | .unsigned value => s!"integer `{value}`"
  | .signed value => s!"integer `{value}`"
  | .unsigned128 value => s!"integer `{value}` as u128"
  | .signed128 value => s!"integer `{value}` as i128"
  | .number => "number"
  | .float text => s!"floating point `{text}`"
  | .string value => "string " ++ Text.quote value
  | .null => "null"
  | .sequence => "sequence"
  | .map => "map"

/-- A refusal: its sentence and, once it is known, the place. -/
structure ReadError where
  /-- What is wrong. -/
  message : String
  /-- Where reading stopped; none until the reader that knows the place adds it. -/
  position : Option Position
deriving DecidableEq, Repr

namespace ReadError

/-- A refusal whose place the caller adds. -/
def unplaced (message : String) : ReadError := ⟨message, none⟩

/-- "invalid type" for a value of the wrong kind. -/
def invalidType (found : Unexpected) (expected : String) : ReadError :=
  unplaced s!"invalid type: {found.describe}, expected {expected}"

/-- The sentence with its place, when it has one. -/
def render (error : ReadError) : String :=
  match error.position with
  | some place => s!"{error.message} at line {place.line} column {place.column}"
  | none => error.message

end ReadError

/-- The place before byte `index` of `text`. -/
def positionAt (text : ByteArray) (index : Nat) : Position :=
  (text.data.toList.take index).foldl
    (fun place byte => if byte = 10 then ⟨place.line + 1, 0⟩ else ⟨place.line, place.column + 1⟩)
    ⟨1, 0⟩

/-- A reader of `text`: its state is the index of the next byte, kept on failure too. -/
abbrev Reader := EStateM ReadError Nat

namespace Reader

variable (text : ByteArray)

/-- The next byte, not read. -/
def peek : Reader (Option UInt8) := do
  let index ← get
  pure text[index]?

/-- Reads one byte. -/
def advance : Reader Unit := modify (· + 1)

/-- Reads the next byte, if there is one. -/
def next : Reader (Option UInt8) := do
  let index ← get
  match text[index]? with
  | some byte => set (index + 1); pure (some byte)
  | none => pure none

/-- Fails with the place before the next byte. -/
def failHere {α : Type} (fault : SyntaxFault) : Reader α := do
  throw ⟨fault.message, some (positionAt text (← get))⟩

/-- Fails with the place after the next byte, or the end of the text. -/
def failAhead {α : Type} (fault : SyntaxFault) : Reader α := do
  throw ⟨fault.message, some (positionAt text (min text.size ((← get) + 1)))⟩

/-- Gives a refusal without a place the place before the next byte. -/
def place (error : ReadError) : Reader ReadError := do
  match error.position with
  | some _ => pure error
  | none => pure { error with position := some (positionAt text (← get)) }

/-- Runs `reader`; a refusal without a place gets the place where it stopped. -/
def placed {α : Type} (reader : Reader α) : Reader α :=
  tryCatch reader fun error => do throw (← place text error)

/-- The index after the bytes from `index` on that satisfy `keep`. -/
def skipFrom (keep : UInt8 → Bool) (index : Nat) : Nat :=
  if h : index < text.size then
    if keep text[index] then skipFrom keep (index + 1) else index
  else index
termination_by text.size - index

/-- Whether a byte is a blank between tokens: space, tab, line feed or carriage return. -/
def isBlank (byte : UInt8) : Bool := byte = 32 ∨ byte = 9 ∨ byte = 10 ∨ byte = 13

/-- Whether a byte is an ASCII digit. -/
def isDigit (byte : UInt8) : Bool := 48 ≤ byte ∧ byte ≤ 57

/-- Skips blanks and shows the next byte. -/
def skipBlanks : Reader (Option UInt8) := do
  modify (skipFrom text isBlank)
  peek text

/-- Reads the rest of a word after its first letter; a different byte is `expected ident`. -/
def word (rest : List UInt8) : Reader Unit :=
  rest.forM fun expected => do
    match ← next text with
    | none => failHere text .eofWhileParsingValue
    | some byte => if byte = expected then pure () else failHere text .expectedSomeIdent

/-- The value of a hexadecimal digit. -/
def hexValue (byte : UInt8) : Option Nat :=
  if 48 ≤ byte ∧ byte ≤ 57 then some (byte.toNat - 48)
  else if 97 ≤ byte ∧ byte ≤ 102 then some (byte.toNat - 87)
  else if 65 ≤ byte ∧ byte ≤ 70 then some (byte.toNat - 55)
  else none

/-- Reads the four hexadecimal digits of a `\u` escape. -/
def hexEscape : Reader Nat := do
  let index ← get
  if index + 4 ≤ text.size then
    set (index + 4)
    match (List.range 4).mapM fun offset => text[index + offset]? >>= hexValue with
    | some values => pure (values.foldl (fun value digit => 16 * value + digit) 0)
    | none => failHere text .invalidEscape
  else
    set text.size
    failHere text .eofWhileParsingString

/-- The UTF-8 bytes of a code point. -/
def utf8Bytes (code : Nat) : List UInt8 :=
  (String.singleton (Char.ofNat code)).toUTF8.data.toList

/-- Reads the next byte, which must exist inside a string. -/
def nextInString : Reader UInt8 := do
  match ← next text with
  | some byte => pure byte
  | none => failHere text .eofWhileParsingString

/-- Reads the rest of a `\u` escape of a string, a surrogate pair as one character. -/
def unicodeEscape : Reader (List UInt8) := do
  let first ← hexEscape text
  if 0xDC00 ≤ first ∧ first ≤ 0xDFFF then failHere text .loneLeadingSurrogateInHexEscape
  else if first < 0xD800 ∨ 0xDBFF < first then pure (utf8Bytes first)
  else
    let backslash ← nextInString text
    if backslash ≠ 92 then failHere text .unexpectedEndOfHexEscape
    else
      let letter ← nextInString text
      if letter ≠ 117 then failHere text .unexpectedEndOfHexEscape
      else
        let second ← hexEscape text
        if second < 0xDC00 ∨ 0xDFFF < second then failHere text .loneLeadingSurrogateInHexEscape
        else pure (utf8Bytes (0x10000 + (first - 0xD800) * 0x400 + (second - 0xDC00)))

/-- Reads an escape after its backslash and gives the bytes it stands for. -/
def escapeSequence : Reader (List UInt8) := do
  match ← nextInString text with
  | 34 => pure [34]
  | 92 => pure [92]
  | 47 => pure [47]
  | 98 => pure [8]
  | 102 => pure [12]
  | 110 => pure [10]
  | 114 => pure [13]
  | 116 => pure [9]
  | 117 => unicodeEscape text
  | _ => failHere text .invalidEscape

/-- Reads the rest of a string after its opening quote, at most `fuel` pieces. -/
def stringBody : Nat → List UInt8 → Reader String
  | 0, _ => failHere text .eofWhileParsingString
  | fuel + 1, bytes => do
    let start ← get
    let stop := skipFrom text (fun byte => byte ≠ 34 ∧ byte ≠ 92 ∧ 32 ≤ byte) start
    let plain := (text.extract start stop).data.toList
    set stop
    match text[stop]? with
    | none => failHere text .eofWhileParsingString
    | some 34 =>
      advance
      pure ((String.fromUTF8? (ByteArray.mk (bytes ++ plain).toArray)).getD "")
    | some 92 =>
      advance
      let escaped ← escapeSequence text
      stringBody fuel (bytes ++ plain ++ escaped)
    | some _ =>
      advance
      failHere text .controlCharacterWhileParsingString

/-- Reads a string after its opening quote. -/
def string : Reader String := stringBody text (text.size + 1) []

/-- Skips the rest of a string after its opening quote, checking only the escapes' shape. -/
def skipStringBody : Nat → Reader Unit
  | 0 => failHere text .eofWhileParsingString
  | fuel + 1 => do
    let stop := skipFrom text (fun byte => byte ≠ 34 ∧ byte ≠ 92 ∧ 32 ≤ byte) (← get)
    set stop
    match text[stop]? with
    | none => failHere text .eofWhileParsingString
    | some 34 => advance
    | some 92 =>
      advance
      match ← nextInString text with
      | 34 | 92 | 47 | 98 | 102 | 110 | 114 | 116 => skipStringBody fuel
      | 117 => do let _ ← hexEscape text; skipStringBody fuel
      | _ => failHere text .invalidEscape
    | some _ => failHere text .controlCharacterWhileParsingString

/-- Reads ASCII digits and gives them as characters. -/
def digits : Reader (List Char) := do
  let start ← get
  let stop := skipFrom text isDigit start
  set stop
  pure ((text.extract start stop).data.toList.map fun byte => Char.ofNat byte.toNat)

/-- Reads the exponent of a number, from its letter on. -/
def exponent (letter : Char) : Reader (List Char) := do
  advance
  let sign ← do
    match ← peek text with
    | some 43 => advance; pure ['+']
    | some 45 => advance; pure ['-']
    | _ => pure []
  match ← next text with
  | some byte =>
    if isDigit byte then
      let more ← digits text
      pure (letter :: sign ++ Char.ofNat byte.toNat :: more)
    else failHere text .invalidNumber
  | none => failHere text .invalidNumber

/-- Reads what may follow the whole digits of a number: a fraction, an exponent, both or none;
`atEnd` is the fault for a point at the very end of the text. -/
def numberTail (atEnd : SyntaxFault) : Reader (List Char) := do
  match ← peek text with
  | some 46 =>
    advance
    let fraction ← digits text
    if fraction.isEmpty then
      match ← peek text with
      | some _ => failAhead text .invalidNumber
      | none => failAhead text atEnd
    else
      match ← peek text with
      | some 101 => pure ('.' :: fraction ++ (← exponent text 'e'))
      | some 69 => pure ('.' :: fraction ++ (← exponent text 'E'))
      | _ => pure ('.' :: fraction)
  | some 101 => exponent text 'e'
  | some 69 => exponent text 'E'
  | _ => pure []

/-- Reads a number after its sign, giving its text without the sign. -/
def numberBody (atEnd : SyntaxFault) : Reader (List Char) := do
  match ← next text with
  | some 48 =>
    match ← peek text with
    | some byte =>
      if isDigit byte then failAhead text .invalidNumber
      else pure ('0' :: (← numberTail text atEnd))
    | none => pure ['0']
  | some byte =>
    if 49 ≤ byte ∧ byte ≤ 57 then
      let more ← digits text
      pure (Char.ofNat byte.toNat :: more ++ (← numberTail text atEnd))
    else failHere text .invalidNumber
  | none => failHere text .invalidNumber

/-- What kind of number a number's text is, for a message: an integer of 64 bits or a number. -/
def classify (negative : Bool) (body : List Char) : Unexpected :=
  match (String.ofList body).toNat? with
  | some value =>
    if negative then (if value ≤ Nat.pow 2 63 then .signed (-(value : Int)) else .number)
    else (if value < Nat.pow 2 64 then .unsigned value else .number)
  | none => .number

/-- Reads a value that is not of the expected kind and says what it was instead. -/
def unexpectedValue (expected : String) : Reader ReadError := do
  let found : Except ReadError Unexpected ← tryCatch (do
      match ← peek text with
      | some 110 => advance; word text [117, 108, 108]; pure (.ok .null)
      | some 116 => advance; word text [114, 117, 101]; pure (.ok (.boolean true))
      | some 102 => advance; word text [97, 108, 115, 101]; pure (.ok (.boolean false))
      | some 45 => advance; pure (.ok (classify true (← numberBody text .eofWhileParsingValue)))
      | some 34 => advance; pure (.ok (.string (← string text)))
      | some 91 => pure (.ok .sequence)
      | some 123 => pure (.ok .map)
      | some byte =>
        if isDigit byte then pure (.ok (classify false (← numberBody text .eofWhileParsingValue)))
        else failAhead text .expectedSomeValue
      | none => failAhead text .expectedSomeValue)
    (fun error => pure (.error error))
  match found with
  | .ok kind => place text (ReadError.invalidType kind expected)
  | .error error => pure error

mutual

/-- Skips one value after blanks, checking its syntax. -/
def skipValue : Nat → Reader Unit
  | 0 => failAhead text .eofWhileParsingValue
  | fuel + 1 => do
    match ← skipBlanks text with
    | none => failAhead text .eofWhileParsingValue
    | some 110 => advance; word text [117, 108, 108]
    | some 116 => advance; word text [114, 117, 101]
    | some 102 => advance; word text [97, 108, 115, 101]
    | some 45 => advance; let _ ← numberBody text .invalidNumber
    | some 34 => advance; skipStringBody text (text.size + 1)
    | some 91 => advance; skipArrayBody fuel true
    | some 123 => advance; skipObjectBody fuel true
    | some byte =>
      if isDigit byte then do let _ ← numberBody text .invalidNumber
      else failAhead text .expectedSomeValue

/-- Skips the rest of an array; `first` tells whether no element was read yet. -/
def skipArrayBody : Nat → Bool → Reader Unit
  | 0, _ => failAhead text .eofWhileParsingList
  | fuel + 1, first => do
    match ← skipBlanks text with
    | none => failAhead text .eofWhileParsingList
    | some 93 => advance
    | some 44 =>
      if first then do skipValue fuel; skipArrayBody fuel false
      else do advance; skipValue fuel; skipArrayBody fuel false
    | some _ =>
      if first then do skipValue fuel; skipArrayBody fuel false
      else failAhead text .expectedListCommaOrEnd

/-- Skips the rest of an object; `first` tells whether no member was read yet. -/
def skipObjectBody : Nat → Bool → Reader Unit
  | 0, _ => failAhead text .eofWhileParsingObject
  | fuel + 1, first => do
    match ← skipBlanks text with
    | none => failAhead text .eofWhileParsingObject
    | some 125 => advance
    | some 44 =>
      if first then failAhead text .keyMustBeAString
      else do advance; skipMember fuel; skipObjectBody fuel false
    | some _ =>
      if first then do skipMember fuel; skipObjectBody fuel false
      else failAhead text .expectedObjectCommaOrEnd

/-- Skips a member of an object: its key, the colon and its value. -/
def skipMember : Nat → Reader Unit
  | 0 => failAhead text .eofWhileParsingObject
  | fuel + 1 => do
    match ← skipBlanks text with
    | some 34 => advance; skipStringBody text (text.size + 1)
    | some _ => failAhead text .keyMustBeAString
    | none => failAhead text .eofWhileParsingObject
    match ← skipBlanks text with
    | some 58 => advance
    | some _ => failAhead text .expectedColon
    | none => failAhead text .eofWhileParsingObject
    skipValue fuel

end

/-- Skips one value, with enough steps for any value of the text. -/
def skip : Reader Unit := skipValue text (2 * text.size + 2)

/-- Checks that only blanks are left. -/
def finish : Reader Unit := do
  match ← skipBlanks text with
  | some _ => failAhead text .trailingCharacters
  | none => pure ()

end Reader

end MeteredPayments.Json

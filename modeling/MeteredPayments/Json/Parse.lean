import MeteredPayments.Json.Text
import MeteredPayments.Json.Value

/-!
# Reading JSON values from text

Whole JSON documents read into values, with the syntax checks and error places of the skipping
reader: a value is read exactly where it would be skipped, and fails exactly where skipping it
would. Numbers keep their text; a key given twice keeps its last value, in the place of its
first.
-/

namespace MeteredPayments.Json

namespace Reader

variable (text : ByteArray)

/-- Adds a member, replacing the value of an earlier member of the same key. -/
def addMember (members : List (String × Json)) (key : String) (value : Json) :
    List (String × Json) :=
  if members.any (·.1 = key) then members.map fun member =>
    if member.1 = key then (key, value) else member
  else members ++ [(key, value)]

mutual

/-- Reads one value after blanks. -/
def value : Nat → Reader Json
  | 0 => failAhead text .eofWhileParsingValue
  | fuel + 1 => do
    match ← skipBlanks text with
    | none => failAhead text .eofWhileParsingValue
    | some 110 => advance; word text [117, 108, 108]; pure .null
    | some 116 => advance; word text [114, 117, 101]; pure (.bool true)
    | some 102 => advance; word text [97, 108, 115, 101]; pure (.bool false)
    | some 45 =>
      advance
      let body ← numberBody text .invalidNumber
      pure (.number ("-" ++ String.ofList body))
    | some 34 => advance; pure (.string (← string text))
    | some 91 => advance; arrayBody fuel true []
    | some 123 => advance; objectBody fuel true []
    | some byte =>
      if isDigit byte then do pure (.number (String.ofList (← numberBody text .invalidNumber)))
      else failAhead text .expectedSomeValue

/-- Reads the rest of an array after the elements `items`; `first` tells whether no element was
read yet. -/
def arrayBody : Nat → Bool → List Json → Reader Json
  | 0, _, _ => failAhead text .eofWhileParsingList
  | fuel + 1, first, items => do
    match ← skipBlanks text with
    | none => failAhead text .eofWhileParsingList
    | some 93 => advance; pure (.array items)
    | some 44 =>
      if first then do let item ← value fuel; arrayBody fuel false (items ++ [item])
      else do advance; let item ← value fuel; arrayBody fuel false (items ++ [item])
    | some _ =>
      if first then do let item ← value fuel; arrayBody fuel false (items ++ [item])
      else failAhead text .expectedListCommaOrEnd

/-- Reads the rest of an object after the members `members`; `first` tells whether no member
was read yet. -/
def objectBody : Nat → Bool → List (String × Json) → Reader Json
  | 0, _, _ => failAhead text .eofWhileParsingObject
  | fuel + 1, first, members => do
    match ← skipBlanks text with
    | none => failAhead text .eofWhileParsingObject
    | some 125 => advance; pure (.object members)
    | some 44 =>
      if first then failAhead text .keyMustBeAString
      else do
        advance
        let (key, item) ← member fuel
        objectBody fuel false (addMember members key item)
    | some _ =>
      if first then do
        let (key, item) ← member fuel
        objectBody fuel false (addMember members key item)
      else failAhead text .expectedObjectCommaOrEnd

/-- Reads a member of an object: its key, the colon and its value. -/
def member : Nat → Reader (String × Json)
  | 0 => failAhead text .eofWhileParsingObject
  | fuel + 1 => do
    let key ← do
      match ← skipBlanks text with
      | some 34 => advance; string text
      | some _ => failAhead text .keyMustBeAString
      | none => failAhead text .eofWhileParsingObject
    match ← skipBlanks text with
    | some 58 => advance
    | some _ => failAhead text .expectedColon
    | none => failAhead text .eofWhileParsingObject
    pure (key, ← value fuel)

end

/-- Reads a whole document holding one value. -/
def document : Reader Json := do
  let result ← value text (2 * text.size + 2)
  finish text
  pure result

end Reader

/-- Reads a JSON document, or says where and why it is refused. -/
def parse (document : String) : Except ReadError Json :=
  match (Reader.document document.toUTF8).run 0 with
  | .ok result _ => .ok result
  | .error error _ => .error error

end MeteredPayments.Json

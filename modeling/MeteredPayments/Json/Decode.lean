import MeteredPayments.Json.Float
import MeteredPayments.Json.Text

/-!
# Reading records from JSON values

Requests are read into records field by field, as a record or as the sequence of its fields'
values. The first bad member is reported before the first missing field, and every refusal is a
sentence such as `invalid type: <found>, expected <wanted>`.
-/

namespace MeteredPayments.Json

/-- How a reader of one kind of value names a value of another kind. -/
def unexpected : Json → Unexpected
  | .null => .null
  | .bool value => .boolean value
  | .number _ => .number
  | .string value => .string value
  | .array _ => .sequence
  | .object _ => .map

/-- The integer a number's text writes, if it is an integer: whether it has a minus sign, and
its magnitude. `-0` keeps its sign, as it is read as a signed integer. -/
def integerText? (text : String) : Option (Bool × Nat) :=
  let (negative, digits) :=
    if text.startsWith "-" then (true, (text.drop 1).toString) else (false, text)
  if !digits.isEmpty && digits.all Char.isDigit then (negative, ·) <$> digits.toNat? else none

/-- How a reader that accepts any kind of value sees a number: as an unsigned integer of 64 bits
if it is one (no minus sign), else as a signed one of 64 bits, else as one of 128 bits, else as a
fraction if its text is the fraction's own form, and as a map otherwise. -/
def unexpectedAny : Json → Unexpected
  | .number text =>
    match integerText? text with
    | some (false, value) =>
      if value < Nat.pow 2 64 then .unsigned value
      else if value < Nat.pow 2 128 then .unsigned128 value
      else .map
    | some (true, magnitude) =>
      if magnitude ≤ Nat.pow 2 63 then .signed (-(magnitude : Int))
      else if magnitude ≤ Nat.pow 2 127 then .signed128 (-(magnitude : Int))
      else .map
    | none =>
      match Binary64.ofText? text with
      | some double => if double.isOwnText text then .float double.describe else .map
      | none => .map
  | other => unexpected other

/-- The refusal of a value of the wrong kind. -/
def invalidType (found : Unexpected) (expected : String) : String :=
  s!"invalid type: {found.describe}, expected {expected}"

/-- The refusal of a value of the right kind that is no value of the wanted type. -/
def invalidValue (found : Unexpected) (expected : String) : String :=
  s!"invalid value: {found.describe}, expected {expected}"

/-- A reader of one kind of record field. -/
abbrev Decoder (α : Type) := Json → Except String α

/-- The digits of a whole number with no sign, in decimal. -/
def naturalText? (text : String) : Option Nat :=
  if !text.isEmpty && text.all Char.isDigit then text.toNat? else none

/-- An unsigned integer below `2 ^ bits`, named `name` in messages: from a number whose text is
such an integer, else `invalid number`; any other kind of value is of the wrong type. -/
def unsigned (bits : Nat) (name : String) : Decoder Nat
  | .number text =>
    match naturalText? text with
    | some value => if value < Nat.pow 2 bits then .ok value else .error "invalid number"
    | none => .error "invalid number"
  | other => .error (invalidType (unexpected other) name)

/-- A string. -/
def stringValue : Decoder String
  | .string text => .ok text
  | other => .error (invalidType (unexpected other) "a string")

/-- An optional value: absent and `null` are none. -/
def optional {α : Type} (decode : Decoder α) : Option Json → Except String (Option α)
  | none => .ok none
  | some .null => .ok none
  | some value => some <$> decode value

/-- The members of a record value, or the refusal of any other kind of value; `name` is how
messages name the record. -/
def members (name : String) : Json → Except String (List (String × Json))
  | .object fields => .ok fields
  | other => .error (invalidType (unexpected other) name)

/-- Whether a record may leave a field out. -/
inductive Presence where
  /-- The field must be given. -/
  | required
  /-- The field may be left out of named members, where it is none, but not out of a
  sequence. -/
  | optional
  /-- The field has a default, and may be left out of either form. -/
  | defaulted
deriving DecidableEq, Repr

/-- One declared field of a record: its name, whether it may be left out, and a check of its
value. -/
structure FieldCheck where
  /-- The member name. -/
  name : String
  /-- Whether the record fills the field in when it is left out. -/
  presence : Presence
  /-- The refusal of a value, if any. -/
  check : Json → Option String

/-- The field check of a decoder. -/
def FieldCheck.of {α : Type} (name : String) (presence : Presence) (decode : Decoder α) :
    FieldCheck :=
  ⟨name, presence, fun value => match decode value with
    | .ok _ => none
    | .error message => some message⟩

/-- Checks the members of a record: each declared member in the order written, then the
presence of each required field in the order declared. -/
def checkRecord (fields : List (String × Json)) (declared : List FieldCheck) : Except String Unit := do
  for (key, value) in fields do
    match declared.find? (·.name = key) with
    | some field =>
      match field.check value with
      | some message => throw message
      | none => pure ()
    | none => pure ()
  for field in declared do
    if field.presence = .required && (fields.lookup field.name).isNone then
      throw s!"missing field `{field.name}`"

/-- The members a sequence stands for: its elements are the declared fields in order, each
checked as it is reached. A sequence may stop before a field with a default and the fields
after it; it may not stop before any other field (`invalid length`, with the number of
elements read), nor hold more elements than there are fields. -/
def sequenceMembers (expecting : String) (length : Nat) :
    Nat → List FieldCheck → List Json → Except String (List (String × Json))
  | _, [], [] => .ok []
  | _, [], _ :: _ => .error s!"invalid length {length}, expected fewer elements in array"
  | index, field :: rest, [] =>
    if field.presence = .defaulted then sequenceMembers expecting length (index + 1) rest []
    else .error s!"invalid length {index}, expected {expecting}"
  | index, field :: rest, item :: items =>
    match field.check item with
    | some message => .error message
    | none => ((field.name, item) :: ·) <$> sequenceMembers expecting length (index + 1) rest items

/-- The members of a record named `name` with the `declared` fields, checked: a record of
named members, or a sequence of the fields' values in the order declared. -/
def record (name : String) (declared : List FieldCheck) : Json → Except String (List (String × Json))
  | .object fields => do
    checkRecord fields declared
    pure fields
  | .array items =>
    sequenceMembers s!"struct {name} with {declared.length} elements" items.length 0 declared items
  | other => .error (invalidType (unexpected other) s!"struct {name}")

/-- A field that the record check found present and well-formed. -/
def required {α : Type} (fields : List (String × Json)) (name : String) (decode : Decoder α) :
    Except String α :=
  match fields.lookup name with
  | some value => decode value
  | none => .error s!"missing field `{name}`"

end MeteredPayments.Json

/-!
# JSON values

The documents this library reads and writes: requests, records and pricing files. A number
keeps the text it was written with, so that a reader can decide later which kind of number
it wants and refuse the text when it does not fit (`1.0` is no whole number, `-1` no count).
Objects keep their members in the order they were written.
-/

namespace MeteredPayments

/-- A JSON value whose numbers keep their literal text. -/
inductive Json where
  /-- The literal `null`. -/
  | null
  /-- `true` or `false`. -/
  | bool (value : Bool)
  /-- A number, as its literal text. -/
  | number (text : String)
  /-- A string. -/
  | string (value : String)
  /-- An array, in order. -/
  | array (items : List Json)
  /-- An object, its members in the order written. -/
  | object (members : List (String × Json))
deriving Repr, Inhabited

namespace Json

/-- A whole number written in decimal. -/
def ofNat (value : Nat) : Json := .number (toString value)

/-- The value of the first member named `key`, if the value is an object that has one. -/
def field? (value : Json) (key : String) : Option Json :=
  match value with
  | .object members => members.lookup key
  | _ => none

/-- An optional value: `null` for none. -/
def ofOption {α : Type} (encode : α → Json) : Option α → Json
  | some value => encode value
  | none => .null

/-- Whether the value is the literal `null`. -/
def isNull : Json → Bool
  | .null => true
  | _ => false

end Json

end MeteredPayments

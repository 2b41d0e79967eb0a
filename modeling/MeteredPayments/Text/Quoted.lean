import MeteredPayments.Text.Unicode

/-!
# Quoted text

Error messages quote the text they refuse: between double quotes, with a backslash before quotes,
backslashes and the common controls, and `\u{hex}` for every other character that does not
print.
-/

namespace MeteredPayments.Text

/-- The lowercase hexadecimal digits of a number, without leading zeros (`0` for zero). -/
def hexDigits (value : Nat) : List Char := Nat.toDigits 16 value

/-- How one character is written inside a quoted text; `quote` is the quote that delimits it. -/
def escape (quote : Char) (character : Char) : List Char :=
  if character = quote ∨ character = '\\' then ['\\', character]
  else if character = '\t' then ['\\', 't']
  else if character = '\n' then ['\\', 'n']
  else if character = '\r' then ['\\', 'r']
  else if character = '\x00' then ['\\', '0']
  else if isPrintable character then [character]
  else ['\\', 'u', '\x7b'] ++ hexDigits character.toNat ++ ['\x7d']

/-- A text between double quotes, with the characters that do not print escaped. -/
def quote (text : String) : String :=
  String.ofList ('"' :: text.toList.flatMap (escape '"') ++ ['"'])

/-- A character between single quotes, escaped as inside a quoted text. -/
def quoteChar (character : Char) : String :=
  String.ofList ('\'' :: escape '\'' character ++ ['\''])

end MeteredPayments.Text

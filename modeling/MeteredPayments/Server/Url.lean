import MeteredPayments.Domain.Idna

/-!
# Endpoint addresses

The escrow endpoint is a URL, checked as the URL standard and an HTTP client check a target:
a scheme, for the special schemes an authority with a host read as an IPv6 address, an IPv4
address or a domain name, and an `http` or `https` scheme.
-/

namespace MeteredPayments.Server

/-- Why text is not a URL. -/
inductive UrlError where
  | emptyHost
  | invalidPort
  | invalidIpv4Address
  | invalidIpv6Address
  | invalidDomainCharacter
  | idnaError
  | relativeUrlWithoutBase
deriving DecidableEq, Repr

/-- The sentence that reports a URL error. -/
def UrlError.message : UrlError → String
  | .emptyHost => "empty host"
  | .invalidPort => "invalid port number"
  | .invalidIpv4Address => "invalid IPv4 address"
  | .invalidIpv6Address => "invalid IPv6 address"
  | .invalidDomainCharacter => "invalid domain character"
  | .idnaError => "invalid international domain name"
  | .relativeUrlWithoutBase => "relative URL without a base"

/-- The parts of a URL an HTTP client looks at. -/
structure Url where
  /-- The scheme, in lowercase. -/
  scheme : String
  /-- The host, if the URL has one. -/
  host : Option String
  /-- The port, if one is written. -/
  port : Option Nat
deriving DecidableEq, Repr

namespace Url

/-- The schemes with a fixed shape, besides `file`. -/
def specialSchemes : List String := ["http", "https", "ws", "wss", "ftp"]

/-- Whether a character may continue a scheme. -/
def isSchemeCharacter (character : Char) : Bool :=
  character.isAlphanum || character = '+' || character = '-' || character = '.'

/-- The value of a hexadecimal digit. -/
def hexValue (character : Char) : Option Nat :=
  if character.isDigit then some (character.toNat - 48)
  else if 'a' ≤ character ∧ character ≤ 'f' then some (character.toNat - 87)
  else if 'A' ≤ character ∧ character ≤ 'F' then some (character.toNat - 55)
  else none

/-! ## IPv6 addresses -/

/-- Reads up to `count` hexadecimal digits: their value, how many were read, and the rest. -/
def hexPiece : Nat → Nat → Nat → List Char → Nat × Nat × List Char
  | 0, value, read, rest => (value, read, rest)
  | _ + 1, value, read, [] => (value, read, [])
  | count + 1, value, read, character :: rest =>
    match hexValue character with
    | some digit => hexPiece count (16 * value + digit) (read + 1) rest
    | none => (value, read, character :: rest)

/-- Reads a decimal number of an embedded IPv4 address: at most 255, with no leading zero;
none if there is no digit or the number is malformed. -/
def ipv4Piece : Option Nat → List Char → Option (Option Nat × List Char)
  | piece, [] => some (piece, [])
  | piece, character :: rest =>
    if character.isDigit then
      let digit := character.toNat - 48
      match piece with
      | none => ipv4Piece (some digit) rest
      | some 0 => none
      | some value =>
        if 10 * value + digit > 255 then none else ipv4Piece (some (10 * value + digit)) rest
    else some (piece, character :: rest)

/-- Reads the embedded IPv4 address at the end of an IPv6 address: four numbers separated by
dots; the piece count after it, or none. -/
def ipv4Tail : Nat → Nat → Nat → List Char → Option Nat
  | 0, _, _, _ => none
  | fuel + 1, pieces, seen, input =>
    match input with
    | [] => if seen = 4 then some pieces else none
    | _ =>
      let rest? := if seen = 0 then some input
        else match input with
          | '.' :: rest => if seen < 4 then some rest else none
          | _ => none
      match rest? with
      | none => none
      | some rest =>
        match ipv4Piece none rest with
        | some (some _, after) =>
          let seen := seen + 1
          ipv4Tail fuel (if seen = 2 ∨ seen = 4 then pieces + 1 else pieces) seen after
        | _ => none

/-- Reads the pieces of an IPv6 address: `pieces` counts the pieces read and `compressed`
whether `::` was read; the piece count at the end, or none if the address is malformed. -/
def ipv6Pieces : Nat → Nat → Bool → List Char → Option (Nat × Bool)
  | 0, _, _, _ => none
  | _ + 1, pieces, compressed, [] => some (pieces, compressed)
  | fuel + 1, pieces, compressed, input@(character :: rest) =>
    if pieces = 8 then none
    else if character = ':' then
      if compressed then none else ipv6Pieces fuel (pieces + 1) true rest
    else
      let (_, read, after) := hexPiece 4 0 0 input
      match after with
      | [] => some (pieces + 1, compressed)
      | '.' :: _ =>
        if read = 0 ∨ pieces > 6 then none
        else (ipv4Tail (input.length + 1) pieces 0 input).map (·, compressed)
      | ':' :: [] => none
      | ':' :: more => ipv6Pieces fuel (pieces + 1) compressed more
      | _ => none

/-- Whether the text between brackets is an IPv6 address: eight pieces of up to four
hexadecimal digits separated by colons, with one `::` standing for missing pieces, and
optionally an IPv4 address for the last two pieces. -/
def isIpv6 (input : List Char) : Bool :=
  let start := match input with
    | ':' :: ':' :: rest => some (1, true, rest)
    | ':' :: _ => none
    | [] | [_] => none
    | _ => some (0, false, input)
  match start with
  | none => false
  | some (pieces, compressed, rest) =>
    match ipv6Pieces (rest.length + 1) pieces compressed rest with
    | some (count, true) => count ≤ 8
    | some (count, false) => count = 8
    | none => false

/-! ## IPv4 addresses -/

/-- The value of a number in an IPv4 address: decimal, hexadecimal after `0x`, or octal after a
leading zero; `0x` alone is zero. -/
def ipv4Number (part : String) : Option Nat :=
  let characters := part.toList
  match characters with
  | '0' :: ('x' :: rest) | '0' :: ('X' :: rest) =>
    if rest.all Char.isHexDigit then
      some (rest.foldl (fun value digit => 16 * value + ((hexValue digit).getD 0)) 0)
    else none
  | '0' :: rest@(_ :: _) =>
    if rest.all fun digit => '0' ≤ digit ∧ digit ≤ '7' then
      some (rest.foldl (fun value digit => 8 * value + (digit.toNat - 48)) 0)
    else none
  | _ => if !characters.isEmpty && characters.all Char.isDigit then part.toNat? else none

/-- The labels of a domain, without one empty last label. -/
def labels (domain : String) : List String :=
  let parts := domain.splitOn "."
  if parts.length > 1 && parts.getLast? = some "" then parts.dropLast else parts

/-- Whether a domain ends in a number, so that it must be an IPv4 address. -/
def endsInNumber (domain : String) : Bool :=
  match (labels domain).getLast? with
  | some last =>
    (!last.isEmpty && last.all Char.isDigit) || (ipv4Number last).isSome
  | none => false

/-- Checks an IPv4 address: at most four numbers, each but the last below 256, the last filling
the bytes left. -/
def checkIpv4 (domain : String) : Except UrlError Unit := do
  let parts := labels domain
  if parts.length > 4 then throw .invalidIpv4Address
  let numbers ← parts.mapM fun part =>
    match ipv4Number part with
    | some value => pure value
    | none => throw .invalidIpv4Address
  match numbers.reverse with
  | [] => throw .invalidIpv4Address
  | last :: earlier =>
    if earlier.any (· > 255) then throw .invalidIpv4Address
    if last ≥ Nat.pow 256 (5 - numbers.length) then throw .invalidIpv4Address

/-! ## Hosts -/

/-- Decodes the `%` escapes of two hexadecimal digits; any other `%` stands for itself. -/
def percentDecode : List UInt8 → List UInt8
  | [] => []
  | byte :: high :: low :: after =>
    match decide (byte = 37), hexValue (Char.ofNat high.toNat), hexValue (Char.ofNat low.toNat) with
    | true, some h, some l => (16 * h + l).toUInt8 :: percentDecode after
    | _, _, _ => byte :: percentDecode (high :: low :: after)
  | byte :: rest => byte :: percentDecode rest
termination_by bytes => bytes.length

/-- Reads a host of a special URL: an IPv6 address in brackets, or a domain name, which must be
an IPv4 address when it ends in a number. The host as the URL keeps it. -/
def parseHost (text : String) : Except UrlError String := do
  if text.startsWith "[" then
    if !text.endsWith "]" then throw .invalidIpv6Address
    let inner := ((text.drop 1).dropEnd 1).toString
    if isIpv6 inner.toList then pure text else throw .invalidIpv6Address
  else
    let bytes := percentDecode text.toUTF8.data.toList
    let decoded ← match String.fromUTF8? (ByteArray.mk bytes.toArray) with
      | some decoded => pure decoded
      | none => throw .idnaError
    let ascii ← match Domain.toAscii decoded.toList with
      | some ascii => pure ascii
      | none => throw .idnaError
    if ascii.isEmpty then throw .emptyHost
    if endsInNumber ascii then checkIpv4 ascii
    pure ascii

/-- The characters an opaque host may not hold. -/
def isForbiddenInOpaqueHost (character : Char) : Bool :=
  "\x00\t\n\r #/:<>?@[\\]^|".toList.contains character

/-- Reads a host of a URL with another scheme: an IPv6 address in brackets, or any text without
the forbidden characters. -/
def parseOpaqueHost (text : String) : Except UrlError String := do
  if text.startsWith "[" then
    if !text.endsWith "]" then throw .invalidIpv6Address
    let inner := ((text.drop 1).dropEnd 1).toString
    if isIpv6 inner.toList then pure text else throw .invalidIpv6Address
  else if text.any isForbiddenInOpaqueHost then throw .invalidDomainCharacter
  else pure text

/-- Reads a port: decimal digits of a value of at most 65535, up to the path, query or
fragment. -/
def parsePort : Nat → Bool → List Char → Except UrlError (Option Nat)
  | value, any, [] => .ok (if any then some value else none)
  | value, any, character :: rest =>
    if character.isDigit then
      let value := 10 * value + (character.toNat - 48)
      if value > 65535 then .error .invalidPort else parsePort value true rest
    else if character = '/' || character = '\\' || character = '?' || character = '#' then
      .ok (if any then some value else none)
    else .error .invalidPort

/-- Whether a character ends an authority. -/
def endsAuthority (special : Bool) (character : Char) : Bool :=
  character = '/' || character = '?' || character = '#' || (special && character = '\\')

/-- Whether user information leaves a mark in the URL: a user name, or a password after the
first colon. -/
def writesUserInfo (info : List Char) : Bool :=
  match info.span (· ≠ ':') with
  | (user, []) => !user.isEmpty
  | (user, _ :: password) => !user.isEmpty || !password.isEmpty

/-- The characters of a host: up to a colon outside brackets or the end of the authority. -/
def hostText (special : Bool) : Bool → List Char → List Char × List Char
  | _, [] => ([], [])
  | inside, character :: rest =>
    if (character = ':' && !inside) || endsAuthority special character then ([], character :: rest)
    else
      let inside := if character = '[' then true else if character = ']' then false else inside
      let (host, after) := hostText special inside rest
      (character :: host, after)

/-- Reads an authority: user information, host and port. -/
def parseAuthority (special : Bool) (input : List Char) :
    Except UrlError (Option String × Option Nat) := do
  let region := input.takeWhile fun c => !endsAuthority special c
  let atIndex := (region.reverse.findIdx? (· = '@')).map (region.length - 1 - ·)
  let (writtenInfo, rest) ← match atIndex with
    | none => pure (false, input)
    | some 0 =>
      match input.drop 1 with
      | next :: _ => if endsAuthority special next then throw .emptyHost else pure (false, input.drop 1)
      | [] => pure (false, [])
    | some index => pure (writesUserInfo (input.take index), input.drop (index + 1))
  let (host, after) := hostText special false rest
  let hostString := String.ofList host
  if special && host.isEmpty then throw .emptyHost
  let parsed ← if special then parseHost hostString else parseOpaqueHost hostString
  if parsed.isEmpty && after.head? = some ':' then throw .emptyHost
  let port ← match after with
    | ':' :: digits => parsePort 0 false digits
    | _ => pure none
  if parsed.isEmpty && writtenInfo then throw .emptyHost
  pure (if parsed.isEmpty then none else some parsed, port)

/-- Whether two characters are a Windows drive letter, which a `file` URL reads as a path. -/
def isDriveLetter : List Char → Bool
  | [letter, mark] => letter.isAlpha && (mark = ':' || mark = '|')
  | _ => false

/-- Reads what follows `file:`: a host only after two slashes, none for `localhost`. -/
def parseFile (rest : List Char) : Except UrlError (Option String) := do
  match rest with
  | first :: second :: after =>
    if (first = '/' || first = '\\') && (second = '/' || second = '\\') then
      let host := after.takeWhile fun c => !endsAuthority true c
      if host.isEmpty || isDriveLetter host then pure none
      else
        let parsed ← parseHost (String.ofList host)
        pure (if parsed = "localhost" then none else some parsed)
    else pure none
  | _ => pure none

/-- Reads a URL. -/
def parse (input : String) : Except UrlError Url := do
  let trimmed := (input.toList.dropWhile (·.toNat ≤ 0x20)).reverse.dropWhile (·.toNat ≤ 0x20)
  let characters := trimmed.reverse.filter fun c => c ≠ '\t' && c ≠ '\n' && c ≠ '\r'
  let (schemeText, rest) := characters.span isSchemeCharacter
  match schemeText, rest with
  | first :: _, ':' :: rest =>
    if !first.isAlpha then throw .relativeUrlWithoutBase
    let scheme := (String.ofList schemeText).toLower
    if scheme = "file" then
      pure ⟨scheme, ← parseFile rest, none⟩
    else if specialSchemes.contains scheme then
      let (host, port) ← parseAuthority true (rest.dropWhile fun c => c = '/' || c = '\\')
      pure ⟨scheme, host, port⟩
    else
      match rest with
      | '/' :: '/' :: rest =>
        let (host, port) ← parseAuthority false rest
        pure ⟨scheme, host, port⟩
      | _ => pure ⟨scheme, none, none⟩
  | _, _ => throw .relativeUrlWithoutBase

end Url

end MeteredPayments.Server

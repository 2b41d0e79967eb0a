import MeteredPayments.Signer.Binding

/-!
# The options of the command line

Every setting is a long option with one value, an environment variable that stands in for it and,
for most, a default. Values are checked as they are taken: ports, sizes, counts, addresses and
paths each have their range.
-/

namespace MeteredPayments.Cli

/-- What kind of value an option takes. -/
inductive ValueKind where
  /-- A whole number up to `2^16 - 1`, read as a signed 64-bit number first. -/
  | port
  /-- A whole number up to `2^32 - 1`, read as a signed 64-bit number first. -/
  | size
  /-- A whole number up to `2^64 - 1`. -/
  | count
  /-- An address. -/
  | address
  /-- Any text. -/
  | text
  /-- A file path, which may not be empty. -/
  | path
  /-- Signer bindings, separated by commas. -/
  | bindings
deriving DecidableEq, Repr

/-- A long option that takes a value. -/
structure OptionSpec where
  /-- The name after `--`. -/
  long : String
  /-- The help sentence. -/
  help : String
  /-- The environment variable that stands in for the option. -/
  env : String
  /-- The default, as text. -/
  default : Option String
  /-- The kind of value. -/
  kind : ValueKind
  /-- Whether the option must be given. -/
  required : Bool
deriving DecidableEq, Repr

namespace OptionSpec

/-- The name of the option's value, in capitals. -/
def valueName (spec : OptionSpec) : String :=
  String.map (fun c => if c = '-' then '_' else c.toUpper) spec.long

/-- How messages show the option: `--name <VALUE>`. -/
def display (spec : OptionSpec) : String := s!"--{spec.long} <{spec.valueName}>"

end OptionSpec

/-- The options, in the order of the help. -/
def options : List OptionSpec :=
  [⟨"port", "Port to listen on for JSON-RPC requests. Defaults to 8080", "SIDECAR_PORT",
      some "8080", .port, false⟩,
   ⟨"chain-id", "Chain ID of the chain the collector and escrow contracts are deployed on",
      "SIDECAR_CHAIN_ID", some "1", .count, false⟩,
   ⟨"collector", "Collector contract address. RAVs are signed for it (EIP-712 verifying contract)",
      "SIDECAR_COLLECTOR", none, .address, true⟩,
   ⟨"service-provider",
      "Address of the provider running this sidecar. RAVs and escrow accounts must name it as the receiver",
      "SIDECAR_SERVICE_PROVIDER", none, .address, true⟩,
   ⟨"escrow-contract", "Payments escrow contract address", "SIDECAR_ESCROW_CONTRACT", none,
      .address, true⟩,
   ⟨"escrow-rpc-url", "Ethereum JSON-RPC endpoint used to read escrow balances",
      "SIDECAR_ESCROW_RPC_URL", none, .text, true⟩,
   ⟨"accepted-signers",
      "Signers whose RAVs are accepted, each bound to the payer that authorized it. Expects a comma-separated list of `<signer>:<authorizer>` entries. A bare `<signer>` signs for itself",
      "SIDECAR_ACCEPTED_SIGNERS", none, .bindings, false⟩,
   ⟨"escrow-query-timeout-ms",
      "Bound on a single escrow balance lookup, in milliseconds. Defaults to 2000",
      "SIDECAR_ESCROW_QUERY_TIMEOUT_MS", some "2000", .count, false⟩,
   ⟨"session-retention-secs",
      "How long ended sessions are kept before being removed, in seconds. Defaults to 3600",
      "SIDECAR_SESSION_RETENTION_SECS", some "3600", .count, false⟩,
   ⟨"pricing-config",
      "JSON pricing document with the keys `price_per_block` and `price_per_byte`. Takes precedence over `--price-per-block` and `--price-per-byte`",
      "SIDECAR_PRICING_CONFIG", none, .path, false⟩,
   ⟨"price-per-block", "Price of one processed block, in tokens (e.g. \"0.000001\")",
      "SIDECAR_PRICE_PER_BLOCK", some "0", .text, false⟩,
   ⟨"price-per-byte", "Price of one transferred byte, in tokens", "SIDECAR_PRICE_PER_BYTE",
      some "0", .text, false⟩,
   ⟨"max-request-body-size", "Maximum request body size in bytes. Defaults to 10MB",
      "SIDECAR_MAX_REQUEST_BODY_SIZE", some "10485760", .size, false⟩,
   ⟨"max-response-body-size", "Maximum response body size in bytes. Defaults to 100kB",
      "SIDECAR_MAX_RESPONSE_BODY_SIZE", some "102400", .size, false⟩,
   ⟨"max-connections", "Maximum number of concurrent connections. Defaults to 32",
      "SIDECAR_MAX_CONNECTIONS", some "32", .size, false⟩,
   ⟨"metrics-port", "Metrics server port. Defaults to 5000", "SIDECAR_METRICS_PORT",
      some "5000", .port, false⟩]

/-- A value taken by an option. -/
inductive OptionValue where
  /-- A whole number. -/
  | number (value : Nat)
  /-- An address. -/
  | address (value : Address)
  /-- Text, or a path. -/
  | text (value : String)
  /-- A signer binding. -/
  | binding (value : Signer.Binding)
deriving DecidableEq

/-- Why a number's text is no number of its type. -/
inductive NumberError where
  | empty
  | invalidDigit
  | tooLarge
  | tooSmall
deriving DecidableEq, Repr

/-- The sentence that reports a number error. -/
def NumberError.message : NumberError → String
  | .empty => "cannot parse integer from empty string"
  | .invalidDigit => "invalid digit found in string"
  | .tooLarge => "number too large to fit in target type"
  | .tooSmall => "number too small to fit in target type"

/-- Accumulates decimal digits from `value`, failing at the first character that is no digit
or at the first digit that takes the value to `limit` or beyond; `failure` is the error of the
latter. -/
def accumulate (limit : Nat) (failure : NumberError) : Nat → List Char → Except NumberError Nat
  | value, [] => .ok value
  | value, digit :: rest =>
    if digit.isDigit then
      let next := 10 * value + (digit.toNat - 48)
      if next ≥ limit then .error failure else accumulate limit failure next rest
    else .error .invalidDigit

/-- Reads an unsigned 64-bit number: an optional `+` and decimal digits. -/
def parseUnsigned (text : String) : Except NumberError Nat :=
  match text.toList with
  | [] => .error .empty
  | ['+'] => .error .invalidDigit
  | '+' :: digits => accumulate (Nat.pow 2 64) .tooLarge 0 digits
  | digits => accumulate (Nat.pow 2 64) .tooLarge 0 digits

/-- Reads a signed 64-bit number: an optional sign and decimal digits. -/
def parseSigned (text : String) : Except NumberError Int :=
  match text.toList with
  | [] => .error .empty
  | ['+'] | ['-'] => .error .invalidDigit
  | '+' :: digits => (Int.ofNat ·) <$> accumulate (Nat.pow 2 63) .tooLarge 0 digits
  | '-' :: digits => (fun value => -(value : Int)) <$> accumulate (Nat.pow 2 63 + 1) .tooSmall 0 digits
  | digits => (Int.ofNat ·) <$> accumulate (Nat.pow 2 63) .tooLarge 0 digits

/-- Reads a signed number and checks that it lies in `0..=maximum`. -/
def parseBounded (maximum : Nat) (text : String) : Except String Nat :=
  match parseSigned text with
  | .error error => .error error.message
  | .ok value =>
    if 0 ≤ value ∧ value ≤ maximum then .ok value.toNat
    else .error s!"{value} is not in 0..={maximum}"

/-- Why a value is refused. -/
inductive ValueError where
  /-- The value is no value of the option's kind, for the reason given. -/
  | invalid (value reason : String)
  /-- The value is empty where it may not be. -/
  | empty
deriving DecidableEq, Repr

/-- Reads the values of one raw value of an option. -/
def parseValue (kind : ValueKind) (raw : String) : Except ValueError (List OptionValue) :=
  let invalid := fun (reason : String) => ValueError.invalid raw reason
  match kind with
  | .port => (fun n => [.number n]) <$> (parseBounded 65535 raw).mapError invalid
  | .size => (fun n => [.number n]) <$> (parseBounded 4294967295 raw).mapError invalid
  | .count => (fun n => [.number n]) <$> (parseUnsigned raw).mapError (invalid ·.message)
  | .address => (fun a => [.address a]) <$> (Address.parse raw).mapError (invalid ·.message)
  | .text => .ok [.text raw]
  | .path => if raw.isEmpty then .error .empty else .ok [.text raw]
  | .bindings =>
    (raw.splitOn ",").mapM fun part =>
      match Signer.Binding.parse part with
      | .ok binding => .ok (.binding binding)
      | .error error => .error (ValueError.invalid part error.message)

end MeteredPayments.Cli

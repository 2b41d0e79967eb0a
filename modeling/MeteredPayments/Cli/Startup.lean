import MeteredPayments.Cli.Help
import MeteredPayments.Server.Chain
import MeteredPayments.Server.Config
import MeteredPayments.Server.Http

/-!
# Starting the service

The program reads its command line, loads its prices, checks the escrow endpoint, builds the
provider and serves; help and version exit with 0, a refused command line with 2, and any later
failure, printed as the chain of its causes, with 1.
-/

namespace MeteredPayments.Cli

/-- The settings the service runs with. -/
structure Settings where
  /-- The JSON-RPC port. -/
  port : Nat
  /-- The chain of the contracts. -/
  chainId : Nat
  /-- The collector contract. -/
  collector : Address
  /-- The provider's own address. -/
  serviceProvider : Address
  /-- The escrow contract. -/
  escrowContract : Address
  /-- The escrow endpoint. -/
  escrowRpcUrl : String
  /-- The accepted signers with the payers they sign for. -/
  acceptedSigners : List Signer.Binding
  /-- The bound on one escrow lookup, in milliseconds. -/
  escrowQueryTimeoutMs : Nat
  /-- How long ended sessions are kept, in seconds. -/
  sessionRetentionSecs : Nat
  /-- The pricing file, if any. -/
  pricingConfig : Option String
  /-- The block price option. -/
  pricePerBlock : String
  /-- The byte price option. -/
  pricePerByte : String
  /-- The JSON-RPC size and connection limits. -/
  limits : Server.Limits
  /-- The metrics port. -/
  metricsPort : Nat

namespace Settings

/-- The values an option took, or its default's. -/
def valuesOf (matched : List Matched) (long : String) : List OptionValue :=
  match matched.find? (·.spec.long = long) with
  | some entry => entry.values
  | none =>
    match options.find? (·.long = long) with
    | some spec =>
      match spec.default with
      | some text => (parseValue spec.kind text).toOption.getD []
      | none => []
    | none => []

/-- The number an option took. -/
def number (matched : List Matched) (long : String) : Nat :=
  match valuesOf matched long with
  | [.number value] => value
  | _ => 0

/-- The address an option took. -/
def address (matched : List Matched) (long : String) : Address :=
  match valuesOf matched long with
  | [.address value] => value
  | _ => Address.zero

/-- The text an option took, if any. -/
def text? (matched : List Matched) (long : String) : Option String :=
  match valuesOf matched long with
  | [.text value] => some value
  | _ => none

/-- The settings of the options read. -/
def ofMatched (matched : List Matched) : Settings :=
  ⟨number matched "port", number matched "chain-id", address matched "collector",
    address matched "service-provider", address matched "escrow-contract",
    (text? matched "escrow-rpc-url").getD "",
    (valuesOf matched "accepted-signers").filterMap fun value =>
      match value with
      | .binding binding => some binding
      | _ => none,
    number matched "escrow-query-timeout-ms", number matched "session-retention-secs",
    text? matched "pricing-config", (text? matched "price-per-block").getD "0",
    (text? matched "price-per-byte").getD "0",
    ⟨number matched "max-request-body-size", number matched "max-response-body-size",
      number matched "max-connections"⟩,
    number matched "metrics-port"⟩

end Settings

/-- A running service: its settings, the service and its escrow endpoint. -/
structure Running where
  /-- The settings. -/
  settings : Settings
  /-- The service. -/
  service : Server.Service
  /-- The escrow endpoint. -/
  endpoint : Server.EscrowEndpoint

/-- How a run of the program goes. -/
inductive Outcome where
  /-- The program exits with a code, having printed on standard output and standard error. -/
  | exit (code : Nat) (stdout stderr : String)
  /-- The program serves. -/
  | serve (running : Running)

/-- The report of a failure: the outermost sentence, then its causes, numbered when there are
several. -/
def errorReport : List String → String
  | [] => "Error: \n"
  | [message] => s!"Error: {message}\n"
  | [message, cause] => s!"Error: {message}\n\nCaused by:\n    {cause}\n"
  | message :: causes =>
    s!"Error: {message}\n\nCaused by:\n" ++
      String.join (causes.zipIdx.map fun (cause, i) => s!"    {i}: {cause}\n")

/-- Runs the program on its arguments in an environment, reading files with `contentsOf` and
drawing session ids from `ids`. -/
def run (arguments : List String) (environment : List (String × String))
    (contentsOf : String → Except String String) (ids : IdSource) : Outcome :=
  match readArguments arguments environment with
  | .error .help => .exit 0 (helpText environment) ""
  | .error .version => .exit 0 versionText ""
  | .error (.refused error) => .exit 2 "" error.render
  | .ok matched =>
    let settings := Settings.ofMatched matched
    let source := match settings.pricingConfig with
      | some path => Server.PricingSource.file path (contentsOf path)
      | none => Server.PricingSource.options settings.pricePerBlock settings.pricePerByte
    match source.load with
    | .error chain => .exit 1 "" (errorReport chain)
    | .ok pricing =>
      match Server.EscrowEndpoint.make settings.escrowRpcUrl settings.escrowContract with
      | .error error => .exit 1 "" (errorReport (error.message :: error.causes))
      | .ok endpoint =>
        let signers := Allowlist.ofPairs (settings.acceptedSigners.map fun binding =>
          (binding.signer, binding.authorizer))
        let config : ProviderConfig := ⟨settings.serviceProvider, settings.collector,
          settings.chainId, pricing, settings.escrowQueryTimeoutMs⟩
        .serve ⟨settings, Server.Service.new (Provider.new config signers ids), endpoint⟩

end MeteredPayments.Cli

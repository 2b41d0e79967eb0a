import MeteredPayments.Bytes.BigEndian
import MeteredPayments.Bytes.Hex
import MeteredPayments.Cli.Help
import MeteredPayments.Cli.Options
import MeteredPayments.Cli.Parse
import MeteredPayments.Cli.Startup
import MeteredPayments.Crypto.Ecdsa
import MeteredPayments.Crypto.Keccak
import MeteredPayments.Crypto.Secp256k1
import MeteredPayments.Crypto.Sha256
import MeteredPayments.Domain.Properties
import MeteredPayments.Domain.Idna
import MeteredPayments.Domain.Punycode
import MeteredPayments.Domain.Status
import MeteredPayments.Entries
import MeteredPayments.Escrow.Ledger
import MeteredPayments.Eth.Address
import MeteredPayments.Eth.Decode
import MeteredPayments.Eth.Eip712
import MeteredPayments.Eth.Signature
import MeteredPayments.Json.Decode
import MeteredPayments.Json.Float
import MeteredPayments.Json.Parse
import MeteredPayments.Json.Text
import MeteredPayments.Json.Value
import MeteredPayments.Json.Write
import MeteredPayments.Main
import MeteredPayments.Price.Basic
import MeteredPayments.Price.Document
import MeteredPayments.Price.Pricing
import MeteredPayments.Provider.Error
import MeteredPayments.Provider.Handler
import MeteredPayments.Provider.Messages
import MeteredPayments.Provider.Rejection
import MeteredPayments.Server.Chain
import MeteredPayments.Server.Config
import MeteredPayments.Server.Http
import MeteredPayments.Server.Metrics
import MeteredPayments.Server.Network
import MeteredPayments.Server.Rpc
import MeteredPayments.Server.Url
import MeteredPayments.Session.Basic
import MeteredPayments.Session.Store
import MeteredPayments.Session.Serials
import MeteredPayments.Signer.Allowlist
import MeteredPayments.Signer.Binding
import MeteredPayments.Signer.Proof
import MeteredPayments.Signer.Verifier
import MeteredPayments.Text.Blank
import MeteredPayments.Text.Quoted
import MeteredPayments.Text.Unicode
import MeteredPayments.Voucher.Basic
import MeteredPayments.Voucher.Signed
import MeteredPayments.Proofs.Store
import MeteredPayments.Proofs.Handler
import MeteredPayments.Proofs.Run
import MeteredPayments.Proofs.Refusal
import MeteredPayments.Proofs.Vouchers
import MeteredPayments.Proofs.Cost
import MeteredPayments.Proofs.Usage
import MeteredPayments.Proofs.Sessions
import MeteredPayments.Proofs.CheckOrder
import MeteredPayments.Proofs.Ending
import MeteredPayments.Proofs.Submissions
import MeteredPayments.Proofs.Decimal
import MeteredPayments.Proofs.Reading
import MeteredPayments.Proofs.PriceJson
import MeteredPayments.Proofs.Signers
import MeteredPayments.Proofs.Isolation
import MeteredPayments.Proofs.Outage
import MeteredPayments.Proofs.Metrics
import MeteredPayments.Proofs.Payments
import MeteredPayments.Proofs.Funding
import MeteredPayments.Proofs.Escrow
import MeteredPayments.Proofs.Bytes
import MeteredPayments.Proofs.Bindings
import MeteredPayments.Proofs.Eviction
import MeteredPayments.Proofs.Authorization
import MeteredPayments.Proofs.Accumulation

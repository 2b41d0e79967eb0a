import MeteredPayments.Eth.Decode
import MeteredPayments.Eth.Eip712

/-!
# Vouchers

A receipt aggregate voucher is a payer's signed promise of the running total owed to a service
provider. Its EIP-712 struct hash encodes the fields as 32-byte words, the metadata by its hash.
-/

namespace MeteredPayments

/-- A receipt aggregate voucher. -/
structure Voucher where
  /-- The 32-byte collection the voucher belongs to. -/
  collectionId : ByteArray
  /-- Who pays. -/
  payer : Address
  /-- The data service the voucher was issued for. -/
  dataService : Address
  /-- Who is paid. -/
  serviceProvider : Address
  /-- The time of the latest receipt covered, in nanoseconds; 64 bits. -/
  timestampNs : Nat
  /-- The total owed so far, in wei; 128 bits. -/
  valueAggregate : Nat
  /-- Free-form bytes for the data service. -/
  metadata : ByteArray

namespace Voucher

/-- The hash of the voucher's type. -/
def typeHash : ByteArray :=
  Keccak.hash ("ReceiptAggregateVoucher(bytes32 collectionId,address payer,address dataService," ++
    "address serviceProvider,uint64 timestampNs,uint128 valueAggregate,bytes metadata)").toUTF8

/-- The EIP-712 struct hash. -/
def structHash (voucher : Voucher) : ByteArray :=
  Keccak.hash (typeHash ++ BigEndian.word (BigEndian.toNat voucher.collectionId) ++
    BigEndian.word voucher.payer.toNat ++ BigEndian.word voucher.dataService.toNat ++
    BigEndian.word voucher.serviceProvider.toNat ++ BigEndian.word voucher.timestampNs ++
    BigEndian.word voucher.valueAggregate ++ Keccak.hash voucher.metadata)

/-- The digest a payer signs for this voucher in `domain`. -/
def signingHash (domain : Domain) (voucher : Voucher) : ByteArray :=
  domain.signingHash voucher.structHash

/-- The record form. -/
def toJson (voucher : Voucher) : Json :=
  .object [("collectionId", .string (Hex.encode voucher.collectionId)),
    ("payer", .string voucher.payer.toHex),
    ("dataService", .string voucher.dataService.toHex),
    ("serviceProvider", .string voucher.serviceProvider.toHex),
    ("timestampNs", Json.ofNat voucher.timestampNs),
    ("valueAggregate", Json.ofNat voucher.valueAggregate),
    ("metadata", .string (Hex.encode voucher.metadata))]

/-- The fields, as a record reader checks them. -/
def fieldChecks : List Json.FieldCheck :=
  [.of "collectionId" .required (Json.fixedBytes 32), .of "payer" .required Json.address,
   .of "dataService" .required Json.address, .of "serviceProvider" .required Json.address,
   .of "timestampNs" .required (Json.unsigned 64 "u64"),
   .of "valueAggregate" .required (Json.unsigned 128 "u128"),
   .of "metadata" .required Json.variableBytes]

/-- Reads a voucher from its record form. -/
def decode : Json.Decoder Voucher := fun value => do
  let fields ← Json.record "ReceiptAggregateVoucher" fieldChecks value
  pure {
    collectionId := ← Json.required fields "collectionId" (Json.fixedBytes 32)
    payer := ← Json.required fields "payer" Json.address
    dataService := ← Json.required fields "dataService" Json.address
    serviceProvider := ← Json.required fields "serviceProvider" Json.address
    timestampNs := ← Json.required fields "timestampNs" (Json.unsigned 64 "u64")
    valueAggregate := ← Json.required fields "valueAggregate" (Json.unsigned 128 "u128")
    metadata := ← Json.required fields "metadata" Json.variableBytes }

end Voucher

end MeteredPayments

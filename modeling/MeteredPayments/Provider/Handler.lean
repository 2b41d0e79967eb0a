import MeteredPayments.Provider.Messages
import MeteredPayments.Session.Store

/-!
# The session handler

A provider drives its sessions through six operations: open, accept a connection's voucher, take
usage reports, take fresh vouchers, report funding, and end. A voucher is checked in one order
everywhere, and every refusal of client input leaves the provider as it was.
-/

namespace MeteredPayments

/-- The fixed settings of a provider. -/
structure ProviderConfig where
  /-- The provider's own address; escrow accounts and vouchers must name it as receiver. -/
  serviceProvider : Address
  /-- The collector contract, which is also the verifying contract of vouchers. -/
  collector : Address
  /-- The chain of the collector. -/
  chainId : Nat
  /-- The prices of new sessions. -/
  pricing : Pricing
  /-- How long an escrow lookup may take, in milliseconds. -/
  escrowQueryTimeoutMs : Nat

/-- The state of a provider: its settings, its signer allow-list and its sessions. -/
structure Provider where
  /-- The settings. -/
  config : ProviderConfig
  /-- The voucher domain with the accepted signers. -/
  verifier : Verifier
  /-- The sessions. -/
  store : Store

namespace Provider

/-- A provider with no sessions, accepting `signers` and drawing session ids from `ids`. -/
def new (config : ProviderConfig) (signers : Allowlist) (ids : IdSource) : Provider :=
  ⟨config, ⟨Domain.ofCollector config.chainId config.collector, signers⟩, Store.empty ids⟩

/-- The escrow account that pays for a session. -/
def escrowAccount (provider : Provider) (session : Session) : EscrowAccount :=
  ⟨session.payer, provider.config.collector, session.receiver⟩

/-- The pricing of a session, the provider's when the session has none. -/
def sessionPricing (provider : Provider) (session : Session) : Pricing :=
  session.pricing.getD provider.config.pricing

/-- Accepts `signer` for `authorizer`, unless it is accepted already; tells whether it was
added. -/
def addSigner (provider : Provider) (signer authorizer : Address) : Bool × Provider :=
  let (added, signers) := provider.verifier.signers.add signer authorizer
  (added, { provider with verifier := { provider.verifier with signers } })

/-- Stops accepting `signer`; tells whether it was accepted. -/
def removeSigner (provider : Provider) (signer : Address) : Bool × Provider :=
  let (removed, signers) := provider.verifier.signers.remove signer
  (removed, { provider with verifier := { provider.verifier with signers } })

/-- Checks that a voucher's signer is accepted for its payer, that `payer` is the payer, and
that it pays this provider. -/
def checkRav (provider : Provider) (signed : SignedVoucher) (payer : Address) :
    Except Rejection Unit := do
  match provider.verifier.verify signed with
  | .error error => throw (Rejection.ofVerification error)
  | .ok _ => pure ()
  if signed.message.payer ≠ payer then
    throw (.payerMismatch payer signed.message.payer)
  if signed.message.serviceProvider ≠ provider.config.serviceProvider then
    throw (.serviceProviderMismatch provider.config.serviceProvider signed.message.serviceProvider)

/-- Opens a session for an escrow account that pays this provider, with the initial voucher if
it checks out. The data service is the request's, else the voucher's, else zero. -/
def startSession (provider : Provider) (request : StartSessionRequest) :
    StartSessionResponse × Provider :=
  let account := request.escrowAccount
  let config := provider.config
  if account.receiver ≠ config.serviceProvider then
    (.rejected (.receiverMismatch config.serviceProvider account.receiver), provider)
  else
    match request.initialRav.map fun signed => provider.checkRav signed account.payer with
    | some (.error rejection) => (.rejected rejection, provider)
    | _ =>
      let dataService := ((request.dataService <|>
        request.initialRav.map fun signed => signed.message.dataService)).getD Address.zero
      let (session, store) := provider.store.create account.payer account.receiver dataService
      let session := session.setPricing config.pricing
      let (session, store) := match request.initialRav with
        | some signed =>
          let (now, store) := store.now
          (session.setRav signed now, store)
        | none => (session, store)
      (⟨true, some session.id, some config.pricing, none⟩, { provider with store := store.put session })

/-- Attaches a checked voucher to the named session, if it exists, or to a new session. -/
def attachRav (provider : Provider) (sessionId : Option String) (signed : SignedVoucher) :
    Except Rejection (Session × Store) :=
  let payer := signed.message.payer
  match sessionId.bind provider.store.find? with
  | some session =>
    if session.payer ≠ payer then .error (.payerMismatch session.payer payer)
    else
      let (now, store) := provider.store.now
      match session.compareAndSetRav signed now with
      | .ok session => .ok (session, store)
      | .error error => .error (Rejection.ofUpdate error)
  | none =>
    let (session, store) :=
      provider.store.create payer provider.config.serviceProvider signed.message.dataService
    let (now, store) := store.now
    .ok (session.setRav signed now, store)

/-- Accepts the voucher that comes with a connection, for the named session or a new one, and
reads the escrow balance with `lookup`. -/
def validatePayment (lookup : EscrowAccount → EscrowBalance) (provider : Provider)
    (request : ValidatePaymentRequest) : ValidatePaymentResponse × Provider :=
  match request.paymentRav with
  | none => (.rejected .missingRav, provider)
  | some signed =>
    match provider.checkRav signed signed.message.payer with
    | .error rejection => (.rejected rejection, provider)
    | .ok () =>
      match provider.attachRav request.sessionId signed with
      | .error rejection => (.rejected rejection, provider)
      | .ok (session, store) =>
        let session := session.setPricing provider.config.pricing
        let balance := lookup (provider.escrowAccount session)
        (⟨true, some session.id, some provider.config.pricing, balance.known?, none⟩,
          { provider with store := store.put session })

/-- Adds reported usage to an active session, priced by the session's pricing. An ended
session is told to stop; an unknown one is an error. -/
def reportUsage (provider : Provider) (request : ReportUsageRequest) :
    Except ServiceError (ReportUsageResponse × Provider) := do
  let session ← provider.store.get request.sessionId
  let usage := request.usage
  let cost := (provider.sessionPricing session).usageCost usage.blocksProcessed usage.bytesTransferred
  let (now, store) := provider.store.now
  match session.addUsage usage.blocksProcessed usage.bytesTransferred usage.requests (some cost) now with
  | .error error => pure (⟨false, false, none, some (Rejection.ofUpdate error)⟩, provider)
  | .ok session =>
    pure (⟨true, session.currentRav.isNone, some session.usage, none⟩,
      { provider with store := store.put session })

/-- Replaces a session's voucher with a newer one that checks out. -/
def submitRav (provider : Provider) (request : SubmitRavRequest) : SubmitRavResponse × Provider :=
  match provider.store.find? request.sessionId with
  | none => (.rejected .sessionNotFound, provider)
  | some session =>
    if !session.isActive then (.rejected (.sessionInactive session.state), provider)
    else
      match request.signedRav with
      | none => (.rejected .missingRav, provider)
      | some signed =>
        match provider.checkRav signed session.payer with
        | .error rejection => (.rejected rejection, provider)
        | .ok () =>
          if signed.message.serviceProvider ≠ session.receiver then
            (.rejected (.serviceProviderMismatch session.receiver signed.message.serviceProvider),
              provider)
          else
            let (now, store) := provider.store.now
            match session.compareAndSetRav signed now with
            | .ok session => (.stored, { provider with store := store.put session })
            | .error error => (.rejected (Rejection.ofUpdate error), provider)

/-- The funding picture of a session, with the escrow balance read by `lookup`; an unknown
session gets the empty picture. -/
def sessionStatus (lookup : EscrowAccount → EscrowBalance) (provider : Provider)
    (request : SessionStatusRequest) : SessionStatusResponse :=
  match provider.store.find? request.sessionId with
  | none => .unknown
  | some session =>
    let totalCost := session.usage.cost
    let ravValue := session.ravValue
    let uncommitted := totalCost - ravValue
    let balance := lookup (provider.escrowAccount session)
    let escrow := balance.orZero
    let blockPrice := (provider.sessionPricing session).perBlock.wei
    let remaining := if blockPrice = 0 then 0 else (escrow - uncommitted) / blockPrice
    ⟨session.isActive, some session, escrow, balance.known?.isSome, totalCost, ravValue,
      uncommitted, decide (uncommitted ≤ escrow), remaining⟩

/-- Adds the final usage and ends a session; ending it again gives the first outcome. -/
def endSession (provider : Provider) (request : EndSessionRequest) :
    Except ServiceError (EndSessionResponse × Provider) := do
  let session ← provider.store.get request.sessionId
  let finalCost := request.finalUsage.map fun usage =>
    (provider.sessionPricing session).usageCost usage.blocksProcessed usage.bytesTransferred
  let (endedAt, session, store) ←
    provider.store.finish request.sessionId request.reason request.finalUsage finalCost
  pure (⟨session.id, session.currentRav, session.usage, endedAt,
    session.endReason.getD request.reason⟩, { provider with store })

/-- Removes a session, giving back its id if it was there. -/
def deleteSession (provider : Provider) (sessionId : String) : Option String × Provider :=
  let (gone, store) := provider.store.delete sessionId
  (gone.map (·.id), { provider with store })

/-- Removes the sessions that ended more than `offset` nanoseconds before now (after now, for a
positive offset), telling how many. -/
def deleteEndedBefore (provider : Provider) (offset : Int) : Nat × Provider :=
  let (now, store) := provider.store.now
  let (removed, store) := store.deleteEndedBefore (now + offset)
  (removed, { provider with store })

end Provider

end MeteredPayments

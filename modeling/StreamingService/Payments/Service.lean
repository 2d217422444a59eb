import StreamingService.Payments.Transactions
import StreamingService.Subscriptions

/-!
# Payments — Service

`PaymentsService`: the two initiation flows, the two webhook handlers with
their common `applyOutcome`, and the sweep that times out M-Pesa pushes
nobody answered. Each of them reads a row in one statement and writes it
in a later one; nothing is held in between.
-/

namespace StreamingService

open Lib

def normalizeMsisdn (phoneNumber : String) : String :=
  match phoneNumber.toList with
  | '0' :: rest => "254" ++ String.ofList rest
  | _ => phoneNumber

namespace PaymentsService

open TransactionsService

/-- Answers the id of the new Transaction, with `status: 'PENDING'`. -/
def initiateMpesa (cfg : AppConfig) (userId userEmail phoneNumber : String) : App String := do
  let transaction ← createPending cfg userId .MPESA
  try
    let result ← MpesaProvider.initiate cfg
      { transactionId := transaction.id
        amount := cfg.subscription.priceAmount
        currency := cfg.subscription.currency
        userEmail
        phoneNumber := normalizeMsisdn phoneNumber }
    -- the provider may call back before this statement has run
    if result.providerReference.truthy then
      setProviderReference transaction.id result.providerReference
  catch err =>
    let _ ← markFailed transaction.id (some (.str "Failed to initiate M-Pesa push"))
    throw err
  return transaction.id

/-- Answers the id of the new Transaction and the provider's redirect URL. -/
def initiateBankGateway (cfg : AppConfig) (userId userEmail : String) : App (String × JsVal) := do
  let transaction ← createPending cfg userId .BANK_GATEWAY
  try
    let result ← BankGatewayProvider.initiate cfg
      { transactionId := transaction.id
        amount := cfg.subscription.priceAmount
        currency := cfg.subscription.currency
        userEmail
        phoneNumber := "" }
    pure (transaction.id, result.redirectUrl)
  catch err =>
    let _ ← markFailed transaction.id (some (.str "Failed to initiate bank-gateway payment"))
    throw err

/-- The status of a Transaction, for the frontend's poller. -/
def getStatus (transactionId : String) : App (String × TransactionStatus × Option Millis) := do
  let transaction ← getById transactionId
  return (transaction.id, transaction.status, transaction.resolvedAt)

/-- `!transaction.providerReference`: unset, or the empty text. -/
def lacksReference (t : Transaction) : Bool :=
  match t.providerReference with
  | none => true
  | some ref => ref == ""

/-- The status half of `settle`. -/
def conclude (cfg : AppConfig) (outcome : WebhookOutcome) (transactionId : String) :
    App Unit :=
  match outcome.status with
  | .SUCCEEDED => do
      let _ ← SubscriptionsService.activateFromTransaction cfg transactionId
  | .FAILED => do
      let _ ← markFailed transactionId (outcome.failureReason.orElse (some (.str "Payment failed")))

/-- What a verified outcome does to a Transaction still `PENDING`. -/
def settle (cfg : AppConfig) (outcome : WebhookOutcome) (transaction : Transaction) :
    App Unit := do
  if lacksReference transaction then
    setProviderReference transaction.id outcome.providerReference
  conclude cfg outcome transaction.id

/-- A Transaction that has left `PENDING` makes the delivery a no-op. -/
def applyOutcome (cfg : AppConfig) (outcome : WebhookOutcome) : App Unit := do
  let transaction ← findForWebhook outcome.providerReference outcome.txRef
  match transaction with
  | none => return
  | some transaction =>
      if transaction.status != .PENDING then
        return
      settle cfg outcome transaction

def handleMpesaCallback (cfg : AppConfig) (request : RawWebhookRequest) : App Unit := do
  if !MpesaProvider.verify cfg request then
    return
  let outcome ← Prog.ofExcept (MpesaProvider.handleWebhook request)
  applyOutcome cfg outcome

def handleBankGatewayWebhook (cfg : AppConfig) (request : RawWebhookRequest) : App Unit := do
  if !BankGatewayProvider.verify cfg request then
    return
  let outcome ← Prog.ofExcept (BankGatewayProvider.handleWebhook request)
  applyOutcome cfg outcome

/-- The loop over the rows one tick selected. -/
def markStale : List Transaction → App Unit
  | [] => pure ()
  | transaction :: rest => do
      let _ ← markTimedOut transaction.id
      markStale rest

/-- One tick of `startTimeoutSweep`. -/
def timeoutSweep (cfg : AppConfig) : App Unit := do
  let instant ← now
  let cutoff := validDate (cfg.mpesa.stkTimeoutSeconds.map fun t => instant - t * 1000)
  let stale : List Transaction ← stmt (.transaction (.findStale cutoff))
  markStale stale

end PaymentsService

end StreamingService

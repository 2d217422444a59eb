import StreamingService.Payments.Provider

/-!
# Payments — Transactions

`TransactionsService`: every payment attempt is a row of `transactions`,
and only one `PENDING` row per user is meant to exist at a time.
-/

namespace StreamingService.TransactionsService

open Lib

def createPending (cfg : AppConfig) (userId : String) (method : PaymentMethod) :
    App Transaction := do
  let existingPending : Option Transaction ← stmt (.transaction (.findFirstPending userId))
  if existingPending.isSome then
    throw (.conflict "A payment is already pending for this user")
  -- nothing keeps another request from inserting between the two statements
  stmt (.transaction (.create userId method cfg.subscription.priceAmount))

def setProviderReference (transactionId : String) (providerReference : JsVal) : App Unit := do
  let _ ← stmt (.transaction (.setProviderReference transactionId providerReference))

def getById (transactionId : String) : App Transaction := do
  let transaction : Option Transaction ← stmt (.transaction (.findById (some (.str transactionId))))
  match transaction with
  | none => throw (.notFound "Transaction not found")
  | some transaction => return transaction

/-- First by `providerReference`, then by our own id when the provider
echoed one. -/
def findForWebhook (providerReference txRef : JsVal) : App (Option Transaction) := do
  let byReference : Option Transaction ←
    stmt (.transaction (.findByReference providerReference))
  match byReference with
  | some transaction => return some transaction
  | none =>
      if txRef.truthy then
        stmt (.transaction (.findById txRef))
      else
        return none

def markFailed (transactionId : String) (reason : JsVal) : App Transaction := do
  let resolvedAt ← now
  stmt (.transaction (.markFailed transactionId resolvedAt reason))

def markTimedOut (transactionId : String) : App Transaction := do
  -- by id alone, like `markFailed`: the row may have been settled since it was selected
  let resolvedAt ← now
  stmt (.transaction (.markTimedOut transactionId resolvedAt))

/-- An entry of the billing history. A date prints as its ISO text, which
denotes the instant kept here. -/
structure HistoryEntry where
  id : String
  method : PaymentMethod
  amount : Int
  status : TransactionStatus
  initiatedAt : Millis
  resolvedAt : Option Millis
  deriving DecidableEq, Repr

def listHistoryForUser (userId : String) : App (List HistoryEntry) := do
  let transactions : List Transaction ← stmt (.transaction (.findManyOfUser userId))
  return transactions.map fun t =>
    { id := t.id, method := t.method, amount := t.amount, status := t.status,
      initiatedAt := t.initiatedAt, resolvedAt := t.resolvedAt }

end StreamingService.TransactionsService

import StreamingService.Config
import StreamingService.Exec

/-!
# Payments — Provider

The two payment providers behind one interface: what each is asked to
charge, how each webhook is verified, and how its payload is read.
A payload is cast and never checked, so reading it may throw.

Left out: the providers' credentials and the `rawBody` of a webhook,
which neither `verify` nor `handleWebhook` reads.
-/

namespace StreamingService

open Lib

/-- One statement of the backend as a program. -/
def stmt (c : Cmd) : App c.Resp := Prog.perform (S := Sig) c

/-- `Date.now()` and `new Date()`. -/
def now : App Millis := stmt .now

/-- `v.name`, throwing a `TypeError` on `undefined` and `null`. -/
def prop (v : JsVal) (name : String) : Except Exception JsVal :=
  match v.member name with
  | none => .error .typeError
  | some x => .ok x

/-- `await response.json()`. -/
def HttpReply.json (r : HttpReply) : Except Exception JsVal :=
  match r.body with
  | none => .error (.error "SyntaxError")
  | some v => .ok (some v)

structure InitiatePaymentInput where
  transactionId : String
  amount : Option Rat
  currency : String
  userEmail : String
  phoneNumber : String

structure InitiatePaymentOutput where
  providerReference : JsVal
  redirectUrl : JsVal

inductive WebhookOutcomeStatus where
  | SUCCEEDED | FAILED
  deriving DecidableEq, Repr

structure WebhookOutcome where
  providerReference : JsVal
  status : WebhookOutcomeStatus
  failureReason : JsVal
  txRef : JsVal

/-- An HTTP request as Express hands it over: a header is `undefined`, a
text or a list of texts. -/
structure HttpRequest where
  headers : String → JsVal
  body : JsVal

structure RawWebhookRequest where
  headers : String → JsVal
  body : JsVal

/-- `{ ...req.headers, ...extraHeaders }`. -/
def toRawWebhookRequest (req : HttpRequest) (extraHeaders : List (String × JsVal)) :
    RawWebhookRequest where
  headers name := (extraHeaders.lookup name).getD (req.headers name)
  body := req.body

namespace MpesaProvider

def getAccessToken : App JsVal := do
  let response : HttpReply ← stmt (.service .darajaAccessToken)
  if !response.ok then
    throw (.error "Failed to obtain Daraja access token")
  let body ← Prog.ofExcept response.json
  Prog.ofExcept (prop body "access_token")

def initiate (cfg : AppConfig) (input : InitiatePaymentInput) : App InitiatePaymentOutput := do
  if input.phoneNumber == "" then
    throw (.error "phoneNumber is required for an M-Pesa payment")
  -- the token goes into the `Authorization` header and nowhere else
  let _ ← getAccessToken
  let response : HttpReply ← stmt (.service (.darajaStkPush
    { amount := input.amount.map mathRound
      phoneNumber := input.phoneNumber
      callBackUrl := cfg.mpesa.callbackUrl
      accountReference := input.transactionId }))
  if !response.ok then
    throw (.error "Failed to initiate M-Pesa payment")
  let body ← Prog.ofExcept response.json
  let checkoutRequestId ← Prog.ofExcept (prop body "CheckoutRequestID")
  return { providerReference := checkoutRequestId, redirectUrl := none }

def verify (cfg : AppConfig) (request : RawWebhookRequest) : Bool :=
  (request.headers "x-callback-token").eqString cfg.mpesa.callbackToken

def handleWebhook (request : RawWebhookRequest) : Except Exception WebhookOutcome := do
  let callback ← prop (← prop request.body "Body") "stkCallback"
  let resultCode ← prop callback "ResultCode"
  let providerReference ← prop callback "CheckoutRequestID"
  if resultCode.eqZero then
    return { providerReference, status := .SUCCEEDED, failureReason := none, txRef := none }
  return { providerReference, status := .FAILED,
           failureReason := ← prop callback "ResultDesc", txRef := none }

end MpesaProvider

namespace BankGatewayProvider

def initiate (cfg : AppConfig) (input : InitiatePaymentInput) : App InitiatePaymentOutput := do
  let response : HttpReply ← stmt (.service (.flutterwaveCheckout
    { txRef := input.transactionId
      amount := input.amount
      currency := input.currency
      redirectUrl := cfg.flutterwave.redirectUrl
      email := input.userEmail }))
  if !response.ok then
    throw (.error "Failed to initiate bank-gateway payment")
  let body ← Prog.ofExcept response.json
  let data ← Prog.ofExcept (prop body "data")
  let link ← Prog.ofExcept (prop data "link")
  return { providerReference := none, redirectUrl := link }

def verify (cfg : AppConfig) (request : RawWebhookRequest) : Bool :=
  (request.headers "verif-hash").eqString cfg.flutterwave.secretHash

def handleWebhook (request : RawWebhookRequest) : Except Exception WebhookOutcome := do
  let data ← prop request.body "data"
  let id ← prop data "id"
  let status ← prop data "status"
  let txRef ← prop data "tx_ref"
  let providerReference : JsVal := some (.str id.toText)
  if status.eqString "successful" then
    return { providerReference, status := .SUCCEEDED, failureReason := none, txRef }
  -- every other status, "pending" included, is a failure
  let processorResponse ← prop data "processor_response"
  return { providerReference, status := .FAILED,
           failureReason := processorResponse.orElse status, txRef }

end BankGatewayProvider

end StreamingService

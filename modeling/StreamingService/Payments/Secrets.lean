import StreamingService.Payments.Delivery

/-!
# Payments — Secrets

A webhook request that presents no secret. Verification compares what the
request presents with the configured value, the boot check does not ask for
either secret, and the factory fills a missing one with the empty text: so
the empty secret is accepted exactly where none was configured.
-/

namespace StreamingService

open Lib

/-- A webhook request without a secret: the `token` query parameter,
respectively the `verif-hash` header, is absent or empty. -/
def PresentsNoSecret : Request → Prop
  | .mpesaCallback _ token => token = none ∨ token = some (.str "")
  | .bankGatewayWebhook req =>
      req.headers "verif-hash" = none ∨ req.headers "verif-hash" = some (.str "")
  | _ => False

/-- Handling the request leaves both payment tables unchanged, whatever is
stored and whatever the environment answers. -/
def HasNoEffect (cfg : AppConfig) (q : Request) : Prop :=
  ∀ (os : Nat → Ambient) (s : Store),
    ((handle cfg q).runStore exec os s).transactions = s.transactions ∧
      ((handle cfg q).runStore exec os s).subscriptions = s.subscriptions

/-- The variable is set, and not to the empty text. -/
def IsSet (env : Env) (key : String) : Prop := (env key).getD "" ≠ ""

/-! ## With both secrets set -/

theorem mpesaVerify_noSecret {cfg : AppConfig} {req : HttpRequest} {token : JsVal}
    (h : PresentsNoSecret (.mpesaCallback req token)) :
    MpesaProvider.verify cfg
        (toRawWebhookRequest req [("x-callback-token", token.orElse (some (.str "")))]) =
      ("" == cfg.mpesa.callbackToken) := by
  rcases h with rfl | rfl <;> rfl

theorem bankGatewayVerify_noSecret {cfg : AppConfig} {req : HttpRequest}
    (h : PresentsNoSecret (.bankGatewayWebhook req)) (hset : cfg.flutterwave.secretHash ≠ "") :
    BankGatewayProvider.verify cfg (toRawWebhookRequest req []) = false := by
  have hheader : (toRawWebhookRequest req []).headers "verif-hash" = req.headers "verif-hash" := rfl
  unfold BankGatewayProvider.verify
  rw [hheader]
  rcases h with h | h
  · rw [h]
    rfl
  · rw [h]
    simpa [JsVal.eqString] using hset.symm

/-- With both secrets set, a request that presents none is not delivered. -/
theorem undelivered_of_noSecret {cfg : AppConfig} (hm : cfg.mpesa.callbackToken ≠ "")
    (hf : cfg.flutterwave.secretHash ≠ "") {q : Request} (h : PresentsNoSecret q) :
    delivered cfg q = none := by
  cases q with
  | mpesaCallback req token =>
      have hverify : MpesaProvider.verify cfg
          (toRawWebhookRequest req [("x-callback-token", token.orElse (some (.str "")))]) = false := by
        rw [mpesaVerify_noSecret h]
        simpa using hm.symm
      simp [delivered, hverify]
  | bankGatewayWebhook req => simp [delivered, bankGatewayVerify_noSecret h hf]
  | _ => rfl

theorem isDelivery_of_noSecret {q : Request} (h : PresentsNoSecret q) : q.isDelivery = true := by
  cases q <;> first | rfl | cases h

theorem hasNoEffect_of_undelivered {cfg : AppConfig} {q : Request} (hq : q.isDelivery = true)
    (h : delivered cfg q = none) : HasNoEffect cfg q := by
  obtain ⟨r, hr⟩ := handle_undelivered hq h
  intro os s
  rw [hr]
  exact ⟨rfl, rfl⟩

/-! ## With a secret missing -/

/-- One user with a `PENDING` payment. -/
def samplePayment : Store :=
  { Store.empty with
    users := ⟨[{ id := "user-1", email := "amina@example.com", passwordHash := "hash",
                 role := .USER }], by decide⟩
    transactions := ⟨[{ id := "tx-1", userId := "user-1", method := .MPESA, amount := 99900,
                        status := .PENDING, providerReference := some "ws-1", initiatedAt := 1000,
                        resolvedAt := none, failureReason := none }], by decide⟩ }

/-- A failure report for `ws-1`, without the `token` parameter. -/
def sampleSecretlessCallback : Request :=
  .mpesaCallback
    { headers := fun _ => none
      body := some (.obj [("Body", .obj [("stkCallback", .obj
        [("ResultCode", .num "1032"), ("CheckoutRequestID", .str "ws-1"),
          ("ResultDesc", .str "Cancelled")])])]) } none

/-- A failure report for `tx-1`, with an empty `verif-hash`. -/
def sampleSecretlessWebhook : Request :=
  .bankGatewayWebhook
    { headers := fun _ => some (.str "")
      body := some (.obj [("data", .obj [("id", .num "7"), ("status", .str "failed"),
        ("tx_ref", .str "tx-1")])]) }

/-- A failure does not depend on the configuration. -/
theorem applyOutcome_failed {outcome : WebhookOutcome} (h : outcome.status = .FAILED)
    (cfg cfg' : AppConfig) :
    PaymentsService.applyOutcome cfg outcome = PaymentsService.applyOutcome cfg' outcome := by
  have hconclude : ∀ id, PaymentsService.conclude cfg outcome id =
      PaymentsService.conclude cfg' outcome id := by
    intro id
    simp [PaymentsService.conclude, h]
  simp [PaymentsService.applyOutcome, PaymentsService.settle, hconclude]

/-- A delivered failure that settles `tx-1` has an effect. -/
theorem not_hasNoEffect {cfg : AppConfig} {q : Request} {outcome : WebhookOutcome}
    (hdel : delivered cfg q = some outcome) (hst : outcome.status = .FAILED)
    (hchange : ((PaymentsService.applyOutcome sampleConfig outcome >>= fun _ =>
      pure .ack : App Reply).runStore exec (fun _ => .quiet 2000) samplePayment).transactions ≠
        samplePayment.transactions) : ¬ HasNoEffect cfg q := by
  intro hno
  have hsame := (hno (fun _ => .quiet 2000) samplePayment).1
  rw [handle_delivered hdel, applyOutcome_failed hst cfg sampleConfig] at hsame
  exact hchange hsame

/-- The outcome the two sample requests carry. -/
def cancelled (ref : String) (reason txRef : JsVal) : WebhookOutcome where
  providerReference := some (.str ref)
  status := .FAILED
  failureReason := reason
  txRef := txRef

theorem callbackToken_of_noEffect {cfg : AppConfig}
    (h : HasNoEffect cfg sampleSecretlessCallback) : cfg.mpesa.callbackToken ≠ "" := by
  intro hempty
  have hdel : delivered cfg sampleSecretlessCallback =
      some (cancelled "ws-1" (some (.str "Cancelled")) none) := by
    simp only [sampleSecretlessCallback, delivered]
    rw [mpesaVerify_noSecret (.inl rfl), hempty]
    rfl
  exact not_hasNoEffect hdel rfl (by decide +kernel) h

theorem secretHash_of_noEffect {cfg : AppConfig}
    (h : HasNoEffect cfg sampleSecretlessWebhook) : cfg.flutterwave.secretHash ≠ "" := by
  intro hempty
  have hdel : delivered cfg sampleSecretlessWebhook =
      some (cancelled "7" (some (.str "failed")) (some (.str "tx-1"))) := by
    unfold sampleSecretlessWebhook delivered BankGatewayProvider.verify
    rw [hempty]
    rfl
  exact not_hasNoEffect hdel rfl (by decide +kernel) h

/-- **Without a secret, no effect** — exactly in the environments that set
both secrets. -/
theorem secretless_webhooks_have_no_effect_iff (env : Env) :
    (∀ q, PresentsNoSecret q → HasNoEffect (configuration env) q) ↔
      IsSet env "MPESA_CALLBACK_TOKEN" ∧ IsSet env "FLUTTERWAVE_SECRET_HASH" := by
  constructor
  · intro h
    exact ⟨callbackToken_of_noEffect (h _ (.inl rfl)), secretHash_of_noEffect (h _ (.inr rfl))⟩
  · rintro ⟨hm, hf⟩ q hq
    have hm : (configuration env).mpesa.callbackToken ≠ "" := hm
    have hnone : delivered (configuration env) q = none := undelivered_of_noSecret hm hf hq
    exact hasNoEffect_of_undelivered (isDelivery_of_noSecret hq) hnone

/-- The five variables the boot check asks for, and nothing else. -/
def bareEnv : Env := fun key => if key ∈ AppConfigModule.required then some "set" else none

/-- An environment the boot check accepts outside tests, in which a callback
without a token settles a payment. -/
theorem secretless_callback_has_effect :
    (∃ env, AppConfigModule.validate bareEnv = .ok env) ∧ bareEnv "NODE_ENV" ≠ some "test" ∧
      PresentsNoSecret sampleSecretlessCallback ∧
      ¬ HasNoEffect (configuration bareEnv) sampleSecretlessCallback := by
  refine ⟨⟨bareEnv, ?_⟩, by decide +kernel, .inl rfl, ?_⟩
  · have hnone : AppConfigModule.required.filter (AppConfigModule.isMissing bareEnv) = [] := by
      decide +kernel
    have hmode : (bareEnv "NODE_ENV" == some "test") = false := by decide +kernel
    simp [AppConfigModule.validate, hnone, hmode]
  · intro h
    exact callbackToken_of_noEffect h (by decide +kernel)

end StreamingService

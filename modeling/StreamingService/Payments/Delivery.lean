import StreamingService.Payments.Ledger

/-!
# Payments — Delivery

The path of one webhook delivery: which outcome it carries once verified,
how its handler looks the Transaction up, and what every later statement of
the handler owes to the earlier ones. The facts are about the handler's own
history, so they hold whatever runs beside it.
-/

namespace StreamingService

open Lib

/-! ## The outcome a delivery carries -/

/-- The outcome of a verified delivery; `none` when verification fails or
the payload cannot be read. -/
def delivered (cfg : AppConfig) : Request → Option WebhookOutcome
  | .mpesaCallback req token =>
      let raw := toRawWebhookRequest req [("x-callback-token", token.orElse (some (.str "")))]
      if MpesaProvider.verify cfg raw then (MpesaProvider.handleWebhook raw).toOption else none
  | .bankGatewayWebhook req =>
      let raw := toRawWebhookRequest req []
      if BankGatewayProvider.verify cfg raw then
        (BankGatewayProvider.handleWebhook raw).toOption
      else none
  | _ => none

/-- The row `findByReference` looks for. -/
def carries (t : Transaction) (providerReference : JsVal) : Bool :=
  t.providerReference.isSome && t.providerReference == providerReference.text?

def Request.isDelivery : Request → Bool
  | .mpesaCallback _ _ | .bankGatewayWebhook _ => true
  | _ => false

/-- Both webhook handlers, given what `verify` said and `handleWebhook` read. -/
def webhookHandler (cfg : AppConfig) (verified : Bool) (read : Except Exception WebhookOutcome) :
    App Reply :=
  if verified = true then
    match read with
    | .ok outcome => PaymentsService.applyOutcome cfg outcome >>= fun _ => pure .ack
    | .error e => .done (.error e)
  else .done (.ok .ack)

theorem handle_mpesaCallback (cfg : AppConfig) (req : HttpRequest) (token : JsVal) :
    handle cfg (.mpesaCallback req token) = webhookHandler cfg
      (MpesaProvider.verify cfg
        (toRawWebhookRequest req [("x-callback-token", token.orElse (some (.str "")))]))
      (MpesaProvider.handleWebhook
        (toRawWebhookRequest req [("x-callback-token", token.orElse (some (.str "")))])) := by
  simp only [handle, PaymentsController.mpesaCallback, PaymentsService.handleMpesaCallback]
  cases MpesaProvider.verify cfg _ with
  | false => rfl
  | true => cases MpesaProvider.handleWebhook _ <;> rfl

theorem handle_bankGatewayWebhook (cfg : AppConfig) (req : HttpRequest) :
    handle cfg (.bankGatewayWebhook req) = webhookHandler cfg
      (BankGatewayProvider.verify cfg (toRawWebhookRequest req []))
      (BankGatewayProvider.handleWebhook (toRawWebhookRequest req [])) := by
  simp only [handle, PaymentsController.bankGatewayWebhook,
    PaymentsService.handleBankGatewayWebhook]
  cases BankGatewayProvider.verify cfg _ with
  | false => rfl
  | true => cases BankGatewayProvider.handleWebhook _ <;> rfl

section

variable {cfg : AppConfig} {verified : Bool} {read : Except Exception WebhookOutcome}

theorem webhookHandler_some {outcome : WebhookOutcome}
    (h : (if verified = true then read.toOption else none) = some outcome) :
    webhookHandler cfg verified read =
      PaymentsService.applyOutcome cfg outcome >>= fun _ => pure .ack := by
  cases verified with
  | false => cases h
  | true =>
      cases read with
      | error e => cases h
      | ok outcome' =>
          cases h
          rfl

theorem webhookHandler_none (h : (if verified = true then read.toOption else none) = none) :
    ∃ r, webhookHandler cfg verified read = .done r := by
  cases verified with
  | false => exact ⟨.ok .ack, rfl⟩
  | true =>
      cases read with
      | error e => exact ⟨.error e, rfl⟩
      | ok outcome => cases h

end

/-- A verified delivery is handled by `applyOutcome`. -/
theorem handle_delivered {cfg : AppConfig} {q : Request} {outcome : WebhookOutcome}
    (h : delivered cfg q = some outcome) :
    handle cfg q = PaymentsService.applyOutcome cfg outcome >>= fun _ => pure .ack := by
  cases q with
  | mpesaCallback req token =>
      rw [handle_mpesaCallback]
      exact webhookHandler_some h
  | bankGatewayWebhook req =>
      rw [handle_bankGatewayWebhook]
      exact webhookHandler_some h
  | _ => cases h

/-- Any other delivery performs no statement at all. -/
theorem handle_undelivered {cfg : AppConfig} {q : Request} (hq : q.isDelivery = true)
    (h : delivered cfg q = none) : ∃ r, handle cfg q = .done r := by
  cases q with
  | mpesaCallback req token =>
      rw [handle_mpesaCallback]
      exact webhookHandler_none h
  | bankGatewayWebhook req =>
      rw [handle_bankGatewayWebhook]
      exact webhookHandler_none h
  | _ => cases hq

/-! ## The path of a handler -/

/-- The Transaction `findForWebhook` answered, read off a handler's history. -/
def Resolves (outcome : WebhookOutcome) (h : List (Prog.Entry Sig)) (t : Transaction) : Prop :=
  ⟨.transaction (.findByReference outcome.providerReference), .ok (some t)⟩ ∈ h ∨
    ⟨.transaction (.findByReference outcome.providerReference), .ok none⟩ ∈ h ∧
      ⟨.transaction (.findById outcome.txRef), .ok (some t)⟩ ∈ h

/-- A lookup that answered no Transaction. -/
def Unresolved (outcome : WebhookOutcome) (h : List (Prog.Entry Sig)) : Prop :=
  ⟨.transaction (.findByReference outcome.providerReference), .ok none⟩ ∈ h ∧
    (outcome.txRef.truthy = false ∨ ⟨.transaction (.findById outcome.txRef), .ok none⟩ ∈ h)

theorem Resolves.mono {outcome : WebhookOutcome} {h h' : List (Prog.Entry Sig)}
    {t : Transaction} (hsub : ∀ e ∈ h, e ∈ h') (hr : Resolves outcome h t) :
    Resolves outcome h' t := by
  rcases hr with hr | ⟨hr, hi⟩
  · exact .inl (hsub _ hr)
  · exact .inr ⟨hsub _ hr, hsub _ hi⟩

/-- The Transaction was shown by one of the handler's answers. -/
theorem Resolves.shown {outcome : WebhookOutcome} {h : List (Prog.Entry Sig)} {t : Transaction}
    (hr : Resolves outcome h t) : ∃ e ∈ h, shown e = some t := by
  rcases hr with hr | ⟨-, hi⟩
  · exact ⟨_, hr, rfl⟩
  · exact ⟨_, hi, rfl⟩

theorem Resolves.cons {outcome : WebhookOutcome} {h : List (Prog.Entry Sig)} {t : Transaction}
    (hr : Resolves outcome h t) (e : Prog.Entry Sig) : Resolves outcome (e :: h) t :=
  hr.mono fun _ => List.mem_cons_of_mem e

/-- The handler has resolved the delivery to a Transaction with this id that
was `PENDING` when it was read. -/
def ResolvesPending (outcome : WebhookOutcome) (h : List (Prog.Entry Sig)) (id : String) : Prop :=
  ∃ t, Resolves outcome h t ∧ t.id = id ∧ t.status = .PENDING

theorem ResolvesPending.cons {outcome : WebhookOutcome} {h : List (Prog.Entry Sig)} {id : String}
    (hr : ResolvesPending outcome h id) (e : Prog.Entry Sig) :
    ResolvesPending outcome (e :: h) id := by
  obtain ⟨t, ht, hid, hst⟩ := hr
  exact ⟨t, ht.cons e, hid, hst⟩

/-- The clock reading a history ends with. -/
def lastReading : List (Prog.Entry Sig) → Option Millis
  | ⟨.now, .ok instant⟩ :: _ => some instant
  | _ => none

/-- What an activation's commit owes to the statements before it. -/
structure ActivationPath (cfg : AppConfig) (outcome : WebhookOutcome)
    (h : List (Prog.Entry Sig)) (id userId : String) (startAt : Millis)
    (expiresAt : Option Millis) : Prop where
  succeeded : outcome.status = .SUCCEEDED
  resolved : ResolvesPending outcome h id
  owner : ∃ t, ⟨.subscription (.readForActivation id), .ok (some (t, none))⟩ ∈ h ∧
    userId = t.userId
  clock : lastReading h = some startAt
  period : expiresAt = validDate (cfg.subscription.periodMillis.map fun p => startAt + p)

/-- What each statement of a delivery's handler owes to the ones before it. -/
def DeliveryStep (cfg : AppConfig) (outcome : WebhookOutcome) (h : List (Prog.Entry Sig))
    (e : Prog.Entry Sig) : Prop :=
  match e.1 with
  | .now => True
  | .transaction (.findByReference ref) => ref = outcome.providerReference
  | .transaction (.findById id) => id = outcome.txRef
  | .transaction (.setProviderReference id ref) =>
      ref = outcome.providerReference ∧ ResolvesPending outcome h id
  | .transaction (.markFailed id _ _) =>
      outcome.status = .FAILED ∧ ResolvesPending outcome h id
  | .subscription (.readForActivation id) =>
      outcome.status = .SUCCEEDED ∧ ResolvesPending outcome h id
  | .subscription (.commitActivation id userId _ startAt expiresAt) =>
      ActivationPath cfg outcome h id userId startAt expiresAt
  | _ => False

/-- The ways a delivery's handler can end. -/
inductive DeliveryEnd (outcome : WebhookOutcome) (h : List (Prog.Entry Sig)) : Prop
  | unresolved (hr : Unresolved outcome h)
  | ignored (t : Transaction) (hr : Resolves outcome h t) (hst : t.status ≠ .PENDING)
  | failed (hst : outcome.status = .FAILED)
  | missing (id : String) (hmem : ⟨.subscription (.readForActivation id), .ok none⟩ ∈ h)
  | present (t : Transaction) (x : Subscription) (id : String) (hr : ResolvesPending outcome h id)
      (hmem : ⟨.subscription (.readForActivation id), .ok (some (t, some x))⟩ ∈ h)
  | activated (id userId : String) (resolvedAt startAt : Millis) (expiresAt : Option Millis)
      (row : Subscription) (hr : ResolvesPending outcome h id)
      (hmem : ⟨.subscription (.commitActivation id userId resolvedAt startAt expiresAt),
        .ok row⟩ ∈ h)
  | threw (c : Cmd) (e : Exception) (hmem : ⟨c, .error e⟩ ∈ h)

section

variable {cfg : AppConfig} {outcome : WebhookOutcome} {h : List (Prog.Entry Sig)}

/-- What the lookup answers, under any condition its two statements meet. -/
theorem findForWebhook_emits {P : List (Prog.Entry Sig) → Prog.Entry Sig → Prop}
    (href : ∀ h r, P h ⟨.transaction (.findByReference outcome.providerReference), r⟩)
    (hid : ∀ h r, P h ⟨.transaction (.findById outcome.txRef), r⟩) :
    (TransactionsService.findForWebhook outcome.providerReference outcome.txRef).Emits P
      (fun r h => match r with
        | .ok none => Unresolved outcome h
        | .ok (some t) => Resolves outcome h t
        | .error _ => DeliveryEnd outcome h) h := by
  refine .perform_bind (fun byReference => ⟨href _ _, ?_⟩)
    fun e => ⟨href _ _, .threw _ e List.mem_cons_self⟩
  cases byReference with
  | some t => exact .inl List.mem_cons_self
  | none =>
      refine .ite (fun _ r => ⟨hid _ _, ?_⟩)
        fun hfalsy => ⟨List.mem_cons_self, .inl (by simpa using hfalsy)⟩
      have hnone : (⟨.transaction (.findByReference outcome.providerReference), .ok none⟩ :
          Prog.Entry Sig) ∈ (⟨.transaction (.findById outcome.txRef), r⟩ :: ⟨.transaction
          (.findByReference outcome.providerReference), .ok none⟩ :: h : List (Prog.Entry Sig)) :=
        List.mem_cons_of_mem _ List.mem_cons_self
      match r with
      | .error e => exact .threw _ e List.mem_cons_self
      | .ok none => exact ⟨hnone, .inr List.mem_cons_self⟩
      | .ok (some t) => exact .inr ⟨hnone, List.mem_cons_self⟩

theorem activateFromTransaction_emits {id : String} (hst : outcome.status = .SUCCEEDED)
    (hr : ResolvesPending outcome h id) :
    (SubscriptionsService.activateFromTransaction cfg id).Emits (DeliveryStep cfg outcome)
      (fun _ h => DeliveryEnd outcome h) h := by
  refine .perform_bind (fun found => ⟨⟨hst, hr⟩, ?_⟩)
    fun e => ⟨⟨hst, hr⟩, .threw _ e List.mem_cons_self⟩
  match found with
  | none => exact .missing id List.mem_cons_self
  | some (t, some x) => exact .present t x id (hr.cons _) List.mem_cons_self
  | some (t, none) =>
      refine .perform_bind (fun resolvedAt => ⟨trivial, ?_⟩)
        fun e => ⟨trivial, .threw _ e List.mem_cons_self⟩
      refine .perform_bind (fun startAt => ⟨trivial, ?_⟩)
        fun e => ⟨trivial, .threw _ e List.mem_cons_self⟩
      -- the commit: its arguments come from the row the transaction read
      intro r
      have hr' := ((hr.cons ⟨.subscription (.readForActivation id), .ok (some (t, none))⟩).cons
        ⟨.now, .ok resolvedAt⟩).cons ⟨.now, .ok startAt⟩
      refine ⟨⟨hst, hr', ⟨t, by simp, rfl⟩, rfl, rfl⟩, ?_⟩
      cases r with
      | error e => exact .threw _ e List.mem_cons_self
      | ok row => exact .activated id _ _ _ _ row (hr'.cons _) List.mem_cons_self

theorem conclude_emits {id : String} (hr : ResolvesPending outcome h id) :
    (PaymentsService.conclude cfg outcome id).Emits (DeliveryStep cfg outcome)
      (fun _ h => DeliveryEnd outcome h) h := by
  cases hst : outcome.status with
  | SUCCEEDED =>
      simp only [PaymentsService.conclude, hst]
      exact .bind (activateFromTransaction_emits hst hr) (fun _ _ hend => hend)
        fun _ _ hend => hend
  | FAILED =>
      simp only [PaymentsService.conclude, hst]
      refine .bind (Q := fun _ h => DeliveryEnd outcome h) ?_ (fun _ _ hend => hend)
        fun _ _ hend => hend
      exact .perform_bind
        (fun resolvedAt => ⟨trivial, fun r => ⟨⟨hst, hr.cons _⟩, .failed hst⟩⟩)
        fun e => ⟨trivial, .failed hst⟩

theorem settle_emits {t : Transaction} (hr : ResolvesPending outcome h t.id) :
    (PaymentsService.settle cfg outcome t).Emits (DeliveryStep cfg outcome)
      (fun _ h => DeliveryEnd outcome h) h := by
  refine .ite (fun _ => ?_) fun _ => conclude_emits hr
  refine .bind (Q := fun r h => match r with
    | .ok _ => ResolvesPending outcome h t.id
    | .error _ => DeliveryEnd outcome h) ?_ (fun _ _ hr' => conclude_emits hr') fun _ _ hend => hend
  refine .perform_bind (fun _ => ⟨⟨rfl, hr⟩, hr.cons _⟩) ?_
  intro e
  exact ⟨⟨rfl, hr⟩, .threw _ e List.mem_cons_self⟩

theorem applyOutcome_emits :
    (PaymentsService.applyOutcome cfg outcome).Emits (DeliveryStep cfg outcome)
      (fun _ h => DeliveryEnd outcome h) h := by
  refine .bind (findForWebhook_emits (fun _ _ => rfl) fun _ _ => rfl) ?_ fun e h' hq => hq
  intro found h' hq
  cases found with
  | none => exact .unresolved hq
  | some t =>
      refine .ite (fun hst => .ignored t hq (by simpa using hst)) ?_
      intro hst
      exact settle_emits ⟨t, hq, rfl, by simpa using hst⟩

end

/-- What a statement of a request's handler owes to the ones before it. -/
structure HandlerStep (cfg : AppConfig) (q : Request) (h : List (Prog.Entry Sig))
    (e : Prog.Entry Sig) : Prop where
  within : Within q.footprint e.1
  delivery : q.isDelivery = true → ∃ outcome, delivered cfg q = some outcome ∧
    DeliveryStep cfg outcome h e

/-- How a request's handler ends. -/
def HandlerEnd (cfg : AppConfig) (q : Request) (_ : Except Exception Reply)
    (h : List (Prog.Entry Sig)) : Prop :=
  ∀ outcome, delivered cfg q = some outcome → DeliveryEnd outcome h

/-- **The path of every request**: each statement of its handler, and its
end, against the handler's own history. -/
theorem handle_emits (cfg : AppConfig) (q : Request) :
    (handle cfg q).Emits (HandlerStep cfg q) (HandlerEnd cfg q) [] := by
  have pack : ∀ {Q : Except Exception Reply → List (Prog.Entry Sig) → Prop},
      (handle cfg q).Emits (fun h e => q.isDelivery = true → ∃ outcome,
        delivered cfg q = some outcome ∧ DeliveryStep cfg outcome h e) Q [] →
      (handle cfg q).Emits (HandlerStep cfg q) Q [] := fun hp =>
    (hp.within (handle_calls cfg q)).mono (fun _ _ hstep => ⟨hstep.1, hstep.2⟩) fun _ _ hq => hq
  cases hd : delivered cfg q with
  | some outcome =>
      apply pack
      rw [handle_delivered hd]
      have hemits : (PaymentsService.applyOutcome cfg outcome).Emits (DeliveryStep cfg outcome)
          (fun _ h => DeliveryEnd outcome h) [] := applyOutcome_emits
      refine .bind (hemits.mono (fun h e hstep _ => ⟨outcome, hd, hstep⟩) fun _ _ hend => hend)
        ?_ ?_
      · intro _ h' hend o ho
        rw [hd] at ho
        cases ho
        exact hend
      · intro _ h' hend o ho
        rw [hd] at ho
        cases ho
        exact hend
  | none =>
      have hend : ∀ r h, HandlerEnd cfg q r h := by
        intro r h outcome ho
        rw [hd] at ho
        cases ho
      by_cases hq : q.isDelivery = true
      · obtain ⟨r, hr⟩ := handle_undelivered hq hd
        rw [hr]
        exact hend r []
      · apply pack
        exact .of_calls (handle_calls cfg q) (fun _ _ _ hdel => absurd hdel hq) hend

/-- Only a delivery activates. -/
theorem isDelivery_of_commit {q : Request} {id userId : String} {resolvedAt startAt : Millis}
    {expiresAt : Option Millis}
    (h : Within q.footprint
      (.subscription (.commitActivation id userId resolvedAt startAt expiresAt))) :
    q.isDelivery = true := by
  cases q <;> first | rfl | cases h

end StreamingService

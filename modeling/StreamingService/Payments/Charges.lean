import StreamingService.Auth.Accounts
import StreamingService.Payments.Amounts
import StreamingService.Payments.Msisdn

/-!
# Payments — Charges

What the providers are asked for. A charge goes out for a payment that is
recorded already, of the user who asked for it, under the payment's own id
and to the number or email that came with the request; and for no payment
does a second charge go out, however the initiations interleave.
-/

namespace StreamingService

open Lib

/-! ## The charges -/

/-- The payment a statement asks a provider to charge. -/
def Cmd.charges : Cmd → Option String
  | .service (.darajaStkPush push) => some push.accountReference
  | .service (.flutterwaveCheckout checkout) => some checkout.txRef
  | _ => none

def mpesaCharge (cfg : AppConfig) (phoneNumber : String) (t : Transaction) : Cmd :=
  .service (.darajaStkPush
    { amount := cfg.subscription.priceAmount.map mathRound
      phoneNumber
      callBackUrl := cfg.mpesa.callbackUrl
      accountReference := t.id })

def bankGatewayCharge (cfg : AppConfig) (email : String) (t : Transaction) : Cmd :=
  .service (.flutterwaveCheckout
    { txRef := t.id
      amount := cfg.subscription.priceAmount
      currency := cfg.subscription.currency
      redirectUrl := cfg.flutterwave.redirectUrl
      email })

/-- What an initiation asks its provider for a payment. -/
def Request.charge (cfg : AppConfig) (t : Transaction) : Request → Option Cmd
  | .initiateMpesa (some _) phoneNumber => some (mpesaCharge cfg (normalizeMsisdn phoneNumber) t)
  | .initiateBankGateway (some user) => some (bankGatewayCharge cfg user.email t)
  | _ => none

/-- The number that comes with a request. -/
def Request.phoneNumber : Request → Option String
  | .initiateMpesa _ phoneNumber => some phoneNumber
  | _ => none

/-- Every number has passed its check. -/
def validated (_ : AppState) : Action Ambient Request → Prop
  | .begin q => ∀ phoneNumber ∈ q.phoneNumber, MpesaInitiateDto.accepts phoneNumber = true
  | .step _ _ => True

instance (sys : AppState) : (act : Action Ambient Request) → Decidable (validated sys act)
  | .begin q => inferInstanceAs (Decidable
      (∀ phoneNumber ∈ q.phoneNumber, MpesaInitiateDto.accepts phoneNumber = true))
  | .step _ _ => isTrue trivial

/-! ## The path of the handlers -/

/-- What a charge owes to its request and to the statements before it: the
payment has been inserted, and nothing has been charged. -/
def BillStep (cfg : AppConfig) (q : Request) (h : List (Prog.Entry Sig)) (e : Prog.Entry Sig) :
    Prop :=
  ∀ id ∈ e.1.charges, (∀ e' ∈ h, e'.1.charges = none) ∧ ∃ userId method t,
    q.initiates = some (userId, method) ∧
      inserted userId method cfg.subscription.priceAmount t ∈ h ∧ q.charge cfg t = some e.1

section

variable {cfg : AppConfig} {q : Request} {h : List (Prog.Entry Sig)}

theorem BillStep.of_quiet {e : Prog.Entry Sig} (hquiet : e.1.charges = none) :
    BillStep cfg q h e := by
  intro id hid
  rw [hquiet] at hid
  cases hid

/-- The statements of a part that charges nothing. -/
theorem bills_nothing {α : Type} {p : App α} (hp : p.Calls fun c : Cmd => c.charges = none)
    {Q : Except Exception α → List (Prog.Entry Sig) → Prop} (hQ : ∀ r h', Q r h') :
    p.Emits (BillStep cfg q) Q h :=
  .of_calls hp (fun _ _ hc => .of_quiet hc) hQ

/-- Nothing charged so far, and the payment inserted. -/
structure Billable (cfg : AppConfig) (userId : String) (method : PaymentMethod)
    (h : List (Prog.Entry Sig)) (t : Transaction) : Prop where
  quiet : ∀ e ∈ h, e.1.charges = none
  inserted : inserted userId method cfg.subscription.priceAmount t ∈ h

theorem createPending_bills (userId : String) (method : PaymentMethod) :
    (TransactionsService.createPending cfg userId method).Emits (BillStep cfg q)
      (fun r h => ∀ t, r = .ok t → Billable cfg userId method h t) [] := by
  refine .perform_bind (fun existing => ⟨.of_quiet rfl, ?_⟩)
    fun e => ⟨.of_quiet rfl, fun _ hr => by cases hr⟩
  refine .ite (fun _ t ht => ?_) fun _ r => ⟨.of_quiet rfl, ?_⟩
  · cases ht
  · rintro t rfl
    refine ⟨fun e he => ?_, List.mem_cons_self⟩
    rcases List.mem_cons.mp he with rfl | he
    · rfl
    · rw [List.mem_singleton.mp he]
      rfl

theorem getAccessToken_bills {userId : String} {method : PaymentMethod} {t : Transaction}
    (hbill : Billable cfg userId method h t) : MpesaProvider.getAccessToken.Emits (BillStep cfg q)
      (fun _ h' => Billable cfg userId method h' t) h := by
  have later : ∀ r, Billable cfg userId method
      ((⟨.service .darajaAccessToken, r⟩ : Prog.Entry Sig) :: h) t := by
    refine fun r => ⟨fun e he => ?_, List.mem_cons_of_mem _ hbill.inserted⟩
    rcases List.mem_cons.mp he with rfl | he
    · rfl
    · exact hbill.quiet e he
  refine .perform_bind (fun response => ⟨.of_quiet rfl, ?_⟩) fun e => ⟨.of_quiet rfl, later _⟩
  refine .ite (fun _ => later _) fun _ => ?_
  refine .ofExcept_bind (fun body _ => ?_) fun _ _ => later _
  cases prop body "access_token" <;> exact later _

/-- The push charges the payment; what follows charges nothing. -/
theorem mpesaProvider_bills {input : InitiatePaymentInput} {userId : String} {t : Transaction}
    (hbill : Billable cfg userId .MPESA h t) (hq : q.initiates = some (userId, .MPESA))
    (hcharge : q.charge cfg t = some (.service (.darajaStkPush
      { amount := input.amount.map mathRound
        phoneNumber := input.phoneNumber
        callBackUrl := cfg.mpesa.callbackUrl
        accountReference := input.transactionId }))) :
    (MpesaProvider.initiate cfg input).Emits (BillStep cfg q) (fun _ _ => True) h := by
  refine .ite (fun _ => trivial) fun _ => ?_
  refine .bind (getAccessToken_bills hbill) (fun _ h hbill => ?_) fun _ _ _ => trivial
  have bills : ∀ r, BillStep cfg q h ⟨.service (.darajaStkPush
      { amount := input.amount.map mathRound
        phoneNumber := input.phoneNumber
        callBackUrl := cfg.mpesa.callbackUrl
        accountReference := input.transactionId }), r⟩ :=
    fun r id _ => ⟨hbill.quiet, userId, .MPESA, t, hq, hbill.inserted, hcharge⟩
  refine .perform_bind (fun response => ⟨bills _, ?_⟩) fun e => ⟨bills _, trivial⟩
  refine .ite (fun _ => trivial) fun _ => ?_
  exact .ofExcept_bind (fun body _ => .ofExcept_bind (fun _ _ => trivial) fun _ _ => trivial)
    fun _ _ => trivial

theorem bankGatewayProvider_bills {input : InitiatePaymentInput} {userId : String} {t : Transaction}
    (hbill : Billable cfg userId .BANK_GATEWAY h t)
    (hq : q.initiates = some (userId, .BANK_GATEWAY))
    (hcharge : q.charge cfg t = some (.service (.flutterwaveCheckout
      { txRef := input.transactionId
        amount := input.amount
        currency := input.currency
        redirectUrl := cfg.flutterwave.redirectUrl
        email := input.userEmail }))) :
    (BankGatewayProvider.initiate cfg input).Emits (BillStep cfg q) (fun _ _ => True) h := by
  have bills : ∀ r, BillStep cfg q h ⟨.service (.flutterwaveCheckout
      { txRef := input.transactionId
        amount := input.amount
        currency := input.currency
        redirectUrl := cfg.flutterwave.redirectUrl
        email := input.userEmail }), r⟩ :=
    fun r id _ => ⟨hbill.quiet, userId, .BANK_GATEWAY, t, hq, hbill.inserted, hcharge⟩
  refine .perform_bind (fun response => ⟨bills _, ?_⟩) fun e => ⟨bills _, trivial⟩
  refine .ite (fun _ => trivial) fun _ => ?_
  refine .ofExcept_bind (fun body _ => ?_) fun _ _ => trivial
  exact .ofExcept_bind (fun data _ => .ofExcept_bind (fun _ _ => trivial) fun _ _ => trivial)
    fun _ _ => trivial

theorem markFailed_bills (id : String) (reason : JsVal) :
    (TransactionsService.markFailed id reason).Calls fun c : Cmd => c.charges = none :=
  .perform_bind rfl fun _ => ⟨rfl, fun _ => trivial⟩

open PaymentsService in
theorem initiateMpesa_bills (cfg : AppConfig) (user : JwtAccessPayload) (phoneNumber : String) :
    (initiateMpesa cfg user.sub user.email phoneNumber).Emits
      (BillStep cfg (.initiateMpesa (some user) phoneNumber)) (fun _ _ => True) [] := by
  refine .bind (createPending_bills user.sub .MPESA) (fun t h hbill => ?_) fun _ _ _ => trivial
  refine .bind (Q := fun _ _ => True) (.catchErr (Q := fun _ _ => True) ?_ (fun _ _ _ => trivial)
    fun e h _ => ?_) (fun _ _ _ => trivial) fun _ _ _ => trivial
  · refine .bind (mpesaProvider_bills (hbill t rfl) rfl rfl) (fun result h _ => ?_)
      fun _ _ _ => trivial
    refine .ite (fun _ => ?_) fun _ => trivial
    refine bills_nothing ?_ fun _ _ => trivial
    exact .perform_bind rfl fun _ => trivial
  · refine bills_nothing ?_ fun _ _ => trivial
    exact .bind (markFailed_bills _ _) fun _ => trivial

open PaymentsService in
theorem initiateBankGateway_bills (cfg : AppConfig) (user : JwtAccessPayload) :
    (initiateBankGateway cfg user.sub user.email).Emits
      (BillStep cfg (.initiateBankGateway (some user))) (fun _ _ => True) [] := by
  refine .bind (createPending_bills user.sub .BANK_GATEWAY) (fun t h hbill => ?_)
    fun _ _ _ => trivial
  refine .catchErr (Q := fun _ _ => True) ?_ (fun _ _ _ => trivial) fun e h _ => ?_
  · exact .bind (bankGatewayProvider_bills (hbill t rfl) rfl rfl) (fun _ _ _ => trivial)
      fun _ _ _ => trivial
  · refine bills_nothing ?_ fun _ _ => trivial
    exact .bind (markFailed_bills _ _) fun _ => trivial

end

/-- **The path of every request** to a charge. -/
theorem bill_steps (cfg : AppConfig) (q : Request) :
    (handle cfg q).Emits (BillStep cfg q) (fun _ _ => True) [] := by
  have other (hq : ∀ c : Cmd, Reaches q c → c.charges = none) :
      (handle cfg q).Emits (BillStep cfg q) (fun _ _ => True) [] :=
    .of_calls (handle_reaches cfg q) (fun _ _ hc => .of_quiet (hq _ hc)) fun _ _ => trivial
  cases q with
  | initiateMpesa user phoneNumber =>
      cases user with
      | none => trivial
      | some user =>
          exact emits_guard (.bind (initiateMpesa_bills cfg user phoneNumber)
            (fun _ _ _ => trivial) fun _ _ _ => trivial)
  | initiateBankGateway user =>
      cases user with
      | none => trivial
      | some user =>
          exact emits_guard (.bind (initiateBankGateway_bills cfg user)
            (fun _ _ _ => trivial) fun _ _ _ => trivial)
  | _ =>
      refine other fun c hc => ?_
      unfold Cmd.charges
      split
      all_goals first
        | rfl
        | cases hc
        | cases (Bool.and_eq_true_iff.mp hc).2

/-! ## Over a run -/

section

variable {cfg : AppConfig} {ok : AppState → Action Ambient Request → Prop} {s : Store} {b : AppState}

/-- A payment that is inserted is no earlier one. -/
theorem inserted_fresh (hr : (app cfg).Run ok (Machine.start s) b) {post pre : Trace}
    {tid tid' : Nat} {userId userId' : String} {method method' : PaymentMethod}
    {amount amount' : Option Rat} {t t' : Transaction}
    (htr : b.trace = post ++ .did tid (inserted userId method amount t) :: pre)
    (hpast : Event.did tid' (inserted userId' method' amount' t') ∈ pre) : t'.id ≠ t.id := by
  obtain ⟨a, o, c, a', ha, rfl, -, -, he, -⟩ := hr.cut htr
  obtain ⟨-, -, x, hx, hsame⟩ := insertKept_run ha tid' _ hpast userId' method' amount' t' rfl
  have hstep := exec_ledger o c a.store
  rw [show (⟨c, (exec o c a.store).1⟩ : Prog.Entry Sig) = _ from he.symm] at hstep
  intro hid
  cases hstep with
  | quiet hquiet _ _ => cases hquiet
  | create _ _ hts _ =>
      -- the row that is there holds the id
      have hclash := Table.insert?_fresh hts hx
      simp [Indexed.clash, hsame.id, hid] at hclash

/-- The thread of an inserted payment is known by its id. -/
theorem inserted_thread (hr : (app cfg).Run ok (Machine.start s) b) {tid tid' : Nat}
    {userId userId' : String} {method method' : PaymentMethod} {amount amount' : Option Rat}
    {t t' : Transaction} (h : Event.did tid (inserted userId method amount t) ∈ b.trace)
    (h' : Event.did tid' (inserted userId' method' amount' t') ∈ b.trace) (hid : t.id = t'.id) :
    tid = tid' := by
  obtain ⟨post, pre, htr⟩ := List.append_of_mem h
  rcases mem_split (htr ▸ h') with ⟨p₁, p₂, rfl⟩ | heq | hpre
  · rw [List.append_assoc, List.cons_append] at htr
    exact absurd hid (inserted_fresh hr htr (List.mem_append_right _ List.mem_cons_self))
  · cases heq
    rfl
  · exact absurd hid.symm (inserted_fresh hr htr hpre)

/-- A charge names the payment it is for. -/
theorem charge_id {q : Request} {t : Transaction} {c : Cmd} (h : q.charge cfg t = some c) :
    c.charges = some t.id := by
  unfold Request.charge at h
  split at h
  · cases h
    rfl
  · cases h
    rfl
  · cases h

/-- The insert behind a charge, earlier in the same thread. -/
theorem inserted_of_charge {h : List (Prog.Entry Sig)} {q : Request} {e : Prog.Entry Sig} {id : String}
    (hstep : BillStep cfg q h e) (hid : e.1.charges = some id) :
    (∀ e' ∈ h, e'.1.charges = none) ∧ ∃ userId method t, q.initiates = some (userId, method) ∧
      inserted userId method cfg.subscription.priceAmount t ∈ h ∧ q.charge cfg t = some e.1 ∧
      t.id = id := by
  obtain ⟨hquiet, userId, method, t, hq, hins, hcharge⟩ := hstep id hid
  rw [charge_id hcharge] at hid
  exact ⟨hquiet, userId, method, t, hq, hins, hcharge, Option.some.inj hid⟩

/-- The payment an event asks a provider to charge. -/
def chargeOfEvent : Event Sig Request → Option String
  | .began _ _ => none
  | .did _ e => e.1.charges

/-- **No payment is charged twice.** -/
theorem charges_nodup (hr : (app cfg).Run ok (Machine.start s) b) :
    (b.trace.filterMap chargeOfEvent).Nodup := by
  have hrec := Machine.Run.emits (bill_steps cfg) hr
  refine Always.nodup _ ?_ (hrec.past.along (List.suffix_refl _))
  rintro ev pre ⟨hJ, hsuffix⟩ id hkey ev' hev' hkey'
  cases ev with
  | began _ _ => cases hkey
  | did tid e =>
      cases ev' with
      | began _ _ => cases hkey'
      | did tid' e' =>
          obtain ⟨q, -, hstep⟩ := hJ
          obtain ⟨hquiet, userId, method, t, -, hins, -, hid⟩ := inserted_of_charge hstep hkey
          have hpast : ∀ {ev : Event Sig Request}, ev ∈ pre → ev ∈ b.trace := fun hmem =>
            hsuffix.subset (List.mem_cons_of_mem _ hmem)
          -- the other charge has an insert of its own
          obtain ⟨q', hq'⟩ := hrec.did_began (hpast hev')
          obtain ⟨post', pre', htr'⟩ := List.append_of_mem (hpast hev')
          obtain ⟨-, userId', method', t', -, hins', -, hid'⟩ :=
            inserted_of_charge (hrec.at_split hq' htr') hkey'
          have hdid' : Event.did tid' (inserted userId' method' cfg.subscription.priceAmount t') ∈
              b.trace := by
            rw [htr']
            exact List.mem_append_right _ (List.mem_cons_of_mem _ (mem_own.mp hins'))
          have htid := inserted_thread hr (hpast (mem_own.mp hins)) hdid' (hid.trans hid'.symm)
          have hnone := hquiet e' (mem_own.mpr (htid ▸ hev'))
          have hsome : e'.1.charges = some id := hkey'
          rw [hnone] at hsome
          cases hsome

end

/-- Every number of a run of such requests has passed its check. -/
theorem validated_began {cfg : AppConfig} {s : Store} {b : AppState}
    (hr : (app cfg).Run validated (Machine.start s) b) {tid : Nat} {q : Request}
    (hq : Event.began tid q ∈ b.trace) :
    ∀ phoneNumber ∈ q.phoneNumber, MpesaInitiateDto.accepts phoneNumber = true :=
  Machine.Run.began_of_ok
    (J := fun q => ∀ phoneNumber ∈ q.phoneNumber, MpesaInitiateDto.accepts phoneNumber = true)
    (fun _ _ hok => hok) hr hq

/-- **A charge in full**: for a payment of the user who asked for it, by the method,
of the price and to the recipient of the request. -/
inductive ChargeOf (cfg : AppConfig) (t : Transaction) : Request → Cmd → Prop
  | mpesa {user : JwtAccessPayload} {phoneNumber : String} {n : Subscriber}
      (huser : t.userId = user.sub) (hmethod : t.method = .MPESA) (hn : n.Spells phoneNumber) :
      ChargeOf cfg t (.initiateMpesa (some user) phoneNumber) (mpesaCharge cfg n.international t)
  | bankGateway {user : JwtAccessPayload} (huser : t.userId = user.sub)
      (hmethod : t.method = .BANK_GATEWAY) :
      ChargeOf cfg t (.initiateBankGateway (some user)) (bankGatewayCharge cfg user.email t)

/-- **Charges are accounted for**: in every run every charge is the one of a
recorded payment, for the request of its user, and no payment is charged
twice. -/
theorem charges_are_accounted {cfg : AppConfig} {s : Store} {b : AppState}
    (hr : (app cfg).Run validated (Machine.start s) b) :
    (∀ (tid : Nat) (e : Prog.Entry Sig) id, Event.did tid e ∈ b.trace → e.1.charges = some id →
      ∃ q, Event.began tid q ∈ b.trace ∧ ∃ t ∈ b.store.transactions,
        t.id = id ∧ ChargeOf cfg t q e.1) ∧
    (b.trace.filterMap chargeOfEvent).Nodup := by
  refine ⟨fun tid e id he hid => ?_, charges_nodup hr⟩
  have hrec := Machine.Run.emits (bill_steps cfg) hr
  obtain ⟨q, hq⟩ := hrec.did_began he
  obtain ⟨post, pre, htr⟩ := List.append_of_mem he
  obtain ⟨-, userId, method, t, hinit, hins, hcharge, rfl⟩ :=
    inserted_of_charge (hrec.at_split hq htr) hid
  have hdid : Event.did tid (inserted userId method cfg.subscription.priceAmount t) ∈ b.trace := by
    rw [htr]
    exact List.mem_append_right _ (List.mem_cons_of_mem _ (mem_own.mp hins))
  obtain ⟨hmethod, -, t', ht', hsame⟩ := insertKept_run hr tid _ hdid userId method _ t rfl
  have huser : t'.userId = userId := hsame.userId.trans (inserted_userId hr hdid)
  refine ⟨q, hq, t', ht', hsame.id, ?_⟩
  unfold Request.initiates at hinit
  split at hinit
  · rename_i user phoneNumber
    cases hinit
    obtain ⟨n, hn⟩ := accepts_iff.mp (validated_began hr hq phoneNumber rfl)
    have heq : e.1 = mpesaCharge cfg n.international t' := by
      rw [mpesaCharge, hsame.id, ← hn.normalized]
      exact (Option.some.inj hcharge).symm
    rw [heq]
    exact .mpesa huser (hsame.method.trans hmethod) hn
  · rename_i user
    cases hinit
    have heq : e.1 = bankGatewayCharge cfg user.email t' := by
      rw [bankGatewayCharge, hsame.id]
      exact (Option.some.inj hcharge).symm
    rw [heq]
    exact .bankGateway huser (hsame.method.trans hmethod)
  · cases hinit

/-- Two initiations of one user overtake one another: two payments, a charge for
each. -/
theorem charges_are_accounted_sample : ∃ b : AppState,
    b.trace.filterMap chargeOfEvent = ["tx-2", "tx-1"] ∧
    (∃ q, Event.began 1 q ∈ b.trace ∧ ∃ t ∈ b.store.transactions, t.id = "tx-1" ∧
      ∃ c, ChargeOf sampleConfig t q c) ∧ (b.trace.filterMap chargeOfEvent).Nodup := by
  obtain ⟨b, hr, hb⟩ := Machine.exists_run_of_replay (m := app sampleConfig)
    (a := Machine.start .empty) validated
    (sampleRegistration ++
      [.begin (.initiateMpesa (some sampleUser) "0712345678"),
        .begin (.initiateBankGateway (some sampleUser)), .step 1 (.quiet 1000), .step 2 (.quiet 1001),
        .step 1 ((Ambient.quiet 1002).generating "tx-1"),
        .step 2 ((Ambient.quiet 1003).generating "tx-2"),
        .step 1 ((Ambient.quiet 1004).replying (.obj [("access_token", .str "token")])),
        .step 1 ((Ambient.quiet 1005).replying (.obj [("CheckoutRequestID", .str "ws-1")])),
        .step 2 ((Ambient.quiet 1006).replying (.obj []))])
    (fun b => b.trace.filterMap chargeOfEvent == ["tx-2", "tx-1"] &&
      (own 1 b.trace).any fun e => e.1.charges == some "tx-1")
    (by decide +kernel)
  simp only [Bool.and_eq_true, beq_iff_eq, List.any_eq_true] at hb
  obtain ⟨hcharges, e, he, hid⟩ := hb
  obtain ⟨haccounted, hnodup⟩ := charges_are_accounted hr
  obtain ⟨q, hq, t, ht, htid, hcharge⟩ := haccounted 1 e "tx-1" (mem_own.mp he) hid
  exact ⟨b, hcharges, ⟨q, hq, t, ht, htid, _, hcharge⟩, hnodup⟩

end StreamingService

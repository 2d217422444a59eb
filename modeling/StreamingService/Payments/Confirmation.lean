import StreamingService.Payments.Provenance
import StreamingService.Payments.Status

/-!
# Payments — Confirmation

A payment the provider accepted and then confirmed. The confirmation is
handled once and acknowledged whatever becomes of it, so it has to find its
Transaction in the very state it meets: the reference stored, the status not
settled by an earlier message that was no failure, and nothing overwriting
the activation afterwards. Under that condition on the steps no confirmed
payment is lost; without it the confirmation of a push that overtakes the
statement storing its reference is.
-/

namespace StreamingService

open Lib

/-! ## Accepted initiations -/

/-- An initiation its provider accepted: the Transaction's id, and for M-Pesa
the `CheckoutRequestID` Daraja answered. -/
inductive Charge where
  | mpesa (id checkoutRequestId : String)
  | bankGateway (id : String)
  deriving DecidableEq, Repr

def Charge.id : Charge → String
  | .mpesa id _ => id
  | .bankGateway id => id

/-- The `CheckoutRequestID` of an answer that accepts a push. -/
def HttpReply.checkoutRequestId (r : HttpReply) : Option String :=
  if r.ok then
    ((r.body.bind fun v => JsVal.member (some v) "CheckoutRequestID").bind JsVal.text?)
  else none

/-- The charge a provider's answer accepts. -/
def accepted : Prog.Entry Sig → Option Charge
  | ⟨.service (.darajaStkPush push), .ok reply⟩ =>
      (HttpReply.checkoutRequestId reply).map (.mpesa push.accountReference)
  | ⟨.service (.flutterwaveCheckout checkout), .ok reply⟩ =>
      if HttpReply.ok reply then some (.bankGateway checkout.txRef) else none
  | _ => none

def charges (tr : Trace) : List Charge :=
  tr.filterMap fun ev => match ev with
    | .began _ _ => none
    | .did _ e => accepted e

/-- A delivery of the charge's provider that carries its reference,
respectively its `tx_ref`. -/
def Charge.names (charge : Charge) (q : Request) (outcome : WebhookOutcome) : Bool :=
  match charge, q with
  | .mpesa _ ref, .mpesaCallback _ _ => outcome.providerReference.eqString ref
  | .bankGateway id, .bankGatewayWebhook _ => outcome.txRef.eqString id
  | _, _ => false

/-- `data.status` as Flutterwave sent it. -/
def reportedStatus (req : HttpRequest) : JsVal :=
  ((JsVal.member req.body "data").bind fun data => JsVal.member data "status").getD none

/-- The provider reports that the charge failed: a `ResultCode` other than 0,
respectively the status `failed` or `cancelled`. -/
def Charge.failedBy (cfg : AppConfig) (charge : Charge) (q : Request) : Bool :=
  match delivered cfg q with
  | none => false
  | some outcome =>
      charge.names q outcome &&
        match q with
        | .bankGatewayWebhook req =>
            (reportedStatus req).eqString "failed" || (reportedStatus req).eqString "cancelled"
        | _ => outcome.status == .FAILED

/-- An accepted `markTimedOut` of the row. -/
def timesOut (id : String) : Prog.Entry Sig → Bool
  | ⟨.transaction (.markTimedOut id' _), .ok _⟩ => id' == id
  | _ => false

/-- No failure of the charge has been reported and no sweep has timed it out. -/
def Charge.stands (cfg : AppConfig) (charge : Charge) (tr : Trace) : Bool :=
  tr.all fun ev => match ev with
    | .began _ q => !charge.failedBy cfg q
    | .did _ e => !timesOut charge.id e

/-- The charges a request confirms when it arrives after `tr`, with the
outcome it carries. -/
def confirmed (cfg : AppConfig) (q : Request) (tr : Trace) : List (Charge × WebhookOutcome) :=
  match delivered cfg q with
  | none => []
  | some outcome =>
      if outcome.status == .SUCCEEDED then
        ((charges tr).filter fun charge => charge.names q outcome && charge.stands cfg tr).map
          fun charge => (charge, outcome)
      else []

/-- The charges thread `tid` confirms, by what had happened when it began. -/
def confirms (cfg : AppConfig) (tid : Nat) : Trace → List (Charge × WebhookOutcome)
  | [] => []
  | .began t q :: tr => if t = tid then confirmed cfg q tr else confirms cfg tid tr
  | .did _ _ :: tr => confirms cfg tid tr

/-! ## The condition -/

/-- The payment with this id has its Subscription. -/
def Paid (s : Store) (id : String) : Prop := ∃ x ∈ s.subscriptions, x.transactionId = id

instance (s : Store) (id : String) : Decidable (Paid s id) :=
  inferInstanceAs (Decidable (∃ x ∈ s.subscriptions.rows, x.transactionId = id))

/-- The delivery leads to the charge's row, which is `PENDING` or `SUCCEEDED`:
by the reference, which no other row carries, or by `tx_ref`. -/
def Findable (charge : Charge) (outcome : WebhookOutcome) (s : Store) : Prop :=
  (∃ t ∈ s.transactions, t.id = charge.id ∧ (t.status = .PENDING ∨ t.status = .SUCCEEDED) ∧
    (carries t outcome.providerReference = true ∨
      outcome.txRef.eqString charge.id = true ∧ charge.id ≠ "")) ∧
  ∀ t ∈ s.transactions, carries t outcome.providerReference = true → t.id = charge.id

instance (charge : Charge) (outcome : WebhookOutcome) (s : Store) :
    Decidable (Findable charge outcome s) :=
  inferInstanceAs (Decidable ((∃ t ∈ s.transactions.rows, t.id = charge.id ∧
    (t.status = .PENDING ∨ t.status = .SUCCEEDED) ∧ (carries t outcome.providerReference = true ∨
      outcome.txRef.eqString charge.id = true ∧ charge.id ≠ "")) ∧
    ∀ t ∈ s.transactions.rows, carries t outcome.providerReference = true → t.id = charge.id))

def isLookup : Cmd → Bool
  | .transaction (.findByReference _) | .transaction (.findById _) => true
  | _ => false

/-- What a statement of a confirming handler needs, unless the payment has
its Subscription already: the database accepts it, and a lookup leads to the
charge's row. -/
def Supports (charge : Charge) (outcome : WebhookOutcome) (s : Store) (e : Prog.Entry Sig) :
    Prop :=
  Paid s charge.id ∨ e.2.isOk = true ∧ (isLookup e.1 = true → Findable charge outcome s)

instance (charge : Charge) (outcome : WebhookOutcome) (s : Store) (e : Prog.Entry Sig) :
    Decidable (Supports charge outcome s e) :=
  inferInstanceAs (Decidable (_ ∨ _))

/-- The condition on a step: a status write spares `SUCCEEDED` rows, and a
statement of a confirming handler is supported. -/
def keepsConfirmed (cfg : AppConfig) (sys : AppState) : Action Ambient Request → Prop
  | .begin _ => True
  | .step tid o => ∀ c, sys.pending tid = some c →
      SparesSucceeded sys.store ⟨c, (exec o c sys.store).1⟩ ∧
        ∀ p ∈ confirms cfg tid sys.trace, Supports p.1 p.2 sys.store ⟨c, (exec o c sys.store).1⟩

instance (cfg : AppConfig) (sys : AppState) (act : Action Ambient Request) :
    Decidable (keepsConfirmed cfg sys act) :=
  match act with
  | .begin _ => isTrue trivial
  | .step tid o => inferInstanceAs (Decidable (∀ c ∈ sys.pending tid,
      SparesSucceeded sys.store ⟨c, (exec o c sys.store).1⟩ ∧
        ∀ p ∈ confirms cfg tid sys.trace, Supports p.1 p.2 sys.store ⟨c, (exec o c sys.store).1⟩))

variable {cfg : AppConfig} {o : Ambient} {s s' : Store} {e : Prog.Entry Sig} {charge : Charge}
  {outcome : WebhookOutcome}

/-! ## One statement of a confirming handler -/

theorem Paid.step {id : String} (hpaid : Paid s id) (h : LedgerStep o s s' e) : Paid s' id := by
  obtain ⟨x, hx, hxid⟩ := hpaid
  exact ⟨x, h.subscription hx, hxid⟩

/-- Anything but an accepted ledger write leaves both tables alone. -/
theorem LedgerStep.unchanged (h : LedgerStep o s s' e) (hquiet : isLedgerWrite e = false) :
    s'.transactions = s.transactions ∧ s'.subscriptions = s.subscriptions := by
  cases h with
  | quiet _ ht hs => exact ⟨ht, hs⟩
  | create _ _ _ _ => cases hquiet
  | refer _ _ _ _ _ => cases hquiet
  | fail _ _ _ _ _ => cases hquiet
  | timeOut _ _ _ _ => cases hquiet
  | activate _ _ _ _ _ => cases hquiet

theorem eqString_iff {v : JsVal} {text : String} :
    v.eqString text = true ↔ v = some (.str text) := by
  unfold JsVal.eqString
  split
  · simp
  · rename_i hne
    exact ⟨fun h => (nomatch h), fun h => absurd h (hne text)⟩

/-- A statement that brings the confirming handler closer to its charge's
activation: it is accepted, a lookup answers the charge's row while it is
`PENDING`, and no Subscription has shown up yet. -/
structure Advances (charge : Charge) (outcome : WebhookOutcome) (e : Prog.Entry Sig) : Prop where
  ok : e.2.isOk = true
  byReference : ∀ found,
    e = ⟨.transaction (.findByReference outcome.providerReference), .ok found⟩ →
      found = none ∧ outcome.txRef = some (.str charge.id) ∧ charge.id ≠ "" ∨
        ∃ t, found = some t ∧ t.id = charge.id ∧ t.status = .PENDING
  byId : ∀ found, e = ⟨.transaction (.findById (some (.str charge.id))), .ok found⟩ →
    ∃ t, found = some t ∧ t.id = charge.id ∧ t.status = .PENDING
  unread : ∀ t x, e ≠ ⟨.subscription (.readForActivation charge.id), .ok (some (t, some x))⟩
  uncommitted : ∀ userId resolvedAt startAt expiresAt row,
    e ≠ ⟨.subscription (.commitActivation charge.id userId resolvedAt startAt expiresAt), .ok row⟩

/-- **One supported statement** of a confirming handler advances it, unless
the payment has its Subscription by then. -/
theorem LedgerStep.advances (h : LedgerStep o s s' e) (hans : Answers s' e)
    (hsup : Supports charge outcome s e) (hagrees : Agrees s) :
    Paid s' charge.id ∨ Advances charge outcome e := by
  by_cases hpaid : Paid s' charge.id
  · exact .inl hpaid
  obtain ⟨hok, hfind⟩ : e.2.isOk = true ∧ (isLookup e.1 = true → Findable charge outcome s) :=
    hsup.resolve_left fun hp => hpaid (hp.step h)
  -- a live row of an unpaid charge is `PENDING`
  have pending : ∀ t ∈ s.transactions, t.id = charge.id →
      (t.status = .PENDING ∨ t.status = .SUCCEEDED) → t.status = .PENDING := by
    intro t ht hid hlive
    refine hlive.resolve_right fun hst => hpaid ?_
    obtain ⟨x, hx, hxt⟩ := (hagrees t ht).mpr hst
    exact Paid.step ⟨x, hx, hxt.trans hid⟩ h
  refine .inr ⟨hok, ?_, ?_, ?_, ?_⟩
  · rintro found rfl
    obtain ⟨⟨t, ht, hid, hlive, hroute⟩, honly⟩ := hfind rfl
    obtain ⟨text, href, hfound⟩ := hans
    rw [(h.unchanged rfl).1] at hfound
    cases found with
    | some u =>
        obtain ⟨hu, hcarries⟩ := Table.mem_of_find? hfound.symm
        have huid : u.id = charge.id := honly u hu (by
          have : u.providerReference = some text := by simpa using hcarries
          simp [carries, this, href, JsVal.text?])
        have hut : u = t := transactions_eq_of_id hu ht (huid.trans hid.symm)
        exact .inr ⟨u, rfl, huid, pending u hu huid (hut ▸ hlive)⟩
    | none =>
        have hnone := Table.find?_eq_none.mp hfound.symm t ht
        rcases hroute with hcarries | ⟨htx, hne⟩
        · simp [carries, href, JsVal.text?] at hcarries hnone
          exact absurd hcarries.2 hnone
        · exact .inl ⟨rfl, eqString_iff.mp htx, hne⟩
  · rintro found rfl
    obtain ⟨⟨t, ht, hid, hlive, -⟩, -⟩ := hfind rfl
    obtain ⟨text, htext, hfound⟩ := hans
    cases htext
    rw [(h.unchanged rfl).1] at hfound
    refine ⟨t, ?_, hid, pending t ht hid hlive⟩
    rw [hfound]
    exact transactions_find? ht (by simpa using hid)
  · rintro t x rfl
    obtain ⟨-, -, hx⟩ := Answers.readForActivation hans
    obtain ⟨hmem, hxid⟩ := Table.mem_of_find? hx.symm
    exact hpaid ⟨x, hmem, by simpa using hxid⟩
  · rintro userId resolvedAt startAt expiresAt row rfl
    cases h with
    | quiet hquiet _ _ => cases hquiet
    | activate hrow _ _ _ hs =>
        exact hpaid ⟨_, (Table.mem_insert? hs).mpr (.inr rfl), by rw [hrow]⟩

/-! ## Runs that keep confirmed payments -/

/-- Every statement of a confirming handler advanced it, unless the payment
has its Subscription now. -/
def Advanced (cfg : AppConfig) (s : Store) (tr : Trace) : Prop :=
  ∀ post pre tid e, tr = post ++ .did tid e :: pre →
    ∀ p ∈ confirms cfg tid pre, Paid s p.1.id ∨ Advances p.1 p.2 e

/-- What a run that keeps confirmed payments keeps. -/
structure KeptConfirmed (cfg : AppConfig) (s : Store) (tr : Trace) : Prop where
  owned : SubscriptionsOwned s
  agrees : Agrees s
  advanced : Advanced cfg s tr

variable {b : AppState}

theorem keptConfirmed_run (hs : s.subscriptions = .empty) (hagrees : Agrees s)
    (hr : (app cfg).Run (keepsConfirmed cfg) (Machine.start s) b) :
    KeptConfirmed cfg b.store b.trace := by
  refine Machine.Run.keeps (I := KeptConfirmed cfg) ?_ ?_ ⟨?_, hagrees, ?_⟩ hr
  · intro s tr tid q h
    refine ⟨h.owned, h.agrees, ?_⟩
    intro post pre t e htr
    cases post with
    | nil => cases htr
    | cons ev post => exact h.advanced post pre t e (List.cons.inj htr).2
  · intro sys tid o c h hok hpend
    obtain ⟨hspares, hsupports⟩ := hok c hpend
    have hstep := exec_ledger o c sys.store
    refine ⟨hstep.owned h.owned, hstep.agrees hspares h.owned h.agrees, ?_⟩
    intro post pre t e htr p hp
    cases post with
    | nil =>
        cases htr
        exact hstep.advances (exec_answers o c sys.store) (hsupports p hp) h.agrees
    | cons ev post =>
        exact (h.advanced post pre t e (List.cons.inj htr).2 p hp).imp_left (·.step hstep)
  · intro x hx
    have hx : x ∈ s.subscriptions := hx
    rw [hs] at hx
    exact absurd hx (Table.not_mem_empty x)
  · intro post pre tid e htr
    cases post <;> cases htr

/-- A row some answer has shown is not reported missing later. -/
def FindsShown (ev : Event Sig Request) (pre : Trace) : Prop :=
  match ev with
  | .did _ ⟨.subscription (.readForActivation id), .ok none⟩ =>
      ∀ tid e t, Event.did tid e ∈ pre → shown e = some t → t.id ≠ id
  | _ => True

theorem findsShown {tr : Trace} (h : Provenance s tr) (hstep : LedgerStep o s s' e)
    (hans : Answers s' e) (tid : Nat) : FindsShown (.did tid e) tr := by
  unfold FindsShown
  split
  · rename_i heq
    cases heq
    intro t' e' t hmem hshown hid
    obtain ⟨row, hrow, hsame⟩ := h.known t' e' t hmem hshown
    rw [← (hstep.unchanged rfl).1] at hrow
    have hnone := Table.find?_eq_none.mp (Option.map_eq_none_iff.mp hans.symm) row hrow
    simp [hsame.id, hid] at hnone
  · trivial

theorem findsShown_run {ok : AppState → Action Ambient Request → Prop}
    (hs : s.subscriptions = .empty) (hr : (app cfg).Run ok (Machine.start s) b) :
    Always FindsShown b.trace := by
  have hinv : Provenance b.store b.trace ∧ Always FindsShown b.trace :=
    Machine.Run.keeps (I := fun s tr => Provenance s tr ∧ Always FindsShown tr)
      (fun s tr tid q h => ⟨h.1.began tid q, trivial, h.2⟩)
      (fun sys tid o c h _ _ =>
        ⟨h.1.did (exec_ledger o c sys.store) (exec_answers o c sys.store) tid,
          findsShown h.1 (exec_ledger o c sys.store) (exec_answers o c sys.store) tid, h.2⟩)
      (show _ ∧ Always FindsShown [] from ⟨.start hs, trivial⟩) hr
  exact hinv.2

/-! ## The confirming thread -/

/-- What a thread confirms is settled when it begins. -/
theorem confirms_append {tid : Nat} {post pre : Trace}
    (h : ∀ q, ¬ Event.began tid q ∈ post) :
    confirms cfg tid (post ++ pre) = confirms cfg tid pre := by
  induction post with
  | nil => rfl
  | cons ev post ih =>
      have ih := ih fun q hmem => h q (List.mem_cons_of_mem _ hmem)
      cases ev with
      | began t q =>
          have hne : t ≠ tid := fun heq => h q (heq ▸ List.mem_cons_self)
          rw [List.cons_append, confirms, if_neg hne, ih]
      | did t e => exact ih

theorem mem_confirms {tid : Nat} {tr : Trace} {p : Charge × WebhookOutcome}
    (h : p ∈ confirms cfg tid tr) :
    ∃ q, Event.began tid q ∈ tr ∧ delivered cfg q = some p.2 ∧ p.2.status = .SUCCEEDED := by
  induction tr with
  | nil => cases h
  | cons ev tr ih =>
      have later : p ∈ confirms cfg tid tr → ∃ q, Event.began tid q ∈ ev :: tr ∧
          delivered cfg q = some p.2 ∧ p.2.status = .SUCCEEDED := by
        intro hp
        obtain ⟨q, hmem, hq⟩ := ih hp
        exact ⟨q, List.mem_cons_of_mem _ hmem, hq⟩
      cases ev with
      | did t e => exact later h
      | began t q =>
          rw [confirms] at h
          split at h
          · rename_i htid
            subst htid
            unfold confirmed at h
            split at h
            · cases h
            · rename_i outcome hdel
              split at h
              · rename_i hst
                obtain ⟨charge, -, rfl⟩ := List.mem_map.mp h
                exact ⟨q, List.mem_cons_self, hdel, by simpa using hst⟩
              · cases h
          · exact later h

/-- Every statement of a confirming thread advanced it, as long as the
payment has no Subscription. -/
theorem KeptConfirmed.thread (h : KeptConfirmed cfg b.store b.trace)
    (hrec : Machine.Recorded (HandlerStep cfg) (HandlerEnd cfg) b) {tid : Nat}
    {p : Charge × WebhookOutcome} (hp : p ∈ confirms cfg tid b.trace)
    (hpaid : ¬ Paid b.store p.1.id) : ∀ e ∈ own tid b.trace, Advances p.1 p.2 e := by
  intro e he
  obtain ⟨post, pre, htr⟩ := List.append_of_mem (mem_own.mp he)
  have hpost : ∀ q, ¬ Event.began tid q ∈ post := by
    intro q hmem
    obtain ⟨post', pre', hsplit⟩ := List.append_of_mem hmem
    have hpast := hrec.past
    rw [htr, hsplit, List.append_assoc] at hpast
    -- nothing is done by a thread before it begins
    have hempty : own tid (pre' ++ .did tid e :: pre) = [] := hpast.split.1
    have hin : e ∈ own tid (pre' ++ .did tid e :: pre) :=
      mem_own.mpr (List.mem_append_right _ List.mem_cons_self)
    rw [hempty] at hin
    cases hin
  have hp' : p ∈ confirms cfg tid pre := by
    rw [htr, confirms_append hpost] at hp
    exact hp
  exact (h.advanced post pre tid e htr p hp').resolve_left hpaid

theorem Advances.resolves {h : List (Prog.Entry Sig)} (hadv : ∀ e ∈ h, Advances charge outcome e)
    {t : Transaction} (hres : Resolves outcome h t) : t.id = charge.id ∧ t.status = .PENDING := by
  rcases hres with href | ⟨href, hid⟩
  · rcases (hadv _ href).byReference _ rfl with ⟨hnone, -⟩ | ⟨t', heq, ht'⟩
    · cases hnone
    · cases heq
      exact ht'
  · rcases (hadv _ href).byReference _ rfl with ⟨-, htx, -⟩ | ⟨t', heq, -⟩
    · rw [htx] at hid
      obtain ⟨t', heq, ht'⟩ := (hadv _ hid).byId _ rfl
      cases heq
      exact ht'
    · cases heq

/-- A handler whose statements all advance it does not end. -/
theorem Advances.not_end {h : List (Prog.Entry Sig)} (hadv : ∀ e ∈ h, Advances charge outcome e)
    (hst : outcome.status = .SUCCEEDED)
    (hfound : ∀ id, ¬ ⟨.subscription (.readForActivation id), .ok none⟩ ∈ h) :
    ¬ DeliveryEnd outcome h := by
  intro hend
  cases hend with
  | unresolved hr =>
      obtain ⟨href, hid⟩ := hr
      rcases (hadv _ href).byReference _ rfl with ⟨-, htx, hne⟩ | ⟨t, heq, -⟩
      · rcases hid with hfalsy | hid
        · simp [htx, JsVal.truthy, hne] at hfalsy
        · rw [htx] at hid
          obtain ⟨t, heq, -⟩ := (hadv _ hid).byId _ rfl
          cases heq
      · cases heq
  | ignored t hr hleft => exact hleft (Advances.resolves hadv hr).2
  | failed hfailed =>
      rw [hst] at hfailed
      cases hfailed
  | missing id hmem => exact hfound id hmem
  | present t x id hr hmem =>
      obtain ⟨t', hres, rfl, -⟩ := hr
      rw [(Advances.resolves hadv hres).1] at hmem
      exact (hadv _ hmem).unread t x rfl
  | activated id userId resolvedAt startAt expiresAt row hr hmem =>
      obtain ⟨t', hres, rfl, -⟩ := hr
      rw [(Advances.resolves hadv hres).1] at hmem
      exact (hadv _ hmem).uncommitted _ _ _ _ _ rfl
  | threw c e hmem => cases (hadv _ hmem).ok

/-- A resolved row is still there when the activation reads it. -/
theorem activation_finds_row (hs : s.subscriptions = .empty)
    (hr : (app cfg).Run (keepsConfirmed cfg) (Machine.start s) b) {tid : Nat} {id : String} :
    ¬ ⟨.subscription (.readForActivation id), .ok none⟩ ∈ own tid b.trace := by
  intro hmem
  obtain ⟨post, pre, htr⟩ := List.append_of_mem (mem_own.mp hmem)
  have hpast := (recorded_run hr).past
  have hfinds := findsShown_run hs hr
  rw [htr] at hpast hfinds
  obtain ⟨q, -, hstep⟩ := hpast.split
  have hdelivery : q.isDelivery = true := by
    have hwithin := hstep.within
    revert hwithin
    cases q <;> intro hwithin <;> first | rfl | cases hwithin
  obtain ⟨outcome, -, -, t, hres, hid, -⟩ := hstep.delivery hdelivery
  obtain ⟨e, he, hshown⟩ := hres.shown
  exact hfinds.split tid e t (mem_own.mp he) hshown hid

/-! ## The guarantee -/

/-- The payment is recorded as `SUCCEEDED` and has its Subscription. -/
def Settled (s : Store) (id : String) : Prop :=
  (∃ t ∈ s.transactions, t.id = id ∧ t.status = .SUCCEEDED) ∧ Paid s id

instance (s : Store) (id : String) : Decidable (Settled s id) :=
  inferInstanceAs (Decidable ((∃ t ∈ s.transactions.rows, t.id = id ∧ t.status = .SUCCEEDED) ∧
    Paid s id))

/-- **No confirmed payment is lost** in a run whose steps keep confirmed
payments: when the handler of a confirmation has finished, the payment it
confirms is settled. -/
theorem no_confirmed_payment_lost {cfg : AppConfig} {s : Store} (hs : s.subscriptions = .empty)
    (hagrees : Agrees s) {b : AppState}
    (hr : (app cfg).Run (keepsConfirmed cfg) (Machine.start s) b) {tid : Nat} {q : Request}
    {r : Except Exception Reply} (hth : b.threads[tid]? = some ⟨q, .done r⟩)
    {p : Charge × WebhookOutcome} (hp : p ∈ confirms cfg tid b.trace) :
    Settled b.store p.1.id := by
  have hkept := keptConfirmed_run hs hagrees hr
  have hrec := recorded_run hr
  have hpaid : Paid b.store p.1.id := by
    by_contra hunpaid
    obtain ⟨q', hbegan, hdel, hst⟩ := mem_confirms hp
    obtain ⟨th, hth', hq⟩ := hrec.thread tid q' hbegan
    rw [hth] at hth'
    cases hth'
    cases hq
    exact Advances.not_end (hkept.thread hrec hp hunpaid) hst
      (fun id => activation_finds_row hs hr) (hrec.emits tid _ hth p.2 hdel)
  obtain ⟨x, hx, hxid⟩ := id hpaid
  obtain ⟨t, ht, hid⟩ := hkept.owned x hx
  exact ⟨⟨t, ht, hid.trans hxid, (hkept.agrees t ht).mp ⟨x, hx, hid.symm⟩⟩, hpaid⟩

/-- The threads that are done, with the ids of the payments they confirm. -/
def doneConfirming (cfg : AppConfig) (b : AppState) (tid : Nat) : List (Charge × WebhookOutcome) :=
  match b.threads[tid]? with
  | some ⟨_, .done _⟩ => confirms cfg tid b.trace
  | _ => []

theorem mem_doneConfirming {b : AppState} {tid : Nat} {p : Charge × WebhookOutcome}
    (h : p ∈ doneConfirming cfg b tid) :
    (∃ q r, b.threads[tid]? = some ⟨q, .done r⟩) ∧ p ∈ confirms cfg tid b.trace := by
  unfold doneConfirming at h
  split at h
  · rename_i q r hth
    exact ⟨⟨q, r, hth⟩, h⟩
  · cases h

/-- A push whose reference is stored before its confirmation arrives. -/
theorem no_confirmed_payment_lost_sample :
    ∃ b : AppState, ∃ p ∈ confirms sampleConfig 2 b.trace,
      p.1 = .mpesa "tx-1" "ws-1" ∧ Settled b.store p.1.id := by
  obtain ⟨b, hr, hb⟩ := Machine.exists_run_of_replay (m := app sampleConfig)
    (a := Machine.start .empty) (keepsConfirmed sampleConfig)
    (sampleRegistration ++ samplePush ++ sampleActivation)
    (fun b => (doneConfirming sampleConfig b 2).any fun p => p.1 == .mpesa "tx-1" "ws-1")
    (by decide +kernel)
  obtain ⟨p, hp, hcharge⟩ := List.any_eq_true.mp hb
  obtain ⟨⟨q, r, hth⟩, hp⟩ := mem_doneConfirming hp
  exact ⟨b, p, hp, by simpa using hcharge, no_confirmed_payment_lost rfl
    (fun t ht => absurd ht (Table.not_mem_empty t)) hr hth hp⟩

/-- The confirmation of `ws-1` arrives before thread 1 stores the reference. -/
def sampleOvertaking : List (Action Ambient Request) :=
  [.begin (sampleCallback "0" "ws-1"), .step 2 (.quiet 1004)]

/-- Thread 1 initiates a bank-gateway payment, Flutterwave reports it as
pending, and then as successful. -/
def samplePendingNotice : List (Action Ambient Request) :=
  [.begin (.initiateBankGateway (some sampleUser)), .step 1 (.quiet 1000),
    .step 1 ((Ambient.quiet 1001).generating "tx-1"),
    .step 1 ((Ambient.quiet 1002).replying (.obj [("data", .obj [("link", .str "pay")])])),
    .begin (sampleWebhook "pending" "7" "tx-1"), .step 2 (.quiet 2000), .step 2 (.quiet 2001),
    .step 2 (.quiet 2002), .step 2 (.quiet 2003), .step 2 (.quiet 2004),
    .begin (sampleWebhook "successful" "7" "tx-1"), .step 3 (.quiet 3000)]

/-- A confirmation that overtakes the reference is lost, and so is one that a
`pending` notice precedes. -/
theorem confirmed_payments_lost :
    (∃ b : AppState, (app sampleConfig).Run anyAction (Machine.start .empty) b ∧
      ∃ q r p, b.threads[2]? = some ⟨q, .done r⟩ ∧ p ∈ confirms sampleConfig 2 b.trace ∧
        ¬ Settled b.store p.1.id) ∧
    ∃ b : AppState, (app sampleConfig).Run anyAction (Machine.start .empty) b ∧
      ∃ q r p, b.threads[3]? = some ⟨q, .done r⟩ ∧ p ∈ confirms sampleConfig 3 b.trace ∧
        ¬ Settled b.store p.1.id := by
  have lost : ∀ (tid : Nat) (acts : List (Action Ambient Request)),
      ((app sampleConfig).replay anyAction (Machine.start .empty) acts).map (fun b =>
        (doneConfirming sampleConfig b tid).any fun p => !decide (Settled b.store p.1.id)) =
          some true →
      ∃ b : AppState, (app sampleConfig).Run anyAction (Machine.start .empty) b ∧
        ∃ q r p, b.threads[tid]? = some ⟨q, .done r⟩ ∧ p ∈ confirms sampleConfig tid b.trace ∧
          ¬ Settled b.store p.1.id := by
    intro tid acts h
    obtain ⟨b, hr, hb⟩ := Machine.exists_run_of_replay anyAction acts _ h
    obtain ⟨p, hp, hlost⟩ := List.any_eq_true.mp hb
    obtain ⟨⟨q, r, hth⟩, hp⟩ := mem_doneConfirming hp
    exact ⟨b, hr, q, r, p, hth, hp, by simpa using hlost⟩
  exact ⟨lost 2 (sampleRegistration ++ samplePush ++ sampleOvertaking) (by decide +kernel),
    lost 3 (sampleRegistration ++ samplePendingNotice) (by decide +kernel)⟩

end StreamingService

import StreamingService.Lib.Rounding
import StreamingService.Payments.History

/-!
# Payments — Amounts

What is charged and what is recorded. One price takes three routes: Daraja is
asked for whole units, the bank gateway for the price as it is, and the
database keeps two places. The charge is the recorded amount exactly for the
prices both routes round alike.
-/

namespace StreamingService

open Lib

/-! ## The three routes -/

/-- What a provider is asked to charge. -/
def PaymentMethod.charge : PaymentMethod → Rat → Rat
  | .MPESA, price => mathRound price
  | .BANK_GATEWAY, price => price

/-- The prices a method charges as they are recorded: near a whole unit for
M-Pesa, in whole hundredths for the bank gateway. -/
def PaymentMethod.ChargesExactly : PaymentMethod → Rat → Prop
  | .MPESA, price => ∃ n : Int, (n : Rat) - 1 / 200 ≤ price ∧ price < n + 1 / 200
  | .BANK_GATEWAY, price => ∃ n : Int, price * 100 = n

theorem mathRound_eq (q : Rat) : mathRound q = round q := by
  rw [round_eq]
  rfl

theorem toCents_eq_some {q : Rat} (hq : 0 ≤ q) {cents : Int} (h : toCents q = some cents) :
    cents = round (q * 100) := by
  unfold toCents at h
  rw [if_neg (not_lt.mpr hq)] at h
  dsimp only at h
  split at h
  · cases h
    rw [round_eq]
    rfl
  · cases h

/-- **Charge and record agree** exactly under the condition. -/
theorem charge_eq_iff {method : PaymentMethod} {price : Rat} (hprice : 0 ≤ price) {cents : Int}
    (hcents : toCents price = some cents) :
    method.charge price = (cents : Rat) / 100 ↔ method.ChargesExactly price := by
  rw [toCents_eq_some hprice hcents, eq_div_iff (by norm_num)]
  cases method with
  | MPESA =>
      have hagree := round_mul_eq_round_mul_iff (q := price) (k := 100) (by decide)
      have hstep : 1 / (2 * ((100 : Nat) : Rat)) = 1 / 200 := by norm_num
      rw [hstep] at hagree
      simp only [PaymentMethod.charge, PaymentMethod.ChargesExactly, mathRound_eq, ← hagree]
      exact ⟨fun h => by exact_mod_cast h.symm, fun h => by exact_mod_cast h.symm⟩
  | BANK_GATEWAY => exact eq_round_iff

/-! ## The path of the handlers -/

/-- The amount a provider is asked to charge. -/
def chargeOf : Cmd → Option Rat
  | .service (.darajaStkPush push) => push.amount.map fun n : Int => (n : Rat)
  | .service (.flutterwaveCheckout checkout) => checkout.amount
  | _ => none

/-- No charge but of `amount`. -/
def Asks (amount : Option Rat) (c : Cmd) : Prop := ∀ charged ∈ chargeOf c, amount = some charged

theorem Asks.of_quiet {amount : Option Rat} {c : Cmd} (hquiet : chargeOf c = none) :
    Asks amount c := by
  intro charged hcharge
  rw [hquiet] at hcharge
  cases hcharge

/-- A charge of an initiation follows its insert, and both are of the configured
price. -/
def ChargeStep (cfg : AppConfig) (q : Request) (h : List (Prog.Entry Sig)) (e : Prog.Entry Sig) :
    Prop :=
  ∀ userId method, q.initiates = some (userId, method) → ∀ charged ∈ chargeOf e.1,
    ∃ t, inserted userId method cfg.subscription.priceAmount t ∈ h ∧
      cfg.subscription.priceAmount.map method.charge = some charged

theorem ChargeStep.of_quiet {cfg : AppConfig} {q : Request} {h : List (Prog.Entry Sig)}
    {e : Prog.Entry Sig} (hquiet : chargeOf e.1 = none) : ChargeStep cfg q h e := by
  rintro userId method - charged hcharge
  rw [hquiet] at hcharge
  cases hcharge

section

variable {cfg : AppConfig} {q : Request} {h : List (Prog.Entry Sig)} {userId : String}
  {method : PaymentMethod}

theorem createPending_charges :
    (TransactionsService.createPending cfg userId method).Emits (ChargeStep cfg q)
      (fun r h => ∀ t, r = .ok t →
        inserted userId method cfg.subscription.priceAmount t ∈ h) h := by
  refine .perform_bind (fun existing => ⟨.of_quiet rfl, ?_⟩)
    fun e => ⟨.of_quiet rfl, fun _ hr => nomatch hr⟩
  split
  · exact fun _ hr => nomatch hr
  · refine fun r => ⟨.of_quiet rfl, ?_⟩
    rintro t rfl
    exact List.mem_cons_self

/-- After the insert, the charge of the configured price. -/
theorem charges_after {α : Type} {p : App α} {t : Transaction}
    (hq : q.initiates = some (userId, method))
    (hmem : inserted userId method cfg.subscription.priceAmount t ∈ h)
    (hp : p.Calls (Asks (cfg.subscription.priceAmount.map method.charge))) :
    p.Emits (ChargeStep cfg q) (fun _ _ => True) h := by
  refine (Prog.Emits.within hp (.past p hmem)).mono ?_ fun _ _ _ => trivial
  rintro h e ⟨hasks, hmem⟩ userId' method' hq' charged hcharge
  rw [hq] at hq'
  cases hq'
  exact ⟨t, hmem, hasks charged hcharge⟩

theorem mpesaProvider_asks {input : InitiatePaymentInput} {amount : Option Rat}
    (hamount : input.amount = amount) :
    (MpesaProvider.initiate cfg input).Calls (Asks (amount.map PaymentMethod.MPESA.charge)) := by
  subst hamount
  unfold MpesaProvider.initiate
  split
  · trivial
  · refine .bind ?_ fun _ => ?_
    · refine .perform_bind (.of_quiet rfl) fun response => ?_
      split
      · trivial
      · exact .ofExcept_bind fun body _ => trivial
    · refine .perform_bind (fun charged hcharge => ?_) fun response => ?_
      · rw [chargeOf, Option.map_map] at hcharge
        exact hcharge
      · split
        · trivial
        · refine .ofExcept_bind fun body _ => ?_
          exact .ofExcept_bind fun checkoutRequestId _ => trivial

theorem bankGatewayProvider_asks {input : InitiatePaymentInput} {amount : Option Rat}
    (hamount : input.amount = amount) : (BankGatewayProvider.initiate cfg input).Calls
      (Asks (amount.map PaymentMethod.BANK_GATEWAY.charge)) := by
  subst hamount
  refine .perform_bind (fun charged hcharge => ?_) fun response => ?_
  · have hcharge : input.amount = some charged := hcharge
    simp [hcharge, PaymentMethod.charge]
  · split
    · trivial
    · refine .ofExcept_bind fun body _ => .ofExcept_bind fun data _ => ?_
      exact .ofExcept_bind fun link _ => trivial

theorem initiateMpesa_charges (userEmail phoneNumber : String)
    (hq : q.initiates = some (userId, .MPESA)) :
    (PaymentsService.initiateMpesa cfg userId userEmail phoneNumber).Emits (ChargeStep cfg q)
      (fun _ _ => True) h := by
  refine .bind createPending_charges (fun t h hins => charges_after hq (hins t rfl) ?_)
    fun _ _ _ => trivial
  refine .bind (.catchErr ?_ fun err => ?_) fun _ => trivial
  · refine .bind (mpesaProvider_asks rfl) fun result => ?_
    split
    · exact .perform_bind (.of_quiet rfl) fun _ => trivial
    · trivial
  · refine .bind ?_ fun _ => trivial
    exact .perform_bind (.of_quiet rfl) fun resolvedAt => ⟨.of_quiet rfl, fun _ => trivial⟩

theorem initiateBankGateway_charges (userEmail : String)
    (hq : q.initiates = some (userId, .BANK_GATEWAY)) :
    (PaymentsService.initiateBankGateway cfg userId userEmail).Emits (ChargeStep cfg q)
      (fun _ _ => True) h := by
  refine .bind createPending_charges (fun t h hins => charges_after hq (hins t rfl) ?_)
    fun _ _ _ => trivial
  refine .catchErr (.bind (bankGatewayProvider_asks rfl) fun result => trivial) fun err => ?_
  refine .bind ?_ fun _ => trivial
  exact .perform_bind (.of_quiet rfl) fun resolvedAt => ⟨.of_quiet rfl, fun _ => trivial⟩

end

theorem charge_steps (cfg : AppConfig) (q : Request) :
    (handle cfg q).Emits (ChargeStep cfg q) (fun _ _ => True) [] := by
  cases hq : q.initiates with
  | none =>
      refine (Prog.Emits.always _ _).mono (fun h e _ userId method hinit => ?_) fun _ _ _ => trivial
      rw [hq] at hinit
      cases hinit
  | some initiation =>
      cases q with
      | initiateMpesa user phoneNumber =>
          cases user with
          | none => cases hq
          | some user =>
              refine emits_guard ?_
              exact .bind (initiateMpesa_charges _ _ rfl) (fun _ _ _ => trivial) fun _ _ _ => trivial
      | initiateBankGateway user =>
          cases user with
          | none => cases hq
          | some user =>
              refine emits_guard ?_
              exact .bind (initiateBankGateway_charges _ rfl) (fun _ _ _ => trivial)
                fun _ _ _ => trivial
      | _ => cases hq

/-! ## The row of an insert -/

/-- What an insert says of its row, for good: its method and amount, and that a
version of it is stored. -/
def InsertKept (s : Store) (e : Prog.Entry Sig) : Prop :=
  ∀ userId method amount t, e = inserted userId method amount t →
    t.method = method ∧ amount.bind toCents = some t.amount ∧ ∃ t' ∈ s.transactions, t.SameAs t'

theorem exec_insertKept (o : Ambient) (c : Cmd) (s : Store) :
    InsertKept (exec o c s).2 ⟨c, (exec o c s).1⟩ := by
  intro userId method amount t heq
  have hstep := exec_ledger o c s
  rw [show (⟨c, (exec o c s).1⟩ : Prog.Entry Sig) = _ from heq] at hstep
  cases hstep with
  | quiet hquiet _ _ => cases hquiet
  | create hcents _ hts _ =>
      exact ⟨rfl, hcents, _, (Table.mem_insert? hts).mpr (.inr rfl), .refl _⟩

theorem insertKept_run {cfg : AppConfig} {ok : AppState → Action Ambient Request → Prop} {s : Store}
    {b : AppState} (hr : (app cfg).Run ok (Machine.start s) b) :
    ∀ tid e, Event.did tid e ∈ b.trace → InsertKept b.store e := by
  refine Machine.Run.answers exec_insertKept ?_ hr
  rintro o c s e h userId method amount t rfl
  obtain ⟨hmethod, hcents, t', ht', hsame⟩ := h userId method amount t rfl
  obtain ⟨t'', ht'', hsame'⟩ := (exec_ledger o c s).row ht'
  exact ⟨hmethod, hcents, t'', ht'', hsame.trans hsame'⟩

/-! ## The guarantee -/

/-- Thread `tid` asked its provider for this charge. -/
def AskedFor (tr : Trace) (tid : Nat) (charged : Rat) : Prop :=
  ∃ e : Prog.Entry Sig, Event.did tid e ∈ tr ∧ chargeOf e.1 = some charged

/-- From `b` on, the payment is stored and shown with this amount. -/
structure BilledAs (cfg : AppConfig) (b : AppState) (t : Transaction) (charged : Rat) : Prop where
  stored : ∀ c, (app cfg).Run anyAction b c →
    ∃ t' ∈ c.store.transactions, t'.id = t.id ∧ (t'.amount : Rat) / 100 = charged
  shown : ∀ c, (app cfg).Run anyAction b c → ∀ entries, Lists c.store t.userId entries →
    ∃ e ∈ entries, e.id = t.id ∧ (e.amount : Rat) / 100 = charged

/-- A stored row is stored and shown with its own amount from then on. -/
theorem billedAs_iff {cfg : AppConfig} {b : AppState} {t t' : Transaction}
    (ht' : t' ∈ b.store.transactions) (hsame : t.SameAs t') {charged : Rat} :
    BilledAs cfg b t charged ↔ charged = (t.amount : Rat) / 100 := by
  constructor
  · intro h
    obtain ⟨x, hx, hid, hamount⟩ := h.stored b .refl
    have heq : x = t' := transactions_eq_of_id hx ht' (hid.trans hsame.id.symm)
    rw [← hamount, heq, hsame.amount]
  · rintro rfl
    constructor
    · intro c hc
      obtain ⟨x, hx, hto⟩ := row_run hc ht'
      exact ⟨x, hx, (hsame.trans hto).id, by rw [(hsame.trans hto).amount]⟩
    · rintro c hc entries ⟨os, hlist⟩
      obtain ⟨x, hx, hto⟩ := row_run hc ht'
      exact ⟨_, (mem_listing hlist).mpr ⟨x, hx, (hsame.trans hto).userId, rfl⟩,
        (hsame.trans hto).id, by rw [(hsame.trans hto).amount]⟩

/-- **The amount charged is the amount recorded exactly for the prices the method
charges as they are recorded.** -/
theorem charge_is_recorded_iff {cfg : AppConfig} {price : Rat}
    (hprice : cfg.subscription.priceAmount = some price) (hnonneg : 0 ≤ price) {s : Store}
    {b : AppState} (hr : (app cfg).Run anyAction (Machine.start s) b) {tid : Nat} {q : Request}
    {userId : String} {method : PaymentMethod} (hq : Event.began tid q ∈ b.trace)
    (hinit : q.initiates = some (userId, method)) {charged : Rat}
    (hasked : AskedFor b.trace tid charged) :
    ∃ t, InsertedBy b.trace userId tid t ∧ t.method = method ∧
      (BilledAs cfg b t charged ↔ method.ChargesExactly price) := by
  obtain ⟨e, hdid, hcharge⟩ := hasked
  obtain ⟨post, pre, htr⟩ := List.append_of_mem hdid
  obtain ⟨t, hins, hcharged⟩ :=
    (Machine.Run.emits (charge_steps cfg) hr).at_split hq htr userId method hinit charged hcharge
  have hevent : Event.did tid (inserted userId method cfg.subscription.priceAmount t) ∈ b.trace := by
    rw [htr]
    exact List.mem_append_right _ (List.mem_cons_of_mem _ (mem_own.mp hins))
  obtain ⟨hmethod, hcents, t', ht', hsame⟩ := insertKept_run hr tid _ hevent userId method _ t rfl
  rw [hprice] at hcents hcharged
  cases hcharged
  refine ⟨t, (mem_insertsFor hr).mp (List.mem_filter.mpr ⟨List.mem_filterMap.mpr
    ⟨_, hevent, rfl⟩, by simpa using inserted_userId hr hevent⟩), hmethod, ?_⟩
  rw [billedAs_iff ht' hsame, charge_eq_iff hnonneg hcents]

/-- The sample deployment with another price. -/
def pricedConfig (price : String) : AppConfig :=
  configuration fun key => if key = "SUBSCRIPTION_PRICE_AMOUNT" then some price else sampleEnv key

/-- The charge a thread asked for. -/
def askedBy (b : AppState) (tid : Nat) : Option Rat :=
  (own tid b.trace).findSome? fun e => chargeOf e.1

theorem asked_of_askedBy {b : AppState} {tid : Nat} {charged : Rat}
    (h : askedBy b tid = some charged) : AskedFor b.trace tid charged := by
  obtain ⟨e, he, hcharge⟩ := List.exists_of_findSome?_eq_some h
  exact ⟨e, mem_own.mp he, hcharge⟩

/-- A price of 999.50: M-Pesa is asked for 1000, and 999.50 is recorded. -/
theorem charge_differs_from_record :
    ∃ (b : AppState) (t : Transaction),
      (app (pricedConfig "999.50")).Run anyAction (Machine.start .empty) b ∧
      t ∈ b.store.transactions ∧ t.method = .MPESA ∧ t.amount = 99950 ∧
      AskedFor b.trace 1 1000 ∧ ¬ BilledAs (pricedConfig "999.50") b t 1000 := by
  obtain ⟨b, hr, hb⟩ := Machine.exists_run_of_replay (m := app (pricedConfig "999.50"))
    (a := Machine.start .empty) anyAction (sampleRegistration ++ samplePush)
    (fun b => askedBy b 1 == some 1000 &&
      b.store.transactions.rows.any fun t => t.method == .MPESA && t.amount == 99950)
    (by decide +kernel)
  simp only [Bool.and_eq_true, beq_iff_eq, List.any_eq_true] at hb
  obtain ⟨hasked, t, ht, hmethod, hamount⟩ := hb
  refine ⟨b, t, hr, ht, hmethod, hamount, asked_of_askedBy hasked, ?_⟩
  rw [billedAs_iff ht (.refl t), hamount]
  norm_num

/-- A whole price is charged as it is recorded. -/
theorem charge_is_recorded_sample :
    ∃ (b : AppState) (t : Transaction), InsertedBy b.trace "user-1" 1 t ∧
      BilledAs (pricedConfig "1250.004") b t 1250 := by
  obtain ⟨b, hr, hb⟩ := Machine.exists_run_of_replay (m := app (pricedConfig "1250.004"))
    (a := Machine.start .empty) anyAction (sampleRegistration ++ samplePush)
    (fun b => askedBy b 1 == some 1250 &&
      (b.threads[1]?.bind fun th => th.request.initiates) == some ("user-1", .MPESA))
    (by decide +kernel)
  simp only [Bool.and_eq_true, beq_iff_eq] at hb
  obtain ⟨th, hth, hinit⟩ := Option.bind_eq_some_iff.mp hb.2
  have hprice : (pricedConfig "1250.004").subscription.priceAmount = some (1250004 / 1000) := by
    decide +kernel
  obtain ⟨t, hins, -, hiff⟩ := charge_is_recorded_iff hprice (by norm_num) hr
    ((Machine.Run.emits (charge_steps _) hr).began 1 th hth) hinit (asked_of_askedBy hb.1)
  exact ⟨b, t, hins, hiff.mpr ⟨1250, by norm_num, by norm_num⟩⟩

end StreamingService

import StreamingService.Lib.Strict
import StreamingService.Payments.Boot

/-!
# Payments — Acknowledge

What Daraja is answered. The controller ends with the fixed acknowledgement,
and nothing on the way to it catches an error: the callback is acknowledged
exactly when its payload can be read and the database grants each of its
statements. A delivery that loses the race for the Subscription is one of
those that are answered with an error.
-/

namespace StreamingService

open Lib

/-! ## Reading the payload -/

/-- `v == null`. -/
def JsVal.nullish : JsVal → Bool
  | none | some .null => true
  | some _ => false

/-- `v?.name`. -/
def JsVal.chain (v : JsVal) (name : String) : JsVal := (v.member name).getD none

/-- `body?.Body?.stkCallback` is there. -/
def RawWebhookRequest.hasStkCallback (request : RawWebhookRequest) : Bool :=
  !((request.body.chain "Body").chain "stkCallback").nullish

/-- A member of nothing is nothing. -/
theorem JsVal.nullish_chain {v : JsVal} (h : v.nullish = true) (name : String) :
    (v.chain name).nullish = true := by
  match v with
  | none | some .null => rfl

section

variable {β : Type} {v : JsVal} {name : String} {f : JsVal → Except Exception β}

theorem prop_bind_of_nullish (h : v.nullish = true) :
    (prop v name >>= f) = .error .typeError := by
  match v with
  | none | some .null => rfl

theorem prop_bind (h : v.nullish = false) : (prop v name >>= f) = f (v.chain name) := by
  match v with
  | some (.bool _) | some (.num _) | some (.str _) | some (.arr _) | some (.obj _) => rfl

end

section

variable {request : RawWebhookRequest}

/-- Past `stkCallback` nothing throws. -/
theorem handleWebhook_readable (h : request.hasStkCallback = true) :
    ∃ outcome, MpesaProvider.handleWebhook request = .ok outcome := by
  have hcallback : ((request.body.chain "Body").chain "stkCallback").nullish = false := by
    simpa [RawWebhookRequest.hasStkCallback] using h
  have hBody : (request.body.chain "Body").nullish = false := by
    refine Bool.eq_false_iff.mpr fun hnull => ?_
    rw [JsVal.nullish_chain hnull] at hcallback
    cases hcallback
  have hbody : request.body.nullish = false := by
    refine Bool.eq_false_iff.mpr fun hnull => ?_
    rw [JsVal.nullish_chain hnull] at hBody
    cases hBody
  unfold MpesaProvider.handleWebhook
  rw [prop_bind hbody, prop_bind hBody, prop_bind hcallback, prop_bind hcallback]
  split
  · exact ⟨_, rfl⟩
  · rw [prop_bind hcallback]
    exact ⟨_, rfl⟩

theorem handleWebhook_unreadable (h : request.hasStkCallback = false) :
    MpesaProvider.handleWebhook request = .error .typeError := by
  have hcallback : ((request.body.chain "Body").chain "stkCallback").nullish = true := by
    simpa [RawWebhookRequest.hasStkCallback] using h
  unfold MpesaProvider.handleWebhook
  cases hbody : request.body.nullish with
  | true => exact prop_bind_of_nullish hbody
  | false =>
      rw [prop_bind hbody]
      cases hBody : (request.body.chain "Body").nullish with
      | true => exact prop_bind_of_nullish hBody
      | false =>
          rw [prop_bind hBody]
          exact prop_bind_of_nullish hcallback

end

/-! ## The handler -/

def Request.isMpesaCallback : Request → Bool
  | .mpesaCallback _ _ => true
  | _ => false

/-- What the controller hands over for an M-Pesa callback. -/
def Request.mpesaWebhook : Request → Option RawWebhookRequest
  | .mpesaCallback req token =>
      some (toRawWebhookRequest req [("x-callback-token", token.orElse (some (.str "")))])
  | _ => none

/-- A callback that presents the token has a payload to read. -/
def Readable (cfg : AppConfig) (q : Request) : Prop :=
  ∀ raw, q.mpesaWebhook = some raw → MpesaProvider.verify cfg raw = true → raw.hasStkCallback = true

/-- An answer the callback's handler goes on with. -/
def LeadsOn : Prog.Entry Sig → Prop
  | ⟨.subscription (.readForActivation _), .ok found⟩ => found ≠ none
  | ⟨_, .ok _⟩ => True
  | ⟨_, .error _⟩ => False

theorem not_leadsOn_error (c : Cmd) (e : Exception) : ¬ LeadsOn ⟨c, .error e⟩ := by
  intro h
  cases c with
  | transaction c => cases c <;> exact h
  | subscription c => cases c <;> exact h
  | _ => exact h

section

variable {cfg : AppConfig} {outcome : WebhookOutcome}

theorem findForWebhook_strict (providerReference txRef : JsVal) :
    (TransactionsService.findForWebhook providerReference txRef).Strict LeadsOn
      (fun _ => True) 2 := by
  refine .perform_bind not_leadsOn_error (fun _ => trivial) ?_
  intro byReference
  cases byReference with
  | some t => exact .ok trivial
  | none =>
      refine .ite (fun _ => ?_) fun _ => .ok trivial
      exact .perform not_leadsOn_error fun _ => trivial

theorem activateFromTransaction_strict (id : String) :
    (SubscriptionsService.activateFromTransaction cfg id).Strict LeadsOn (fun _ => True) 4 := by
  refine .perform_or not_leadsOn_error ?_ ?_
  · intro found hfound
    match found with
    | none => exact absurd rfl hfound
    | some (t, some x) => exact .ok trivial
    | some (t, none) =>
        refine .perform_bind not_leadsOn_error (fun _ => trivial) fun _ => ?_
        refine .perform_bind not_leadsOn_error (fun _ => trivial) fun _ => ?_
        exact .perform not_leadsOn_error fun _ => trivial
  · intro found hfound
    match found with
    | none => exact ⟨_, rfl⟩
    | some _ =>
        refine absurd ?_ hfound
        intro h
        cases h

theorem conclude_strict (id : String) :
    (PaymentsService.conclude cfg outcome id).Strict LeadsOn (fun _ => True) 4 := by
  cases hst : outcome.status with
  | SUCCEEDED =>
      simp only [PaymentsService.conclude, hst]
      exact (activateFromTransaction_strict id).bind (n := 0) fun _ _ => .ok trivial
  | FAILED =>
      simp only [PaymentsService.conclude, hst]
      have hfailed : ∀ reason, (TransactionsService.markFailed id reason).Strict LeadsOn
          (fun _ => True) 2 := fun reason =>
        .perform_bind not_leadsOn_error (fun _ => trivial) fun _ =>
          .perform not_leadsOn_error fun _ => trivial
      exact ((hfailed _).bind (n := 0) fun _ _ => .ok trivial).le (by decide)

theorem settle_strict (t : Transaction) :
    (PaymentsService.settle cfg outcome t).Strict LeadsOn (fun _ => True) 5 := by
  refine .ite (fun _ => ?_) fun _ => (conclude_strict t.id).le (by decide)
  refine .bind (m := 1) (U := fun _ => True) ?_ fun _ _ => conclude_strict t.id
  exact .perform_bind not_leadsOn_error (fun _ => trivial) fun _ => .ok trivial

theorem applyOutcome_strict :
    (PaymentsService.applyOutcome cfg outcome).Strict LeadsOn (fun _ => True) 7 := by
  refine .bind (n := 5) (findForWebhook_strict _ _) ?_
  intro found _
  cases found with
  | none => exact .ok trivial
  | some t => exact .ite (fun _ => .ok trivial) fun _ => settle_strict t

end

section

variable {cfg : AppConfig} {q : Request}

/-- **The handler of a readable callback ends with the acknowledgement** after
at most seven statements, as long as they are answered. -/
theorem callback_strict (hq : q.isMpesaCallback = true) (hread : Readable cfg q) :
    (handle cfg q).Strict LeadsOn (fun r => r = .ack) 7 := by
  cases q with
  | mpesaCallback req token =>
      rw [handle_mpesaCallback]
      unfold webhookHandler
      -- without the token the callback is acknowledged at once
      refine .ite (fun hv => ?_) fun _ => .ok rfl
      obtain ⟨outcome, hw⟩ := handleWebhook_readable (hread _ rfl hv)
      rw [hw]
      exact applyOutcome_strict.bind (n := 0) fun _ _ => .ok rfl
  | _ => cases hq

/-- Any other callback ends before its first statement. -/
theorem callback_unreadable (hq : q.isMpesaCallback = true) (hread : ¬ Readable cfg q) :
    handle cfg q = .done (.error .typeError) := by
  simp only [Readable, not_forall, Bool.not_eq_true] at hread
  obtain ⟨raw, hraw, hv, hbad⟩ := hread
  cases q with
  | mpesaCallback req token =>
      cases hraw
      rw [handle_mpesaCallback]
      unfold webhookHandler
      rw [if_pos hv, handleWebhook_unreadable hbad]
  | _ => cases hq

end

/-! ## The statements -/

/-- The store admits a statement of a callback: its values are of the column's
type, and no unique index is violated. -/
def Admissible (cfg : AppConfig) (o : Ambient) (s : Store) : Cmd → Prop
  | .transaction (.findByReference ref) => ref.text?.isSome = true
  | .transaction (.findById id) => id.text?.isSome = true
  | .transaction (.setProviderReference id ref) =>
      ∃ f, textUpdate ref = some f ∧
        (s.transactions.update? (fun t => t.id == id) (.refer f)).isSome = true
  | .transaction (.markFailed _ _ reason) => (textUpdate reason).isSome = true
  | .subscription (.commitActivation id _ _ startAt _) =>
      (prismaDate (cfg.expiresAt startAt)).isSome = true ∧
        ∀ x ∈ s.subscriptions, x.transactionId ≠ id ∧ x.id ≠ o.fresh
  | _ => True

/-- The environment grants a statement of a callback. -/
def Granted (cfg : AppConfig) (o : Ambient) (s : Store) (c : Cmd) : Prop :=
  c = .now ∨ o.fault = none ∧ Admissible cfg o s c

/-- The rows a history has shown are stored. -/
def Remembers (s : Store) (h : List (Prog.Entry Sig)) : Prop :=
  ∀ e ∈ h, ∀ t, shown e = some t → ∃ t' ∈ s.transactions, t.SameAs t'

section

variable {cfg : AppConfig} {outcome : WebhookOutcome} {h : List (Prog.Entry Sig)} {o : Ambient}
  {s : Store}

theorem ResolvesPending.stored (hrem : Remembers s h) {id : String}
    (hres : ResolvesPending outcome h id) :
    ∃ t, s.transactions.find? (fun t => t.id == id) = some t := by
  obtain ⟨t, hshows, rfl, -⟩ := hres
  obtain ⟨e, he, hshown⟩ := hshows.shown
  obtain ⟨t', ht', hsame⟩ := hrem e he t hshown
  exact ⟨t', transactions_find? ht' hsame.id⟩

/-- The store has the user an activation names. -/
theorem ActivationPath.payer (hrem : Remembers s h) (hpay : HasPayers s) {id userId : String}
    {startAt : Millis} {expiresAt : Option Millis}
    (hpath : ActivationPath cfg outcome h id userId startAt expiresAt) :
    ∃ u, s.users.find? (fun u => u.id == userId) = some u := by
  obtain ⟨t, hread, rfl⟩ := hpath.owner
  obtain ⟨t', ht', hsame⟩ := hrem _ hread t rfl
  obtain ⟨u, hu, huser⟩ := hpay t' ht'
  exact ⟨u, users_find? hu (huser.trans hsame.userId)⟩

/-- A Subscription clashes with its id, and with one of its Transaction. -/
theorem subscriptions_insert?_iff (t : Table Subscription) (row : Subscription) :
    (∃ t', t.insert? row = some t') ↔
      ∀ x ∈ t, x.transactionId ≠ row.transactionId ∧ x.id ≠ row.id := by
  rw [← Table.admits_iff]
  simp [Table.Admits, Indexed.clash, and_comm]

/-- An activation of a stored payment of a stored user. -/
theorem commit_leadsOn_iff {id userId : String} (resolvedAt startAt : Millis)
    (expiresAt : Option Millis) {t : Transaction} {u : User}
    (hfind : s.transactions.find? (fun t => t.id == id) = some t)
    (huser : s.users.find? (fun u => u.id == userId) = some u) :
    LeadsOn ⟨Cmd.subscription (.commitActivation id userId resolvedAt startAt expiresAt),
        (answer o (.subscription (.commitActivation id userId resolvedAt startAt expiresAt)) s).1⟩ ↔
      (prismaDate expiresAt).isSome = true ∧
        ∀ x ∈ s.subscriptions, x.transactionId ≠ id ∧ x.id ≠ o.fresh := by
  simp only [answer, SubscriptionStmt.answer, hfind, huser]
  cases prismaDate expiresAt with
  | none => simp [LeadsOn, refuse]
  | some expiresAt =>
      have hiff := subscriptions_insert?_iff s.subscriptions
        ⟨o.fresh, userId, .ACTIVE, startAt, expiresAt, id⟩
      cases hins : s.subscriptions.insert?
          ⟨o.fresh, userId, .ACTIVE, startAt, expiresAt, id⟩ with
      | none =>
          rw [hins] at hiff
          simpa [LeadsOn, refuse, hins] using hiff
      | some subs =>
          rw [hins] at hiff
          simpa [LeadsOn, hins] using hiff

/-- **A statement of a delivery leads on exactly when the store admits it**: the
rows and the user it names are there. -/
theorem answer_leadsOn_iff (hrem : Remembers s h) (hpay : HasPayers s) {c : Cmd}
    {r : Except Exception c.Resp} (hstep : DeliveryStep cfg outcome h ⟨c, r⟩) :
    LeadsOn ⟨c, (answer o c s).1⟩ ↔ Admissible cfg o s c := by
  cases c with
  | now => exact Iff.rfl
  | transaction c =>
      cases c with
      | findByReference ref =>
          simp only [answer, TransactionStmt.answer, Admissible]
          cases href : ref.text? <;> simp [LeadsOn, refuse]
      | findById id =>
          simp only [answer, TransactionStmt.answer, Admissible]
          cases hid : id.text? <;> simp [LeadsOn, refuse]
      | setProviderReference id ref =>
          obtain ⟨t, hfind⟩ := hstep.2.stored hrem
          simp only [answer, TransactionStmt.answer, Admissible]
          cases href : textUpdate ref with
          | none => simp [LeadsOn, refuse]
          | some f =>
              simp only [hfind]
              cases hup : s.transactions.update? (fun t => t.id == id) (.refer f) <;>
                simp [LeadsOn, refuse, hup]
      | markFailed id resolvedAt reason =>
          obtain ⟨t, hfind⟩ := hstep.2.stored hrem
          simp only [answer, TransactionStmt.answer, Admissible]
          cases hreason : textUpdate reason <;> simp [LeadsOn, refuse, updateTransaction, hfind]
      | _ => exact hstep.elim
  | subscription c =>
      cases c with
      | readForActivation id =>
          obtain ⟨t, hfind⟩ := hstep.2.stored hrem
          simp only [answer, SubscriptionStmt.answer, Admissible, LeadsOn, hfind, Option.map_some,
            iff_true]
          intro hnone
          cases hnone
      | commitActivation id userId resolvedAt startAt expiresAt =>
          obtain ⟨t, hfind⟩ := hstep.resolved.stored hrem
          obtain ⟨u, huser⟩ := hstep.payer hrem hpay
          obtain rfl : expiresAt = cfg.expiresAt startAt := hstep.period
          exact commit_leadsOn_iff resolvedAt startAt _ hfind huser
      | _ => exact hstep.elim
  | _ => exact hstep.elim

/-- The clock is always read; anything else may fail before the store is asked. -/
theorem exec_leadsOn_iff (hrem : Remembers s h) (hpay : HasPayers s) {c : Cmd}
    {r : Except Exception c.Resp} (hstep : DeliveryStep cfg outcome h ⟨c, r⟩) :
    LeadsOn ⟨c, (exec o c s).1⟩ ↔ Granted cfg o s c := by
  by_cases hc : c = .now
  · subst hc
    exact iff_of_true trivial (.inl rfl)
  · simp only [Granted, hc, false_or]
    cases hfault : o.fault with
    | none =>
        rw [exec_answer hfault, answer_leadsOn_iff hrem hpay hstep]
        simp
    | some e =>
        rw [exec_fault hfault c s hc]
        exact iff_of_false (not_leadsOn_error c e) (by simp)

end

/-! ## Every run -/

/-- Every M-Pesa callback that has ended was answered with the acknowledgement. -/
def Acknowledges (sys : AppState) : Prop :=
  ∀ (tid : Nat) (q : Request) (r : Except Exception Reply), sys.threads[tid]? = some ⟨q, .done r⟩ →
    q.isMpesaCallback = true → r = .ok .ack

/-- The action lets every M-Pesa callback go on: one that begins can be read,
and a statement of one is granted. -/
def KeepsAck (cfg : AppConfig) (sys : AppState) : Action Ambient Request → Prop
  | .begin q => Readable cfg q
  | .step tid o => ∀ q c k, sys.threads[tid]? = some ⟨q, .call c k⟩ → q.isMpesaCallback = true →
      Granted cfg o sys.store c

section

variable {cfg : AppConfig} {s : Store} {a b : AppState}

theorem remembers_run {ok : AppState → Action Ambient Request → Prop}
    (hr : (app cfg).Run ok (Machine.start s) b) (tid : Nat) :
    Remembers b.store (own tid b.trace) := by
  intro e he t ht
  refine Machine.Run.answers (K := fun s e => ∀ t, shown e = some t → ∃ t' ∈ s.transactions,
    t.SameAs t') ?_ ?_ hr tid e (mem_own.mp he) t ht
  · intro o c s t ht
    exact ⟨t, (exec_answers o c s).shown_mem ht, .refl t⟩
  · intro o c s e h t ht
    obtain ⟨t', ht', hsame⟩ := h t ht
    obtain ⟨t'', ht'', hsame'⟩ := (exec_ledger o c s).row ht'
    exact ⟨t'', ht'', hsame.trans hsame'⟩

theorem isMpesaCallback_of_not_readable {q : Request} (h : ¬ Readable cfg q) :
    q.isMpesaCallback = true := by
  cases q with
  | mpesaCallback req token => rfl
  | _ =>
      refine absurd ?_ h
      intro raw hraw
      cases hraw

/-- The statement a callback is about to perform leads on exactly when it is
granted. -/
theorem callback_leadsOn_iff (hpay : HasPayers s)
    (hr : (app cfg).Run anyAction (Machine.start s) a) {tid : Nat} {q : Request} {c : Cmd}
    {k : Except Exception c.Resp → App Reply} (hth : a.threads[tid]? = some ⟨q, .call c k⟩)
    (hq : q.isMpesaCallback = true) (o : Ambient) :
    LeadsOn ⟨c, (exec o c a.store).1⟩ ↔ Granted cfg o a.store c := by
  have hdelivery : q.isDelivery = true := by
    cases q with
    | mpesaCallback req token => rfl
    | _ => cases hq
  obtain ⟨outcome, -, hstep⟩ := (Machine.Run.owes (handle_emits cfg) hr hth
    (exec o c a.store).1).delivery hdelivery
  exact exec_leadsOn_iff (remembers_run hr tid) (hpay.run hr) hstep

/-- What is left of a callback's thread. -/
theorem callback_settles {ok : AppState → Action Ambient Request → Prop}
    (hr : (app cfg).Run ok (Machine.start s) a) {tid : Nat} {q : Request} {p : App Reply}
    (hth : a.threads[tid]? = some ⟨q, p⟩) (hq : q.isMpesaCallback = true) :
    ∃ left, (own tid a.trace).length + left = 7 ∧
      Machine.Settles LeadsOn (fun r => r = Reply.ack) left p := by
  refine Machine.Run.settles (C := fun q => q.isMpesaCallback = true) ?_ hr hth hq
  intro q hq
  by_cases hread : Readable cfg q
  · exact .inl (callback_strict hq hread)
  · exact .inr ⟨_, callback_unreadable hq hread⟩

/-- A beginning keeps the acknowledgement exactly when the callback can be read. -/
theorem acknowledges_begin_iff (hack : Acknowledges a) {q : Request}
    (hn : (app cfg).next a (.begin q) = some b) : Acknowledges b ↔ Readable cfg q := by
  cases hn
  constructor
  · intro hb
    by_contra hread
    have hq := isMpesaCallback_of_not_readable hread
    have hended := callback_unreadable hq hread
    cases hb a.threads.length q (.error .typeError) (by simp [app, hended]) hq
  · intro hread tid q' r hth hq
    rcases Machine.begun_cases hth with hth | ⟨-, hnew⟩
    · exact hack tid q' r hth hq
    · obtain ⟨rfl, hended⟩ := Thread.mk.inj hnew
      have hstrict := callback_strict hq hread
      rw [show handle cfg q' = .done r from hended.symm, Prog.Strict.done_iff] at hstrict
      obtain ⟨_, rfl, rfl⟩ := hstrict
      rfl

/-- What a callback's statement leads to: the rest of a strict program, or the
end with an error. -/
theorem callback_after (hr : (app cfg).Run anyAction (Machine.start s) a) {tid : Nat} {q : Request}
    {c : Cmd} {k : Except Exception c.Resp → App Reply}
    (hth : a.threads[tid]? = some ⟨q, .call c k⟩) (hq : q.isMpesaCallback = true)
    (r : Except Exception c.Resp) :
    (LeadsOn ⟨c, r⟩ → ∃ left, (k r).Strict LeadsOn (fun r => r = Reply.ack) left) ∧
      (¬ LeadsOn ⟨c, r⟩ → ∃ e, k r = .done (.error e)) := by
  obtain ⟨_, -, hstrict | ⟨e, he⟩⟩ := callback_settles hr hth hq
  · obtain ⟨left, -, hk⟩ := Prog.Strict.call_iff.mp hstrict
    exact ⟨fun hleads => ⟨left, (hk r).1 hleads⟩, (hk r).2⟩
  · cases he

/-- A statement keeps it exactly when it is granted, or no callback's. -/
theorem acknowledges_step_iff (hpay : HasPayers s)
    (hr : (app cfg).Run anyAction (Machine.start s) a) (hack : Acknowledges a) {tid : Nat}
    {o : Ambient} {q : Request} {c : Cmd} {k : Except Exception c.Resp → App Reply}
    (hth : a.threads[tid]? = some ⟨q, .call c k⟩)
    (hn : (app cfg).next a (.step tid o) = some b) :
    Acknowledges b ↔ (q.isMpesaCallback = true → Granted cfg o a.store c) := by
  simp only [Machine.next, hth, Option.some.injEq] at hn
  subst hn
  have hlt := (List.getElem?_eq_some_iff.mp hth).1
  constructor
  · intro hb hq
    by_contra hrefused
    rw [← callback_leadsOn_iff hpay hr hth hq o] at hrefused
    obtain ⟨e, he⟩ := (callback_after hr hth hq _).2 hrefused
    have hended : (a.threads.set tid ⟨q, k (exec o c a.store).1⟩)[tid]? =
        some ⟨q, .done (.error e)⟩ := by
      rw [List.getElem?_set_self hlt, he]
    cases hb tid q (.error e) hended hq
  · intro hgranted tid' q' r hth' hq
    by_cases htid : tid = tid'
    · subst htid
      rw [List.getElem?_set_self hlt] at hth'
      obtain ⟨rfl, hended⟩ := Thread.mk.inj (Option.some.inj hth')
      have hleads := (callback_leadsOn_iff hpay hr hth hq o).mpr (hgranted hq)
      obtain ⟨left, hstrict⟩ := (callback_after hr hth hq _).1 hleads
      rw [show k (exec o c a.store).1 = .done r from hended, Prog.Strict.done_iff] at hstrict
      obtain ⟨_, rfl, rfl⟩ := hstrict
      rfl
    · rw [List.getElem?_set_ne htid] at hth'
      exact hack tid' q' r hth' hq

/-- **One action keeps the acknowledgement exactly when it lets every callback
go on.** -/
theorem acknowledges_next_iff (hpay : HasPayers s)
    (hr : (app cfg).Run anyAction (Machine.start s) a) (hack : Acknowledges a)
    {act : Action Ambient Request} (hn : (app cfg).next a act = some b) :
    Acknowledges b ↔ KeepsAck cfg a act := by
  rcases (app cfg).next_cases hn with ⟨q, rfl, -⟩ | ⟨tid, o, q, c, k, rfl, hth, -⟩
  · exact acknowledges_begin_iff hack hn
  · rw [acknowledges_step_iff hpay hr hack hth hn]
    constructor
    · intro h q' c' k' hth' hq
      rw [hth] at hth'
      cases hth'
      exact h hq
    · intro h hq
      exact h q c k hth hq

/-- An answer given stays given. -/
theorem Acknowledges.before {act : Action Ambient Request} (hn : (app cfg).next a act = some b)
    (hb : Acknowledges b) : Acknowledges a := by
  intro tid q r hth hq
  have hlt := (List.getElem?_eq_some_iff.mp hth).1
  rcases (app cfg).next_cases hn with ⟨q', rfl, rfl⟩ | ⟨t, o, q', c, k, rfl, ht, rfl⟩
  · exact hb tid q r (by rw [List.getElem?_append_left hlt]; exact hth) hq
  · have hne : t ≠ tid := by
      rintro rfl
      rw [ht] at hth
      cases hth
    exact hb tid q r (by rw [List.getElem?_set_ne hne]; exact hth) hq

end

/-! ## The guarantee -/

/-- **The callback is acknowledged exactly in the runs that let it go on**: every
M-Pesa callback that has ended was answered with the acknowledgement exactly when
each callback that began could be read and each of its statements was granted.
No callback takes more than seven statements to its end. -/
theorem mpesa_callback_acknowledges_iff (cfg : AppConfig) {s : Store} (hpay : HasPayers s)
    {b : AppState} (hr : (app cfg).Run anyAction (Machine.start s) b) :
    (Acknowledges b ↔ (app cfg).Run (KeepsAck cfg) (Machine.start s) b) ∧
    ∀ tid q p, b.threads[tid]? = some ⟨q, p⟩ → q.isMpesaCallback = true →
      (own tid b.trace).length ≤ 7 := by
  constructor
  · refine hr.holds_iff (fun _ _ _ => trivial) ?_ ?_ ?_
    · intro tid q r hth
      simp [Machine.start] at hth
    · intro c act d hn hd
      exact hd.before hn
    · intro c act d hrc hc hn
      exact acknowledges_next_iff hpay hrc hc hn
  · intro tid q p hth hq
    obtain ⟨left, hlen, -⟩ := callback_settles hr hth hq
    omega

def isAck : Except Exception Reply → Bool
  | .ok .ack => true
  | _ => false

theorem isAck_iff {r : Except Exception Reply} : isAck r = true ↔ r = .ok .ack := by
  constructor
  · intro h
    unfold isAck at h
    split at h
    · rfl
    · cases h
  · rintro rfl
    rfl

/-- The thread does not break the acknowledgement. -/
def acked (th : Thread Sig Request Reply) : Bool :=
  match th.prog with
  | .done r => !th.request.isMpesaCallback || isAck r
  | .call _ _ => true

/-- The acknowledgement of a state, by evaluation. -/
theorem acknowledges_iff {sys : AppState} : Acknowledges sys ↔ sys.threads.all acked = true := by
  rw [List.all_eq_true]
  constructor
  · rintro hack ⟨q, p⟩ hmem
    obtain ⟨tid, hth⟩ := List.mem_iff_getElem?.mp hmem
    cases p with
    | call c k => rfl
    | done r =>
        by_cases hq : q.isMpesaCallback = true
        · simp [acked, isAck_iff.mpr (hack tid q r hth hq)]
        · simp [acked, hq]
  · intro hall tid q r hth hq
    have hacked := hall _ (List.mem_of_getElem? hth)
    simpa [acked, hq, isAck_iff] using hacked

/-- A callback with the token and an empty object as its body. -/
def emptyCallback : Request :=
  .mpesaCallback { headers := fun _ => none, body := some (.obj []) } (some (.str "callback-token"))

/-- Two deliveries of `ws-1`'s success, both past their reads before either commits. -/
def sampleRace : List (Action Ambient Request) :=
  [.step 1 (.quiet 1004), .begin (sampleCallback "0" "ws-1"), .begin (sampleCallback "0" "ws-1"),
    .step 2 (.quiet 5000), .step 2 (.quiet 5001), .step 2 (.quiet 5002), .step 2 (.quiet 5003),
    .step 3 (.quiet 5000), .step 3 (.quiet 5001), .step 3 (.quiet 5002), .step 3 (.quiet 5003),
    .step 2 ((Ambient.quiet 5004).generating "sub-1"),
    .step 3 ((Ambient.quiet 5004).generating "sub-2")]

theorem emptyCallback_ended :
    handle sampleConfig emptyCallback = .done (.error .typeError) := by
  refine callback_unreadable rfl fun hread => ?_
  have hpresent := hread _ rfl (by decide +kernel)
  revert hpresent
  decide +kernel

/-- A payload without `Body` is answered with an error, and so is the loser of a
race for the Subscription. -/
theorem callback_answers_error :
    (∃ b : AppState, (app sampleConfig).Run anyAction (Machine.start .empty) b ∧
      b.threads[0]? = some ⟨emptyCallback, .done (.error .typeError)⟩ ∧ ¬ Acknowledges b) ∧
    ∃ b : AppState, (app sampleConfig).Run anyAction (Machine.start .empty) b ∧
      ¬ Acknowledges b := by
  constructor
  · have hth : [(⟨emptyCallback, handle sampleConfig emptyCallback⟩ :
        Thread Sig Request Reply)][0]? = some ⟨emptyCallback, .done (.error .typeError)⟩ := by
      rw [emptyCallback_ended]
      rfl
    have hn : (app sampleConfig).next (Machine.start .empty) (.begin emptyCallback) =
        some ⟨.empty, [⟨emptyCallback, handle sampleConfig emptyCallback⟩],
          [.began 0 emptyCallback]⟩ := rfl
    refine ⟨_, Machine.Run.refl.step trivial hn, hth, ?_⟩
    intro hack
    cases hack 0 emptyCallback _ hth rfl
  · obtain ⟨b, hr, hb⟩ := Machine.exists_run_of_replay (m := app sampleConfig)
      (a := Machine.start .empty) anyAction (sampleRegistration ++ samplePush ++ sampleRace)
      (fun b => !b.threads.all acked) (by decide +kernel)
    refine ⟨b, hr, ?_⟩
    rw [acknowledges_iff]
    simpa using hb

/-- A callback that has ended. -/
def endedCallback (th : Thread Sig Request Reply) : Bool :=
  match th.prog with
  | .done _ => th.request.isMpesaCallback
  | .call _ _ => false

/-- The delivery of a success, from start to end. -/
theorem mpesa_callback_acknowledges_sample :
    ∃ (b : AppState) (q : Request),
      (app sampleConfig).Run (KeepsAck sampleConfig) (Machine.start .empty) b ∧
      b.threads[2]? = some ⟨q, .done (.ok .ack)⟩ ∧ q.isMpesaCallback = true ∧
      (own 2 b.trace).length ≤ 7 := by
  obtain ⟨b, hr, hb⟩ := Machine.exists_run_of_replay (m := app sampleConfig)
    (a := Machine.start .empty) anyAction (sampleRegistration ++ samplePush ++ sampleActivation)
    (fun b => b.threads.all acked && b.threads[2]?.any endedCallback) (by decide +kernel)
  simp only [Bool.and_eq_true, Option.any_eq_true] at hb
  obtain ⟨hall, ⟨q, p⟩, hth, hended⟩ := hb
  have hack := acknowledges_iff.mpr hall
  have hpay : HasPayers Store.empty := .of_empty rfl
  obtain ⟨hiff, hends⟩ := mpesa_callback_acknowledges_iff sampleConfig hpay hr
  cases p with
  | call c k => cases hended
  | done r =>
      have hlength := hends 2 q _ hth hended
      obtain rfl := hack 2 q r hth hended
      exact ⟨b, q, hiff.mp hack, hth, hended, hlength⟩

end StreamingService

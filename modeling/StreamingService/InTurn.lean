import StreamingService.Auth.Reuse
import StreamingService.Lib.InTurn
import StreamingService.Payments.Attribution
import StreamingService.Payments.Sweep
import StreamingService.Reach

/-!
# InTurn

Requests served in turn. A status is final, a user has one payment pending, a
reference never changes and a token family never forks on conditions that each
statement by id alone has to meet. When no two requests overlap the handlers meet
them all: the row a statement overwrites is the row its own handler has read. So
it takes a statement of another request in between to break one of them.
-/

namespace StreamingService

open Lib

/-! ## The condition -/

/-- The row a statement writes is as its handler has read it. -/
structure Undisturbed (s : Store) (e : Prog.Entry Sig) : Prop where
  settles : SettlesPending s e
  alone : CreatesAlone s e
  refers : ∀ row, referredRow e = some row → ∀ t ∈ s.transactions, t.id = row.id →
    PaymentsService.lacksReference t = true
  spends : ∀ id, spent e = some id → ∀ r ∈ s.refreshTokens, r.id = id → r.revokedAt = none

/-- The statements that rely on an earlier one. -/
def Cmd.relies : Cmd → Bool
  | .transaction (.create _ _ _) | .transaction (.setProviderReference _ _) => true
  | .transaction (.markFailed _ _ _) | .transaction (.markTimedOut _ _) => true
  | .subscription (.commitActivation _ _ _ _ _) | .account (.revokeToken _ _) => true
  | _ => false

/-- The row `id`, if it is stored, is `PENDING`. -/
def PendingAt (id : String) (s : Store) : Prop :=
  ∀ t ∈ s.transactions, t.id = id → t.status = .PENDING

/-- The row `id`, if it is stored, has no reference yet. -/
def LacksAt (id : String) (s : Store) : Prop :=
  ∀ t ∈ s.transactions, t.id = id → PaymentsService.lacksReference t = true

section

variable {o : Ambient} {s s' : Store} {e : Prog.Entry Sig} {id : String}

theorem statusWrite_of_other (he : e.1.relies = false) : statusWrite e = none := by
  unfold statusWrite
  split <;> first | cases he | rfl

theorem referredRow_of_other (he : e.1.relies = false) : referredRow e = none := by
  unfold referredRow
  split <;> first | cases he | rfl

namespace Undisturbed

theorem of_other (he : e.1.relies = false) : Undisturbed s e where
  settles := by
    intro id status resolvedAt hw
    rw [statusWrite_of_other he] at hw
    cases hw
  alone := by
    intro userId hfor
    unfold createdFor at hfor
    split at hfor <;> first | cases he | cases hfor
  refers := by
    intro row hrow
    rw [referredRow_of_other he] at hrow
    cases hrow
  spends := by
    intro id hspent
    unfold spent at hspent
    split at hspent <;> first | cases he | cases hspent

/-- A write of a status. -/
theorem of_pending (hp : PendingAt id s) (hw : ∀ w ∈ statusWrite e, w.1 = id)
    (hfor : createdFor e = none) (hrow : referredRow e = none) (hspent : spent e = none) :
    Undisturbed s e where
  settles := by
    intro id' status resolvedAt hwrite t ht hid
    exact .inl (hp t ht (hid.trans (hw _ hwrite)))
  alone := fun _ h => by rw [hfor] at h; cases h
  refers := fun _ h => by rw [hrow] at h; cases h
  spends := fun _ h => by rw [hspent] at h; cases h

theorem markFailed (hp : PendingAt id s) {resolvedAt : Millis} {reason : JsVal}
    (r : Except Exception Transaction) :
    Undisturbed s ⟨.transaction (.markFailed id resolvedAt reason), r⟩ := by
  refine of_pending hp ?_ rfl rfl rfl
  intro w hw
  cases r <;> cases hw
  rfl

theorem markTimedOut (hp : PendingAt id s) {resolvedAt : Millis}
    (r : Except Exception Transaction) :
    Undisturbed s ⟨.transaction (.markTimedOut id resolvedAt), r⟩ := by
  refine of_pending hp ?_ rfl rfl rfl
  intro w hw
  cases r <;> cases hw
  rfl

theorem commitActivation (hp : PendingAt id s) {userId : String} {resolvedAt startAt : Millis}
    {expiresAt : Option Millis} (r : Except Exception Subscription) :
    Undisturbed s
      ⟨.subscription (.commitActivation id userId resolvedAt startAt expiresAt), r⟩ := by
  refine of_pending hp ?_ rfl rfl rfl
  intro w hw
  cases r <;> cases hw
  rfl

/-- An insert after a conflict check that found nothing. -/
theorem create {userId : String} {method : PaymentMethod} {amount : Option Rat}
    (hnone : ∀ t ∈ s.transactions, t.userId = userId → t.status ≠ .PENDING)
    (r : Except Exception Transaction) :
    Undisturbed s ⟨.transaction (.create userId method amount), r⟩ where
  settles := fun _ _ _ h => nomatch h
  alone := by
    intro userId' hfor
    cases r <;> cases hfor
    exact hnone
  refers := fun _ h => nomatch h
  spends := fun _ h => nomatch h

/-- The first reference of a row. -/
theorem setProviderReference (hl : LacksAt id s) {ref : JsVal} (o : Ambient) :
    Undisturbed s ⟨.transaction (.setProviderReference id ref),
      (exec o (.transaction (.setProviderReference id ref)) s).1⟩ where
  settles := fun _ _ _ h => nomatch h
  alone := fun _ h => nomatch h
  refers := by
    intro row hrow t ht hid
    refine hl t ht (hid.trans ?_)
    have hstep := exec_ledger o (.transaction (.setProviderReference id ref)) s
    cases hout : (exec o (.transaction (.setProviderReference id ref)) s).1 with
    | error e =>
        rw [hout] at hrow
        cases hrow
    | ok row' =>
        rw [hout] at hrow hstep
        cases hrow
        cases hstep with
        | quiet hquiet _ _ => cases hquiet
        | refer _ _ htid _ _ => exact htid
  spends := fun _ h => nomatch h

/-- A revocation of a row that is not revoked. -/
theorem revokeToken (hlive : ∀ r ∈ s.refreshTokens, r.id = id → r.revokedAt = none)
    {revokedAt : Millis} (r : Except Exception Unit) :
    Undisturbed s ⟨.account (.revokeToken id revokedAt), r⟩ where
  settles := fun _ _ _ h => nomatch h
  alone := fun _ h => nomatch h
  refers := fun _ h => nomatch h
  spends := by
    intro id' hspent
    cases r <;> cases hspent
    exact hlive

end Undisturbed

/-! ## What a handler has read stays so -/

/-- Only a write of its own status makes a row leave `PENDING`. -/
theorem LedgerStep.pendingAt (h : LedgerStep o s s' e) (hw : ∀ w ∈ statusWrite e, w.1 ≠ id)
    (hp : PendingAt id s) : PendingAt id s' := by
  -- an update of another row
  have other : ∀ {id' : String} {f : Transaction → Transaction}, RowUpdated s s' id' f →
      id' ≠ id → (∀ t : Transaction, (f t).id = t.id) → PendingAt id s' := by
    intro id' f hrows hne hf t' ht' hid
    rcases hrows.cases ht' with ⟨t, ht, htid, rfl⟩ | ⟨ht, -⟩
    · exact absurd (htid.symm.trans ((hf t).symm.trans hid)) hne
    · exact hp t' ht hid
  cases h with
  | quiet _ hts _ =>
      unfold PendingAt
      rw [hts]
      exact hp
  | create _ _ hts _ =>
      intro t ht hid
      rcases (Table.mem_insert? hts).mp ht with hold | rfl
      · exact hp t hold hid
      · rfl
  | refer _ _ _ hrows _ =>
      intro t' ht' hid
      rcases hrows.cases ht' with ⟨t, ht, -, rfl⟩ | ⟨ht, -⟩
      · exact hp t ht hid
      · exact hp t' ht hid
  | fail _ _ _ hrows _ => exact other hrows (hw _ rfl) fun _ => rfl
  | timeOut _ _ hrows _ => exact other hrows (hw _ rfl) fun _ => rfl
  | activate _ _ _ hrows _ => exact other hrows (hw _ rfl) fun _ => rfl

/-- A statement that writes no status. -/
theorem PendingAt.exec (hp : PendingAt id s) {c : Cmd} {r : Except Exception c.Resp}
    (hout : exec o c s = (r, s')) (hw : statusWrite ⟨c, r⟩ = none) : PendingAt id s' := by
  have hstep := exec_ledger o c s
  rw [hout] at hstep
  refine hstep.pendingAt ?_ hp
  rw [hw]
  intro w hmem
  cases hmem

/-- Only a reference written to it makes a row have one. -/
theorem LedgerStep.lacksAt (h : LedgerStep o s s' e) (hrow : referredRow e = none)
    (hl : LacksAt id s) : LacksAt id s' := by
  have kept : ∀ {id' : String} {f : Transaction → Transaction}, RowUpdated s s' id' f →
      (∀ t : Transaction, (f t).id = t.id ∧ (f t).providerReference = t.providerReference) →
      LacksAt id s' := by
    intro id' f hrows hf t' ht' hid
    rcases hrows.cases ht' with ⟨t, ht, -, rfl⟩ | ⟨ht, -⟩
    · have hlacks := hl t ht ((hf t).1.symm.trans hid)
      unfold PaymentsService.lacksReference at hlacks ⊢
      rw [(hf t).2]
      exact hlacks
    · exact hl t' ht hid
  cases h with
  | quiet _ hts _ =>
      unfold LacksAt
      rw [hts]
      exact hl
  | create _ _ hts _ =>
      intro t ht hid
      rcases (Table.mem_insert? hts).mp ht with hold | rfl
      · exact hl t hold hid
      · rfl
  | refer _ _ _ _ _ => cases hrow
  | fail _ _ _ hrows _ => exact kept hrows fun _ => ⟨rfl, rfl⟩
  | timeOut _ _ hrows _ => exact kept hrows fun _ => ⟨rfl, rfl⟩
  | activate _ _ _ hrows _ => exact kept hrows fun _ => ⟨rfl, rfl⟩

/-- A stored `PENDING` row. -/
theorem PendingAt.of_mem {t : Transaction} (ht : t ∈ s.transactions) (hst : t.status = .PENDING) :
    PendingAt t.id s := by
  intro t' ht' hid
  rw [transactions_eq_of_id ht' ht hid]
  exact hst

theorem LacksAt.of_mem {t : Transaction} (ht : t ∈ s.transactions)
    (hlacks : PaymentsService.lacksReference t = true) : LacksAt t.id s := by
  intro t' ht' hid
  rw [transactions_eq_of_id ht' ht hid]
  exact hlacks

/-- The row that an initiation inserts. -/
theorem created_at {userId : String} {method : PaymentMethod} {amount : Option Rat}
    {t : Transaction}
    (h : exec o (.transaction (.create userId method amount)) s = (.ok t, s')) :
    PendingAt t.id s' ∧ LacksAt t.id s' := by
  have hstep := exec_ledger o (.transaction (.create userId method amount)) s
  rw [h] at hstep
  cases hstep with
  | quiet hquiet _ _ => cases hquiet
  | create _ _ hts _ =>
      have hmem : Transaction.pending o userId method _ ∈ s'.transactions :=
        (Table.mem_insert? hts).mpr (.inr rfl)
      exact ⟨.of_mem hmem rfl, .of_mem hmem rfl⟩

/-- The other statements leave a row as it has been read. -/
theorem exec_reads {c : Cmd} (hc : c.relies = false)
    (h : PendingAt id s ∧ LacksAt id s) :
    PendingAt id (exec o c s).2 ∧ LacksAt id (exec o c s).2 := by
  have hp : PendingAt id (exec o c s).2 := h.1.exec rfl (statusWrite_of_other hc)
  exact ⟨hp, (exec_ledger o c s).lacksAt (referredRow_of_other hc) h.2⟩

end

/-! ## The handlers -/

/-- Run alone from `s`, every statement of the program finds its row as read; and the
end satisfies `R`. -/
abbrev AsRead {α : Type} (R : Except Exception α → Store → Prop) (p : App α) (s : Store) : Prop :=
  p.Meets exec Undisturbed R s

section

variable {cfg : AppConfig} {s : Store} {id : String} {α : Type}

/-- A statement that relies on none before it. -/
theorem AsRead.other {R : Except Exception α → Store → Prop} {c : Cmd} {f : c.Resp → App α}
    (hc : c.relies = false) (hok : ∀ o a s', exec o c s = (.ok a, s') → AsRead R (f a) s')
    (herr : ∀ o e s', exec o c s = (.error e, s') → R (.error e) s') :
    AsRead R (Prog.perform c >>= f) s :=
  .perform_bind (fun _ => .of_other hc) hok herr

/-- The clock changes nothing. -/
theorem AsRead.now {R : Except Exception α → Store → Prop} {f : Millis → App α}
    (hok : ∀ t, AsRead R (f t) s) : AsRead R (Prog.perform (S := Sig) Cmd.now >>= f) s := by
  refine .other rfl (fun o t s' hout => ?_) fun o e s' hout => ?_
  · cases hout
    exact hok o.now
  · cases hout

/-- Behind `JwtAuthGuard`, with a verified bearer. -/
theorem AsRead.guard {R : Except Exception α → Store → Prop} {f : JwtAccessPayload → App α}
    {user : JwtAccessPayload} (hf : AsRead R (f user) s) :
    AsRead R (jwtAuthGuard (some user) >>= f) s := hf

theorem AsRead.of_calls {p : App α} (hp : p.Calls fun c : Cmd => c.relies = false) :
    AsRead (fun _ _ => True) p s :=
  Prog.Meets.of_calls (I := fun _ => True) hp (fun _ _ _ hc _ => ⟨.of_other hc, trivial⟩) trivial

theorem markFailed_asRead (hp : PendingAt id s) (reason : JsVal) :
    AsRead (fun _ _ => True) (TransactionsService.markFailed id reason) s :=
  .now fun _ _ => ⟨.markFailed hp _, trivial⟩

/-- The answered row, if it is found, is stored. -/
theorem findForWebhook_asRead (outcome : WebhookOutcome) :
    AsRead (fun r s => ∀ t, r = .ok (some t) → t ∈ s.transactions)
      (TransactionsService.findForWebhook outcome.providerReference outcome.txRef) s := by
  -- what a lookup has shown
  have stored : ∀ {o : Ambient} {c : Cmd} {a : c.Resp} {s s' : Store} {t : Transaction},
      exec o c s = (.ok a, s') → shown ⟨c, .ok a⟩ = some t → t ∈ s'.transactions := by
    intro o c a s s' t hout hshown
    have hanswers := exec_answers o c s
    rw [hout] at hanswers
    exact hanswers.shown_mem hshown
  refine .other rfl (fun o found s' hout => ?_) (fun _ _ _ _ t h => nomatch h)
  cases found with
  | some t =>
      intro t' heq
      cases heq
      exact stored hout rfl
  | none =>
      refine .ite (fun _ => ?_) fun _ t h => nomatch h
      refine fun o => ⟨.of_other rfl, fun t heq => ?_⟩
      exact stored (Prod.ext heq rfl) rfl

theorem activateFromTransaction_asRead (hp : PendingAt id s) :
    AsRead (fun _ _ => True) (SubscriptionsService.activateFromTransaction cfg id) s := by
  refine .other rfl (fun o found s' hout => ?_) fun _ _ _ _ => trivial
  have hp' : PendingAt id s' := hp.exec hout rfl
  match found with
  | none => trivial
  | some (t, some x) => trivial
  | some (t, none) =>
      refine .now fun resolvedAt => .now fun startAt => ?_
      exact fun _ => ⟨.commitActivation hp' _, trivial⟩

theorem conclude_asRead (outcome : WebhookOutcome) (hp : PendingAt id s) :
    AsRead (fun _ _ => True) (PaymentsService.conclude cfg outcome id) s := by
  cases hst : outcome.status with
  | SUCCEEDED =>
      simp only [PaymentsService.conclude, hst]
      exact .bind (activateFromTransaction_asRead hp) (fun _ _ _ => trivial) fun _ _ _ => trivial
  | FAILED =>
      simp only [PaymentsService.conclude, hst]
      exact .bind (markFailed_asRead hp _) (fun _ _ _ => trivial) fun _ _ _ => trivial

theorem settle_asRead (outcome : WebhookOutcome) {t : Transaction} (ht : t ∈ s.transactions)
    (hst : t.status = .PENDING) :
    AsRead (fun _ _ => True) (PaymentsService.settle cfg outcome t) s := by
  refine .ite (fun hlacks => ?_) fun _ => conclude_asRead outcome (.of_mem ht hst)
  refine .bind (R := fun _ s' => PendingAt t.id s') ?_
    (fun _ _ hp => conclude_asRead outcome hp) fun _ _ _ => trivial
  -- the reference is written to the row that was read, and leaves its status
  have hp : PendingAt t.id s := .of_mem ht hst
  exact .perform_bind (Undisturbed.setProviderReference (.of_mem ht hlacks))
    (fun _ _ _ hout => hp.exec hout rfl) fun _ _ _ hout => hp.exec hout rfl

theorem applyOutcome_asRead (outcome : WebhookOutcome) :
    AsRead (fun _ _ => True) (PaymentsService.applyOutcome cfg outcome) s := by
  refine .bind (findForWebhook_asRead outcome) ?_ fun _ _ _ => trivial
  intro found s' hstored
  cases found with
  | none => trivial
  | some t =>
      refine .ite (fun _ => trivial) fun hst => ?_
      exact settle_asRead outcome (hstored t rfl) (by simpa using hst)

/-- The row of a new payment has its own conflict check right before it. -/
theorem createPending_asRead (userId : String) (method : PaymentMethod) :
    AsRead (fun r s => ∀ t, r = .ok t → PendingAt t.id s ∧ LacksAt t.id s)
      (TransactionsService.createPending cfg userId method) s := by
  refine .other rfl (fun o existing s' hout => ?_) fun _ _ _ _ t h => nomatch h
  refine .ite (fun _ t h => nomatch h) fun hnone => ?_
  intro o'
  refine ⟨.create ?_ _, fun t ht => created_at (Prod.ext ht rfl)⟩
  -- the check found nothing in the store of the insert
  intro t ht huser hpending
  cases exec_ok hout
  have hfind := Table.find?_eq_none.mp (Option.not_isSome_iff_eq_none.mp hnone) t ht
  simp [huser, hpending] at hfind

/-- A call of the provider leaves the new row as it is. -/
theorem provider_asRead {p : App α} (hp : p.Calls (Within Cmd.ofProvider))
    (h : PendingAt id s ∧ LacksAt id s) :
    AsRead (fun _ s => PendingAt id s ∧ LacksAt id s) p s := by
  refine Prog.Meets.of_calls (A := Within Cmd.ofProvider) hp ?_ h
  intro o c s hc h
  have hother : c.relies = false := by
    cases c with
    | service c => rfl
    | _ => cases hc
  exact ⟨.of_other hother, exec_reads hother h⟩

/-- A failed initiation fails the row it has made. -/
theorem failed_asRead (hp : PendingAt id s) (reason : JsVal) (err : Exception) :
    AsRead (fun _ _ => True) (TransactionsService.markFailed id reason >>= fun _ =>
      (throw err : App α)) s :=
  .bind (markFailed_asRead hp reason) (fun _ _ _ => trivial) fun _ _ _ => trivial

theorem initiateMpesa_asRead (userId userEmail phoneNumber : String) :
    AsRead (fun _ _ => True)
      (PaymentsService.initiateMpesa cfg userId userEmail phoneNumber) s := by
  refine .bind (createPending_asRead userId .MPESA) (fun t s' hcreated => ?_) fun _ _ _ => trivial
  obtain ⟨hp, hl⟩ := hcreated t rfl
  refine .bind (R := fun _ _ => True) ?_ (fun _ _ _ => trivial) fun _ _ _ => trivial
  refine .catchErr (R := fun r s => ∀ e, r = .error e → PendingAt t.id s) ?_
    (fun _ _ _ => trivial) fun err _ hp => failed_asRead (hp err rfl) _ err
  refine .bind (provider_asRead (mpesaProvider_calls cfg _) ⟨hp, hl⟩) ?_ fun _ _ h _ _ => h.1
  intro result s₁ h
  refine .ite (fun _ => ?_) fun _ e heq => nomatch heq
  exact .perform_bind (Undisturbed.setProviderReference h.2) (fun _ _ _ _ e heq => nomatch heq)
    fun _ _ _ hout _ _ => h.1.exec hout rfl

theorem initiateBankGateway_asRead (userId userEmail : String) :
    AsRead (fun _ _ => True) (PaymentsService.initiateBankGateway cfg userId userEmail) s := by
  refine .bind (createPending_asRead userId .BANK_GATEWAY) (fun t s' hcreated => ?_)
    fun _ _ _ => trivial
  refine .catchErr (R := fun r s => ∀ e, r = .error e → PendingAt t.id s) ?_
    (fun _ _ _ => trivial) fun err _ hp => failed_asRead (hp err rfl) _ err
  exact .bind (provider_asRead (bankGatewayProvider_calls cfg _) (hcreated t rfl))
    (fun _ _ _ e heq => nomatch heq) fun _ _ h _ _ => h.1

/-- The selected rows that are left to mark are still `PENDING`, each of them once. -/
theorem markStale_asRead {stale : List Transaction} (hids : (stale.map Transaction.id).Nodup)
    (hp : ∀ t ∈ stale, PendingAt t.id s) :
    AsRead (fun _ _ => True) (PaymentsService.markStale stale) s := by
  induction stale generalizing s with
  | nil => trivial
  | cons t rest ih =>
      obtain ⟨hnew, hids⟩ := List.nodup_cons.mp hids
      refine .bind (R := fun _ s' => ∀ t' ∈ rest, PendingAt t'.id s') ?_
        (fun _ _ hp => ih hids hp) fun _ _ _ => trivial
      refine AsRead.now fun resolvedAt o => ⟨.markTimedOut (hp t List.mem_cons_self) _, ?_⟩
      intro t' ht'
      refine (exec_ledger o _ s).pendingAt ?_ (hp t' (List.mem_cons_of_mem _ ht'))
      -- the marked row is another one
      have hne : t.id ≠ t'.id := fun heq => hnew (heq ▸ List.mem_map_of_mem ht')
      intro w hw
      cases hout : (exec o (.transaction (.markTimedOut t.id resolvedAt)) s).1 <;>
        rw [hout] at hw <;> cases hw
      exact hne

theorem timeoutSweep_asRead : AsRead (fun _ _ => True) (PaymentsService.timeoutSweep cfg) s := by
  refine .now fun instant => .other rfl (fun o stale s' hout => ?_) fun _ _ _ _ => trivial
  obtain ⟨rfl, c, -, rfl⟩ := findStale_ok hout
  refine markStale_asRead ?_ fun t ht => ?_
  · rw [List.Nodup, List.pairwise_map]
    refine ((Table.distinct_iff.mp s'.transactions.unique).filter _).imp fun hclash heq => ?_
    simp [Indexed.clash, heq] at hclash
  · obtain ⟨hmem, hp⟩ := Table.mem_filter.mp ht
    simp only [Bool.and_eq_true, beq_iff_eq] at hp
    exact .of_mem hmem hp.1.2

/-- A refresh revokes the row it has found unrevoked. -/
theorem refresh_asRead (presentedToken : String) :
    AsRead (fun _ _ => True) (AuthService.refresh cfg presentedToken) s := by
  refine .other rfl (fun o found s' hout => ?_) fun _ _ _ _ => trivial
  match found with
  | none => trivial
  | some (record, user) =>
      have hrecord := (findToken_ok (congrArg Prod.fst hout)).1
      obtain rfl : s' = s := by
        have hanswer := exec_ok hout
        simp only [answer, AccountStmt.answer] at hanswer
        split at hanswer <;> exact (Prod.mk.inj hanswer).2.symm
      refine .ite (fun _ => ?_) fun hlive => ?_
      · refine AsRead.now fun revokedAt => ?_
        exact AsRead.other rfl (fun _ _ _ _ => trivial) fun _ _ _ _ => trivial
      refine AsRead.now fun instant => .ite (fun _ => trivial) fun _ =>
        AsRead.now fun revokedAt => ?_
      refine .perform_bind (fun _ => .revokeToken ?_ _) (fun _ _ _ _ => ?_) fun _ _ _ _ => trivial
      · intro r hr hid
        rw [refreshTokens_eq_of_id hr hrecord hid]
        simpa using hlive
      · refine AsRead.of_calls (issueTokens_admitted (fun c hc => ?_) cfg _ _ _)
        unfold Cmd.issuesTokens at hc
        split at hc <;> first | rfl | cases hc

/-- The requests with a statement that relies on an earlier one. -/
def Request.relies : Request → Bool
  | .refresh _ | .initiateMpesa _ _ | .initiateBankGateway _ => true
  | .mpesaCallback _ _ | .bankGatewayWebhook _ | .sweepTick => true
  | _ => false

theorem relies_of_reaches {q : Request} (hq : q.relies = false) {c : Cmd}
    (hfootprint : Within q.footprint c) (hreaches : Reaches q c) : c.relies = false := by
  unfold Cmd.relies
  split
  case h_6 =>
    cases q <;> first | (cases hfootprint; done) | (cases hreaches; done) | cases hq
  case h_7 => rfl
  all_goals cases q <;> first | (cases hfootprint; done) | cases hq

/-- **Every handler, run alone, finds its rows as it has read them.** -/
theorem handle_asRead (cfg : AppConfig) (q : Request) (s : Store) :
    AsRead (fun _ _ => True) (handle cfg q) s := by
  have delivery : q.isDelivery = true → AsRead (fun _ _ => True) (handle cfg q) s := by
    intro hq
    cases hd : delivered cfg q with
    | some outcome =>
        rw [handle_delivered hd]
        exact .bind (applyOutcome_asRead outcome) (fun _ _ _ => trivial) fun _ _ _ => trivial
    | none =>
        obtain ⟨r, hdone⟩ := handle_undelivered hq hd
        rw [hdone]
        trivial
  have other : q.relies = false → AsRead (fun _ _ => True) (handle cfg q) s := fun hq =>
    .of_calls (((handle_calls cfg q).and (handle_reaches cfg q)).mono
      fun c hc => relies_of_reaches hq hc.1 hc.2)
  cases q with
  | refresh presented =>
      refine .bind (R := fun _ _ => True) ?_ (fun _ _ _ => trivial) fun _ _ _ => trivial
      unfold AuthController.refresh
      refine .ite (fun _ => trivial) fun _ => ?_
      exact .ofExcept_bind (fun token _ => refresh_asRead token) fun _ _ => trivial
  | initiateMpesa user phoneNumber =>
      cases user with
      | none => trivial
      | some user =>
          refine AsRead.guard ?_
          exact .bind (initiateMpesa_asRead user.sub user.email phoneNumber)
            (fun _ _ _ => trivial) fun _ _ _ => trivial
  | initiateBankGateway user =>
      cases user with
      | none => trivial
      | some user =>
          refine AsRead.guard ?_
          exact .bind (initiateBankGateway_asRead user.sub user.email)
            (fun _ _ _ => trivial) fun _ _ _ => trivial
  | mpesaCallback req token => exact delivery rfl
  | bankGatewayWebhook req => exact delivery rfl
  | sweepTick => exact .bind timeoutSweep_asRead (fun _ _ _ => trivial) fun _ _ _ => trivial
  | _ => exact other rfl

end

/-! ## Runs in turn -/

theorem SettlesPending.spares {s : Store} {e : Prog.Entry Sig} (h : SettlesPending s e) :
    SparesSucceeded s e := by
  -- what overwrites a status writes `FAILED` or `TIMED_OUT`
  have written : ∀ id, overwritten e = some id →
      ∃ status resolvedAt, statusWrite e = some (id, status, resolvedAt) ∧ status ≠ .SUCCEEDED := by
    intro id hover
    unfold overwritten at hover
    split at hover
    · cases hover
      exact ⟨_, _, rfl, nofun⟩
    · cases hover
      exact ⟨_, _, rfl, nofun⟩
    · cases hover
  intro id hover t ht hid hst
  obtain ⟨status, resolvedAt, hw, hne⟩ := written id hover
  rcases h id status resolvedAt hw t ht hid with hpending | ⟨hsame, -⟩
  · rw [hst] at hpending
    cases hpending
  · exact hne (hsame.symm.trans hst)

/-- A row without a reference has none, or an empty text. -/
theorem Undisturbed.refersOnce {s : Store} {e : Prog.Entry Sig} (h : Undisturbed s e)
    (hempty : ∀ t ∈ s.transactions, t.providerReference ≠ some "") : RefersOnce s e := by
  intro row hrow t ht hid
  have hlacks := h.refers row hrow t ht hid
  unfold PaymentsService.lacksReference at hlacks
  cases href : t.providerReference with
  | none => exact .inl rfl
  | some ref =>
      rw [href] at hlacks
      exact absurd (href.trans (congrArg some (beq_iff_eq.mp hlacks))) (hempty t ht)

section

variable {cfg : AppConfig} {s : Store} {b : AppState}

theorem undisturbed_run (hr : (app cfg).Run Machine.inTurn (Machine.start s) b) :
    (app cfg).Run (stepsMeet Undisturbed) (Machine.start s) b := by
  refine (hr.meets_inTurn (handle_asRead cfg)).mono ?_
  intro sys act hmeets
  cases act with
  | begin q => trivial
  | step tid o => exact fun c hpend => hmeets tid o c rfl hpend

/-- A row spent before is stored revoked, and so is not spent again. -/
theorem spendsOnce_run (hr : (app cfg).Run (stepsMeet Undisturbed) (Machine.start s) b) :
    (app cfg).Run spendsOnce (Machine.start s) b := by
  induction hr with
  | refl => exact .refl
  | @step b _ act hr hok hnext ih =>
      refine ih.step ?_ hnext
      cases act with
      | begin q => trivial
      | step tid o =>
          intro c hpend id hspent ev hev hspends
          cases ev with
          | began t q => cases hspends
          | did t e =>
              have hanswer := tokenAnswers_run hr t e hev
              have hspent' : spent e = some id := hspends
              unfold spent at hspent'
              split at hspent'
              · cases hspent'
                obtain ⟨r, hmem, hid, hrevoked⟩ := hanswer
                rw [(hok c hpend).spends id hspent r hmem hid] at hrevoked
                cases hrevoked
              · cases hspent'

/-- What a run keeps to: the conditions on its steps. -/
structure MeetsConditions (cfg : AppConfig) (s : Store) (b : AppState) : Prop where
  spares : (app cfg).Run (stepsMeet SparesSucceeded) (Machine.start s) b
  settles : (app cfg).Run (stepsMeet SettlesPending) (Machine.start s) b
  alone : (app cfg).Run (stepsMeet CreatesAlone) (Machine.start s) b
  /-- An empty reference counts as none, and may be replaced. -/
  refers : (app cfg).Run (stepsMeet fun s e =>
    (∀ t ∈ s.transactions, t.providerReference ≠ some "") → RefersOnce s e) (Machine.start s) b
  spends : (app cfg).Run spendsOnce (Machine.start s) b

/-- **Requests in turn meet every condition**, those that crash included. -/
theorem inTurn_meets (hr : (app cfg).Run Machine.inTurn (Machine.start s) b) :
    MeetsConditions cfg s b := by
  have hrun := undisturbed_run hr
  have weaken : ∀ {C : Store → Prog.Entry Sig → Prop}, (∀ s e, Undisturbed s e → C s e) →
      (app cfg).Run (stepsMeet C) (Machine.start s) b := by
    intro C hC
    refine hrun.mono fun sys act hmeets => ?_
    cases act with
    | begin q => trivial
    | step tid o => exact fun c hpend => hC _ _ (hmeets c hpend)
  exact {
    spares := weaken fun _ _ h => h.settles.spares
    settles := weaken fun _ _ h => h.settles
    alone := weaken fun _ _ h => h.alone
    refers := weaken fun _ _ h => h.refersOnce
    spends := spendsOnce_run hrun }

/-- **Requests in turn keep what the payment tables promise**: Subscriptions and
statuses agree, no final status changes, and a user has one payment pending. -/
theorem inTurn_promises (howned : SubscriptionsOwned s) (hagrees : Agrees s) (hone : OnePending s)
    (hr : (app cfg).Run Machine.inTurn (Machine.start s) b) :
    Agrees b.store ∧ FinalSince s b.store ∧ OnePending b.store := by
  have hkept := ledger_run (a := Machine.start s)
    (I := fun s' => SubscriptionsOwned s' ∧ Agrees s' ∧ FinalSince s s' ∧ OnePending s')
    (fun _ _ _ _ h hmeets hI => ⟨h.owned hI.1, h.agrees hmeets.settles.spares hI.1 hI.2.1,
      hI.2.2.1.trans (h.final hmeets.settles), h.onePending hmeets.alone hI.2.2.2⟩)
    ⟨howned, hagrees, .refl s, hone⟩ (undisturbed_run hr)
  exact hkept.2

end

/-- A registration, an initiation and its callback, one after the other. -/
example : ∃ b : AppState, (app sampleConfig).Run Machine.inTurn (Machine.start .empty) b ∧
    b.store.subscriptions.rows.length = 1 := by
  obtain ⟨b, hr, hb⟩ := Machine.exists_run_of_replay (m := app sampleConfig)
    (a := Machine.start .empty) Machine.inTurn
    (sampleRegistration ++ samplePush ++ sampleActivation)
    (fun b => b.store.subscriptions.rows.length == 1) (by decide +kernel)
  exact ⟨b, hr, beq_iff_eq.mp hb⟩

end StreamingService

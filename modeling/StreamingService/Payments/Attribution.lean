import StreamingService.Payments.Provenance
import StreamingService.Payments.Status

/-!
# Payments — Attribution

Which Transaction a webhook settles. The lookup does not ask for the method,
and trusts a `tx_ref` whatever reference the row carries; the reference
itself is written by id alone, from two places. As long as the lookups show
a delivery its own rows, and no write of a reference meets another one, a
delivery settles the payment it is about and no reference ever changes.
-/

namespace StreamingService

open Lib

/-! ## The condition -/

/-- The payment method a webhook route belongs to. -/
def Request.provider : Request → Option PaymentMethod
  | .mpesaCallback _ _ => some .MPESA
  | .bankGatewayWebhook _ => some .BANK_GATEWAY
  | _ => none

/-- A `PENDING` row a verified delivery may be shown: of its provider's
method, with no reference yet or the delivery's own. -/
def OwnPayment (cfg : AppConfig) (q : Request) (t : Transaction) : Prop :=
  ∀ outcome ∈ delivered cfg q, t.status = .PENDING → q.provider = some t.method ∧
    (t.providerReference = none ∨ t.providerReference = outcome.providerReference.text?)

instance (cfg : AppConfig) (q : Request) (t : Transaction) : Decidable (OwnPayment cfg q t) :=
  inferInstanceAs (Decidable (∀ outcome ∈ delivered cfg q, _))

/-- The row an accepted write of a reference answers. -/
def referredRow : Prog.Entry Sig → Option Transaction
  | ⟨.transaction (.setProviderReference _ _), .ok t⟩ => some t
  | _ => none

/-- An accepted write of a reference meets a row that has none, or that one. -/
def RefersOnce (s : Store) (e : Prog.Entry Sig) : Prop :=
  ∀ row ∈ referredRow e, ∀ t ∈ s.transactions.rows, t.id = row.id →
    t.providerReference = none ∨ t.providerReference = row.providerReference

instance (s : Store) (e : Prog.Entry Sig) : Decidable (RefersOnce s e) :=
  inferInstanceAs (Decidable (∀ row ∈ referredRow e, _))

/-- The condition on a step. -/
def attributed (cfg : AppConfig) (sys : AppState) : Action Ambient Request → Prop
  | .begin _ => True
  | .step tid o => ∀ c ∈ sys.pending tid,
      RefersOnce sys.store ⟨c, (exec o c sys.store).1⟩ ∧
        ∀ th ∈ sys.threads[tid]?, ∀ t ∈ shown ⟨c, (exec o c sys.store).1⟩,
          OwnPayment cfg th.request t

instance (cfg : AppConfig) (sys : AppState) (act : Action Ambient Request) :
    Decidable (attributed cfg sys act) :=
  match act with
  | .begin _ => isTrue trivial
  | .step tid o => inferInstanceAs (Decidable (∀ c ∈ sys.pending tid,
      RefersOnce sys.store ⟨c, (exec o c sys.store).1⟩ ∧
        ∀ th ∈ sys.threads[tid]?, ∀ t ∈ shown ⟨c, (exec o c sys.store).1⟩,
          OwnPayment cfg th.request t))

/-! ## References over a run -/

/-- A later version of the row, with the reference it had. -/
structure Transaction.Referred (t t' : Transaction) : Prop where
  same : t.SameAs t'
  reference : ∀ r, t.providerReference = some r → t'.providerReference = some r

namespace Transaction.Referred

theorem refl (t : Transaction) : t.Referred t := ⟨.refl t, fun _ h => h⟩

theorem trans {a b c : Transaction} (hab : a.Referred b) (hbc : b.Referred c) : a.Referred c :=
  ⟨hab.same.trans hbc.same, fun r h => hbc.reference r (hab.reference r h)⟩

end Transaction.Referred

namespace LedgerStep

variable {o : Ambient} {s s' : Store} {e : Prog.Entry Sig}

/-- **One statement keeps every reference.** -/
theorem referred (h : LedgerStep o s s' e) (honce : RefersOnce s e) {t : Transaction}
    (ht : t ∈ s.transactions) : ∃ t' ∈ s'.transactions, t.Referred t' := by
  -- an update of the row that leaves the reference alone
  have kept : ∀ {id : String} {f : Transaction → Transaction}, RowUpdated s s' id f →
      (∀ t : Transaction, t.Referred (f t)) → ∃ t' ∈ s'.transactions, t.Referred t' := by
    intro id f hrows hf
    by_cases hid : t.id = id
    · exact ⟨f t, hrows.of_id ht hid, hf t⟩
    · exact ⟨t, hrows.of_ne ht hid, .refl t⟩
  cases h with
  | quiet _ hts _ => exact ⟨t, hts ▸ ht, .refl t⟩
  | create _ _ hts _ => exact ⟨t, (Table.mem_insert? hts).mpr (.inl ht), .refl t⟩
  | @refer id ref f t₀ href ht₀ hid₀ hrows _ =>
      by_cases hid : t.id = id
      · have heq : t = t₀ := transactions_eq_of_id ht ht₀ (hid.trans hid₀.symm)
        subst heq
        refine ⟨_, hrows.of_id ht hid, ⟨rfl, rfl, rfl, rfl, rfl⟩, fun r hr => ?_⟩
        rcases honce _ rfl t ht rfl with hnone | hsame
        · rw [hr] at hnone
          cases hnone
        · exact hsame.symm.trans hr
      · exact ⟨t, hrows.of_ne ht hid, .refl t⟩
  | fail _ _ _ hrows _ => exact kept hrows fun t => ⟨⟨rfl, rfl, rfl, rfl, rfl⟩, fun _ h => h⟩
  | timeOut _ _ hrows _ => exact kept hrows fun t => ⟨⟨rfl, rfl, rfl, rfl, rfl⟩, fun _ h => h⟩
  | activate _ _ _ hrows _ => exact kept hrows fun t => ⟨⟨rfl, rfl, rfl, rfl, rfl⟩, fun _ h => h⟩

end LedgerStep

variable {cfg : AppConfig} {s : Store} {a b : AppState}

/-- **A reference once set never changes.** -/
theorem referred_run (hr : (app cfg).Run (attributed cfg) a b) {t : Transaction}
    (ht : t ∈ a.store.transactions) : ∃ t' ∈ b.store.transactions, t.Referred t' :=
  Machine.Run.keeps (I := fun s _ => ∃ t' ∈ s.transactions, t.Referred t') (fun _ _ _ _ h => h)
    (fun sys tid o c h hok hpend => by
      obtain ⟨t', ht', hto⟩ := h
      obtain ⟨t'', ht'', hto'⟩ := (exec_ledger o c sys.store).referred (hok c hpend).1 ht'
      exact ⟨t'', ht'', hto.trans hto'⟩) ⟨t, ht, .refl t⟩ hr

/-- The rows an answer shows, a written reference's row among them. -/
def pictured (e : Prog.Entry Sig) : Option Transaction := (referredRow e).or (shown e)

theorem pictured_mem {o : Ambient} {s s' : Store} {e : Prog.Entry Sig} (h : LedgerStep o s s' e)
    (hans : Answers s' e) {t : Transaction} (ht : pictured e = some t) :
    t ∈ s'.transactions := by
  rcases Option.or_eq_some_iff.mp ht with href | ⟨-, hshown⟩
  · unfold referredRow at href
    split at href
    · cases href
      cases h with
      | quiet hquiet => cases hquiet
      | refer _ ht₀ hid hrows _ => exact hrows.of_id ht₀ hid
    · cases href
  · exact hans.shown_mem hshown

/-- What a run's answers showed is still there, with its reference. -/
theorem pictured_run (hr : (app cfg).Run (attributed cfg) (Machine.start s) b) :
    ∀ tid e t, Event.did tid e ∈ b.trace → pictured e = some t →
      ∃ t' ∈ b.store.transactions, t.Referred t' := by
  intro tid e t hmem ht
  obtain ⟨post, pre, htr⟩ := List.append_of_mem hmem
  obtain ⟨a, o, c, a', -, -, -, -, rfl, hstore, -, hrest⟩ := hr.cut htr
  refine referred_run hrest ?_
  rw [hstore]
  exact pictured_mem (exec_ledger o c a.store) (exec_answers o c a.store) ht

/-- An accepted write of a text is answered with the row that has it. -/
theorem written_reference (hr : (app cfg).Run (attributed cfg) (Machine.start s) b)
    {tid : Nat} {id r : String} {row : Transaction}
    (hmem : Event.did tid ⟨Cmd.transaction (.setProviderReference id (some (.str r))), .ok row⟩ ∈
      b.trace) : row.id = id ∧ row.providerReference = some r := by
  obtain ⟨post, pre, htr⟩ := List.append_of_mem hmem
  obtain ⟨a, o, c, a', -, -, -, -, heq, -⟩ := hr.cut htr
  have hstep : LedgerStep o a.store (exec o c a.store).2 ⟨c, (exec o c a.store).1⟩ :=
    exec_ledger o c a.store
  have heq' : (⟨c, (exec o c a.store).1⟩ : Prog.Entry Sig) =
      ⟨Cmd.transaction (.setProviderReference id (some (.str r))), .ok row⟩ := heq.symm
  rw [heq'] at hstep
  cases hstep with
  | quiet hquiet => cases hquiet
  | refer href _ hid =>
      cases href
      exact ⟨hid, rfl⟩

/-- A lookup by reference that is answered was asked for a text. -/
theorem looked_up_text (hr : (app cfg).Run (attributed cfg) (Machine.start s) b)
    {tid : Nat} {ref : JsVal} {found : Option Transaction}
    (hmem : Event.did tid ⟨Cmd.transaction (.findByReference ref), .ok found⟩ ∈ b.trace) :
    ∃ r, ref = some (.str r) := by
  obtain ⟨post, pre, htr⟩ := List.append_of_mem hmem
  obtain ⟨a, o, c, a', -, -, -, -, heq, -⟩ := hr.cut htr
  have hans : Answers (exec o c a.store).2 ⟨c, (exec o c a.store).1⟩ := exec_answers o c a.store
  have heq' : (⟨c, (exec o c a.store).1⟩ : Prog.Entry Sig) =
      ⟨Cmd.transaction (.findByReference ref), .ok found⟩ := heq.symm
  rw [heq'] at hans
  obtain ⟨r, href, -⟩ := hans
  exact ⟨r, href⟩

/-! ## The path to a status write -/

/-- The handler has resolved the delivery to this row, and the row had a
reference or has just been given the delivery's. -/
def Referenced (outcome : WebhookOutcome) (h : List (Prog.Entry Sig)) (id : String) : Prop :=
  ∃ t, Resolves outcome h t ∧ t.id = id ∧ t.status = .PENDING ∧
    (PaymentsService.lacksReference t = false ∨ ∃ row : Transaction,
      ⟨.transaction (.setProviderReference id outcome.providerReference), .ok row⟩ ∈ h)

theorem Referenced.cons {outcome : WebhookOutcome} {h : List (Prog.Entry Sig)} {id : String}
    (hr : Referenced outcome h id) (e : Prog.Entry Sig) : Referenced outcome (e :: h) id := by
  obtain ⟨t, ht, hid, hst, href⟩ := hr
  refine ⟨t, ht.cons e, hid, hst, href.imp (fun h => h) ?_⟩
  rintro ⟨row, hrow⟩
  exact ⟨row, List.mem_cons_of_mem _ hrow⟩

/-- What a status write owes to the statements before it. -/
def SettleStep (outcome : WebhookOutcome) (h : List (Prog.Entry Sig)) (e : Prog.Entry Sig) : Prop :=
  ∀ w ∈ statusWrite e, Referenced outcome h w.1

section

variable {outcome : WebhookOutcome} {h : List (Prog.Entry Sig)}

theorem SettleStep.of_none {e : Prog.Entry Sig} (he : statusWrite e = none) :
    SettleStep outcome h e := by
  intro w hw
  rw [he] at hw
  cases hw

theorem SettleStep.markFailed {id : String} {resolvedAt : Millis} {reason : JsVal}
    (hr : Referenced outcome h id) (r : Except Exception Transaction) :
    SettleStep outcome h ⟨.transaction (.markFailed id resolvedAt reason), r⟩ := by
  intro w hw
  cases r <;> cases hw
  exact hr

theorem SettleStep.commit {id userId : String} {resolvedAt startAt : Millis}
    {expiresAt : Option Millis} (hr : Referenced outcome h id) (r : Except Exception Subscription) :
    SettleStep outcome h
      ⟨.subscription (.commitActivation id userId resolvedAt startAt expiresAt), r⟩ := by
  intro w hw
  cases r <;> cases hw
  exact hr

theorem activateFromTransaction_settles {id : String} (hr : Referenced outcome h id) :
    (SubscriptionsService.activateFromTransaction cfg id).Emits (SettleStep outcome)
      (fun _ _ => True) h := by
  refine .perform_bind (fun found => ⟨.of_none ?_, ?_⟩) fun e => ⟨.of_none rfl, trivial⟩
  · rcases found with _ | ⟨_, _⟩ <;> rfl
  · match found with
    | none => trivial
    | some (t, some x) => trivial
    | some (t, none) =>
        refine .perform_bind (fun resolvedAt => ⟨.of_none rfl, ?_⟩)
          fun e => ⟨.of_none rfl, trivial⟩
        refine .perform_bind (fun startAt => ⟨.of_none rfl, ?_⟩) fun e => ⟨.of_none rfl, trivial⟩
        exact fun r => ⟨.commit (((hr.cons _).cons _).cons _) r, trivial⟩

theorem conclude_settles {id : String} (hr : Referenced outcome h id) :
    (PaymentsService.conclude cfg outcome id).Emits (SettleStep outcome) (fun _ _ => True) h := by
  cases hst : outcome.status with
  | SUCCEEDED =>
      simp only [PaymentsService.conclude, hst]
      exact .bind (activateFromTransaction_settles hr) (fun _ _ _ => trivial) fun _ _ _ => trivial
  | FAILED =>
      simp only [PaymentsService.conclude, hst]
      refine .bind (Q := fun _ _ => True) ?_ (fun _ _ _ => trivial) fun _ _ _ => trivial
      exact .perform_bind
        (fun resolvedAt => ⟨.of_none rfl, fun r => ⟨.markFailed (hr.cons _) r, trivial⟩⟩)
        fun e => ⟨.of_none rfl, trivial⟩

theorem settle_settles {t : Transaction} (hr : Resolves outcome h t) (hst : t.status = .PENDING) :
    (PaymentsService.settle cfg outcome t).Emits (SettleStep outcome) (fun _ _ => True) h := by
  refine .ite (fun _ => ?_) fun hlacks =>
    conclude_settles ⟨t, hr, rfl, hst, .inl (by simpa using hlacks)⟩
  refine .bind (Q := fun r h => ∀ u, r = .ok u → Referenced outcome h t.id) ?_
    (fun _ _ href => conclude_settles (href _ rfl)) fun _ _ _ => trivial
  refine .perform_bind (fun row => ⟨.of_none rfl, fun _ _ => ?_⟩) fun e => ⟨.of_none rfl, by simp⟩
  exact ⟨t, hr.cons _, rfl, hst, .inr ⟨row, List.mem_cons_self⟩⟩

theorem applyOutcome_settles :
    (PaymentsService.applyOutcome cfg outcome).Emits (SettleStep outcome) (fun _ _ => True) h := by
  refine .bind (findForWebhook_emits (fun _ r => .of_none (by cases r <;> rfl))
    fun _ r => .of_none (by cases r <;> rfl)) ?_ fun _ _ _ => trivial
  intro found h' hq
  cases found with
  | none => trivial
  | some t =>
      refine .ite (fun _ => trivial) fun hst => ?_
      exact settle_settles hq (by simpa using hst)

end

/-- The status writes of every delivery. -/
theorem delivery_settles (cfg : AppConfig) (q : Request) :
    (handle cfg q).Emits
      (fun h e => ∀ outcome, delivered cfg q = some outcome → SettleStep outcome h e)
      (fun _ _ => True) [] := by
  cases hd : delivered cfg q with
  | some outcome =>
      rw [handle_delivered hd]
      have hemits : (PaymentsService.applyOutcome cfg outcome).Emits (SettleStep outcome)
          (fun _ _ => True) [] := applyOutcome_settles
      refine .bind (hemits.mono ?_ fun _ _ _ => trivial) (fun _ _ _ => trivial)
        fun _ _ _ => trivial
      intro h e hstep outcome' heq
      cases heq
      exact hstep
  | none =>
      exact .of_calls (A := fun _ => True) ((handle_calls cfg q).mono fun _ _ => trivial)
        (fun _ _ _ outcome heq => by cases heq) fun _ _ => trivial

/-! ## A webhook settles its own payment -/

/-- Where the status of a row changes: the statement names the row, and keeps
everything else but the time and the reason. -/
theorem LedgerStep.status_changed {o : Ambient} {s s' : Store} {e : Prog.Entry Sig}
    (h : LedgerStep o s s' e) {t t' : Transaction} (ht : t ∈ s.transactions)
    (ht' : t' ∈ s'.transactions) (hid : t'.id = t.id) (hne : t'.status ≠ t.status) :
    (∃ w ∈ statusWrite e, w.1 = t.id) ∧ t'.providerReference = t.providerReference := by
  -- the row an update left alone has its status
  have hit : ∀ {id : String} {f : Transaction → Transaction}, RowUpdated s s' id f →
      (∀ t : Transaction, (f t).id = t.id) → t'.id = id ∧ t' = f t := by
    intro id f hrows hf
    rcases hrows.cases ht' with ⟨t₀, ht₀, rfl, rfl⟩ | ⟨hold, -⟩
    · rw [transactions_eq_of_id ht ht₀ (hid.symm.trans (hf t₀))]
      exact ⟨hf t₀, rfl⟩
    · rw [transactions_eq_of_id hold ht hid] at hne
      exact absurd rfl hne
  cases h with
  | quiet _ hts _ =>
      rw [transactions_eq_of_id (hts ▸ ht') ht hid] at hne
      exact absurd rfl hne
  | create _ _ hts _ =>
      have hold : t ∈ s'.transactions := (Table.mem_insert? hts).mpr (.inl ht)
      rw [transactions_eq_of_id ht' hold hid] at hne
      exact absurd rfl hne
  | refer _ _ _ hrows _ =>
      obtain ⟨-, rfl⟩ := hit hrows fun _ => rfl
      exact absurd rfl hne
  | fail _ _ _ hrows _ =>
      obtain ⟨htid, rfl⟩ := hit hrows fun _ => rfl
      exact ⟨⟨_, rfl, htid.symm.trans hid⟩, rfl⟩
  | timeOut _ _ hrows _ =>
      obtain ⟨htid, rfl⟩ := hit hrows fun _ => rfl
      exact ⟨⟨_, rfl, htid.symm.trans hid⟩, rfl⟩
  | activate _ _ _ hrows _ =>
      obtain ⟨htid, rfl⟩ := hit hrows fun _ => rfl
      exact ⟨⟨_, rfl, htid.symm.trans hid⟩, rfl⟩

theorem pictured_of_shown {e : Prog.Entry Sig} {t : Transaction} (h : shown e = some t) :
    pictured e = some t := by
  unfold pictured
  cases hrow : referredRow e with
  | none => exact h
  | some row =>
      unfold referredRow at hrow
      split at hrow
      · cases h
      · cases hrow

/-- A row shown to a delivery of the run was the delivery's own. -/
theorem shown_own {q : Request} (hr : (app cfg).Run (attributed cfg) (Machine.start s) a)
    {tid : Nat} (hq : Event.began tid q ∈ a.trace) {e : Prog.Entry Sig}
    (he : e ∈ own tid a.trace) {t : Transaction} (hshown : shown e = some t) :
    OwnPayment cfg q t := by
  obtain ⟨post, pre, htr⟩ := List.append_of_mem (mem_own.mp he)
  obtain ⟨a₀, o, c, a', ha₀, htr₀, hok, hpend, rfl, -, -, -⟩ := hr.cut htr
  cases hth : a₀.threads[tid]? with
  | none =>
      simp only [Sys.pending, hth] at hpend
      cases hpend
  | some th =>
      have hbegan : Event.began tid th.request ∈ a.trace := by
        rw [htr]
        refine List.mem_append_right _ (List.mem_cons_of_mem _ ?_)
        rw [← htr₀]
        exact (recorded_run ha₀).began tid th hth
      rw [(recorded_run hr).request hq hbegan]
      exact (hok c hpend).2 th hth t hshown

/-- What the handler of a delivery has read of the row it settles. -/
theorem Referenced.row {q : Request} {outcome : WebhookOutcome}
    (hr : (app cfg).Run (attributed cfg) (Machine.start s) a) {tid : Nat}
    (hq : Event.began tid q ∈ a.trace) (hdel : delivered cfg q = some outcome) {id : String}
    (h : Referenced outcome (own tid a.trace) id) {t : Transaction}
    (ht : t ∈ a.store.transactions) (hid : t.id = id) :
    q.provider = some t.method ∧
      ∃ r, outcome.providerReference = some (.str r) ∧ t.providerReference = some r := by
  obtain ⟨t₀, hres, hid₀, hpending, href⟩ := h
  -- the reference is a text, else the lookup had been refused
  have htext : ∃ r, outcome.providerReference = some (.str r) := by
    rcases hres with hfound | ⟨hnone, -⟩
    · exact looked_up_text hr (mem_own.mp hfound)
    · exact looked_up_text hr (mem_own.mp hnone)
  obtain ⟨r, hr'⟩ := htext
  obtain ⟨e, he, hshown⟩ := hres.shown
  have hown : OwnPayment cfg q t₀ := shown_own hr hq he hshown
  obtain ⟨hmethod, hreference⟩ := hown outcome hdel hpending
  -- the row shown is the stored one
  obtain ⟨t₁, ht₁, hto⟩ := pictured_run hr tid e t₀ (mem_own.mp he) (pictured_of_shown hshown)
  have heq : t = t₁ := transactions_eq_of_id ht ht₁ (by rw [hid, hto.same.id, hid₀])
  subst heq
  refine ⟨by rw [hto.same.method]; exact hmethod, r, hr', ?_⟩
  rcases href with hhas | ⟨row, hrow⟩
  · rcases hreference with hnone | hsame
    · simp [PaymentsService.lacksReference, hnone] at hhas
    · exact hto.reference r (by rw [hsame, hr']; rfl)
  · have hmem := mem_own.mp hrow
    obtain ⟨t₂, ht₂, hto₂⟩ := pictured_run hr tid _ row hmem rfl
    rw [hr'] at hmem
    obtain ⟨hrid, hrref⟩ := written_reference hr hmem
    have heq : t = t₂ := transactions_eq_of_id ht ht₂ (by rw [hid, hto₂.same.id, hrid])
    subst heq
    exact hto₂.reference r hrref

/-- A step of thread `tid` that belongs to a verified delivery changes the
status of its own payment at most. -/
def SettlesOwn (cfg : AppConfig) (a a' : AppState) (tid : Nat) : Prop :=
  ∀ th ∈ a.threads[tid]?, ∀ outcome ∈ delivered cfg th.request,
    ∀ t ∈ a.store.transactions, ∀ t' ∈ a'.store.transactions, t'.id = t.id →
      t'.status ≠ t.status → th.request.provider = some t'.method ∧
        ∃ r, outcome.providerReference = some (.str r) ∧ t'.providerReference = some r

/-- A row that has a reference keeps it from `a` to `b`. -/
def KeepsReferences (a b : AppState) : Prop :=
  ∀ t ∈ a.store.transactions, ∀ t' ∈ b.store.transactions, t'.id = t.id →
    t.providerReference ≠ none → t'.providerReference = t.providerReference

instance (a b : AppState) : Decidable (KeepsReferences a b) :=
  inferInstanceAs (Decidable (∀ t ∈ a.store.transactions.rows,
    ∀ t' ∈ b.store.transactions.rows, t'.id = t.id → t.providerReference ≠ none →
      t'.providerReference = t.providerReference))

/-- **A webhook settles the payment it is about** in every run whose
deliveries are shown their own rows and whose references are written once;
and in such a run no reference ever changes. -/
theorem webhook_settles_own_payment
    (hr : (app cfg).Run (attributed cfg) (Machine.start s) a) :
    (∀ tid o a', attributed cfg a (.step tid o) → (app cfg).next a (.step tid o) = some a' →
      SettlesOwn cfg a a' tid) ∧
    ∀ b, (app cfg).Run (attributed cfg) a b → KeepsReferences a b := by
  constructor
  · intro tid o a' hok hnext th hth outcome hdel t ht t' ht' hid hne
    have hr' : (app cfg).Run (attributed cfg) (Machine.start s) a' := hr.step hok hnext
    have hq := (recorded_run hr).began tid th hth
    rcases (app cfg).next_cases hnext with ⟨q, heq, -⟩ | ⟨tid', o', q, c, k, heq, hth', rfl⟩
    · cases heq
    · cases heq
      obtain ⟨⟨w, hw, hwid⟩, href⟩ :=
        (exec_ledger o c a.store).status_changed ht ht' hid hne
      have hstep := (Machine.Run.emits (delivery_settles cfg) hr').at_split
        (List.mem_cons_of_mem _ hq) (show _ = [] ++ _ from rfl) outcome hdel w hw
      obtain ⟨hmethod, r, hr₀, htr⟩ := hstep.row hr hq hdel ht hwid.symm
      obtain ⟨t'', ht'', hto⟩ := (exec_ledger o c a.store).row ht
      rw [transactions_eq_of_id ht' ht'' (hid.trans hto.id.symm)] at href ⊢
      exact ⟨by rw [hto.method]; exact hmethod, r, hr₀, href.trans htr⟩
  · intro b hrb t ht t' ht' hid hsome
    obtain ⟨t'', ht'', hto⟩ := referred_run hrb ht
    rw [transactions_eq_of_id ht' ht'' (hid.trans hto.same.id.symm)]
    cases href : t.providerReference with
    | none => exact absurd href hsome
    | some r => exact hto.reference r href

/-- The callback of `ws-1` right before it activates `sub-1`. -/
theorem webhook_settles_own_payment_sample :
    ∃ a b : AppState, (app sampleConfig).Run (attributed sampleConfig) a b ∧
      (b.store.transactions.rows.any fun t =>
        t.status == .SUCCEEDED && t.providerReference == some "ws-1") = true ∧
      (∀ tid o a', attributed sampleConfig a (.step tid o) →
        (app sampleConfig).next a (.step tid o) = some a' → SettlesOwn sampleConfig a a' tid) ∧
      ∀ b, (app sampleConfig).Run (attributed sampleConfig) a b → KeepsReferences a b := by
  obtain ⟨a, b, hra, hrb, hb⟩ := Machine.exists_runs_of_replay (m := app sampleConfig)
    (s := Machine.start .empty) (attributed sampleConfig)
    (sampleRegistration ++ samplePush ++ sampleActivation.dropLast) (sampleActivation.drop 6)
    (fun _ b => b.store.transactions.rows.any fun t =>
      t.status == .SUCCEEDED && t.providerReference == some "ws-1") (by decide +kernel)
  exact ⟨a, b, hrb, hb, webhook_settles_own_payment hra⟩

/-! ## The wrong payment -/

/-- A delivery's step changes the status of a row of the other method. -/
def settlesForeign (cfg : AppConfig) (a a' : AppState) (tid : Nat) : Bool :=
  a.threads[tid]?.any fun th => (delivered cfg th.request).isSome &&
    a.store.transactions.rows.any fun t => a'.store.transactions.rows.any fun t' =>
      t'.id == t.id && t'.status != t.status && th.request.provider != some t'.method

theorem not_settlesOwn {tid : Nat} {a' : AppState} (h : settlesForeign cfg a a' tid = true) :
    ¬ SettlesOwn cfg a a' tid := by
  intro hown
  simp only [settlesForeign, Option.any_eq_true, Bool.and_eq_true, List.any_eq_true,
    Option.isSome_iff_exists, beq_iff_eq, bne_iff_ne] at h
  obtain ⟨th, hth, ⟨outcome, hdel⟩, t, ht, t', ht', ⟨hid, hne⟩, hforeign⟩ := h
  exact hforeign (hown th hth outcome hdel t ht t' ht' hid hne).1

/-- A bank-gateway webhook that echoes `tx-1` settles that M-Pesa payment under
its own reference, and the initiation then overwrites the reference. -/
theorem tx_ref_settles_foreign_payment :
    ∃ (a a' b : AppState) (o : Ambient), (app sampleConfig).Run anyAction (Machine.start .empty) a ∧
      (app sampleConfig).next a (.step 2 o) = some a' ∧ ¬ SettlesOwn sampleConfig a a' 2 ∧
      (app sampleConfig).Run anyAction a' b ∧ ¬ KeepsReferences a' b := by
  obtain ⟨a, hra, ha⟩ := Machine.exists_run_of_replay (m := app sampleConfig)
    (a := Machine.start .empty) anyAction
    (sampleRegistration ++ samplePush ++ [.begin (sampleWebhook "successful" "9" "tx-1"),
      .step 2 (.quiet 2000), .step 2 (.quiet 2001), .step 2 (.quiet 2002), .step 2 (.quiet 2003),
      .step 2 (.quiet 2004), .step 2 (.quiet 2005)])
    (fun a => ((app sampleConfig).next a (.step 2 ((Ambient.quiet 2006).generating "sub-1"))).any
      fun a' => settlesForeign sampleConfig a a' 2 &&
        ((app sampleConfig).next a' (.step 1 (.quiet 2007))).any fun b =>
          !decide (KeepsReferences a' b)) (by decide +kernel)
  simp only [Option.any_eq_true, Bool.and_eq_true, Bool.not_eq_true', decide_eq_false_iff_not] at ha
  obtain ⟨a', hnext, hforeign, b, hnext', hkeeps⟩ := ha
  exact ⟨a, a', b, _, hra, hnext, not_settlesOwn hforeign, .step .refl trivial hnext', hkeeps⟩

end StreamingService

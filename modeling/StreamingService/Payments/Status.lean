import StreamingService.Payments.Ledger

/-!
# Payments — Status

The three promises about a Transaction's status — it agrees with the
Subscription, it is final once it has left `PENDING`, and a user has one
`PENDING` Transaction at a time — and the one condition on the steps each of
them needs. `markFailed`, `markTimedOut` and the activation write the status
by id, long after the read that selected the row, and `createPending` reads
and inserts in two statements; so none of the promises holds of every
interleaving, and each holds exactly as long as the late write meets the row
the read had seen.
-/

namespace StreamingService

open Lib

variable {cfg : AppConfig} {o : Ambient} {s s' : Store} {e : Prog.Entry Sig}

/-! ## Subscription and Transaction agree -/

/-- A Subscription for a Transaction exists if and only if the Transaction is
`SUCCEEDED`. -/
def Agrees (s : Store) : Prop :=
  ∀ t ∈ s.transactions, (∃ x ∈ s.subscriptions, x.transactionId = t.id) ↔ t.status = .SUCCEEDED

instance : Decidable (Agrees s) :=
  inferInstanceAs (Decidable (∀ t ∈ s.transactions.rows,
    (∃ x ∈ s.subscriptions.rows, x.transactionId = t.id) ↔ t.status = .SUCCEEDED))

/-- The foreign key `subscriptions.transactionId`. -/
def SubscriptionsOwned (s : Store) : Prop :=
  ∀ x ∈ s.subscriptions, ∃ t ∈ s.transactions, t.id = x.transactionId

/-- The row an accepted `markFailed` or `markTimedOut` writes. -/
def overwritten : Prog.Entry Sig → Option String
  | ⟨.transaction (.markFailed id _ _), .ok _⟩ => some id
  | ⟨.transaction (.markTimedOut id _), .ok _⟩ => some id
  | _ => none

/-- No accepted `markFailed` or `markTimedOut` meets a `SUCCEEDED` row. -/
def SparesSucceeded (s : Store) (e : Prog.Entry Sig) : Prop :=
  ∀ id, overwritten e = some id → ∀ t ∈ s.transactions, t.id = id → t.status ≠ .SUCCEEDED

instance (s : Store) (e : Prog.Entry Sig) : Decidable (SparesSucceeded s e) :=
  inferInstanceAs (Decidable (∀ id ∈ overwritten e, ∀ t ∈ s.transactions.rows, t.id = id →
    t.status ≠ .SUCCEEDED))

theorem LedgerStep.owned (h : LedgerStep o s s' e) (howned : SubscriptionsOwned s) :
    SubscriptionsOwned s' := by
  intro x hx
  rcases h.subscription_cases hx with hx | ⟨-, howner, -⟩
  · obtain ⟨t, ht, hid⟩ := howned x hx
    obtain ⟨t', ht', hsame⟩ := h.row ht
    exact ⟨t', ht', hsame.id.trans hid⟩
  · exact howner

/-- An update that keeps the row's id and status keeps the agreement. -/
theorem RowUpdated.agrees {id : String} {f : Transaction → Transaction}
    (h : RowUpdated s s' id f) (hs : s'.subscriptions = s.subscriptions)
    (hf : ∀ t : Transaction, (f t).id = t.id)
    (hst : ∀ t ∈ s.transactions, t.id = id →
      ((f t).status = .SUCCEEDED ↔ t.status = .SUCCEEDED)) (hagrees : Agrees s) : Agrees s' := by
  intro t' ht'
  rw [hs]
  rcases h.cases ht' with ⟨t, ht, hid, rfl⟩ | ⟨ht, -⟩
  · rw [hf, hst t ht hid]
    exact hagrees t ht
  · exact hagrees t' ht

/-- One step that spares `SUCCEEDED` rows keeps the agreement. -/
theorem LedgerStep.agrees (h : LedgerStep o s s' e) (hspares : SparesSucceeded s e)
    (howned : SubscriptionsOwned s) (hagrees : Agrees s) : Agrees s' := by
  cases h with
  | quiet _ ht hs =>
      unfold Agrees
      rw [ht, hs]
      exact hagrees
  | create _ _ ht hs =>
      intro t hmem
      rw [hs]
      rcases (Table.mem_insert? ht).mp hmem with hold | rfl
      · exact hagrees t hold
      · -- a Subscription of the new id would belong to a stored row
        refine ⟨fun ⟨x, hx, hid⟩ => ?_, fun hst => nomatch hst⟩
        obtain ⟨t, hold, htid⟩ := howned x hx
        have hfresh := Table.insert?_fresh ht hold
        simp [Indexed.clash, htid, hid] at hfresh
  | refer _ _ _ hrows hs => exact hrows.agrees hs (fun _ => rfl) (fun _ _ _ => Iff.rfl) hagrees
  | fail _ _ _ hrows hs =>
      refine hrows.agrees hs (fun _ => rfl) ?_ hagrees
      intro t ht hid
      exact ⟨fun hst => (nomatch hst), fun hst => absurd hst (hspares _ rfl t ht hid)⟩
  | timeOut _ _ hrows hs =>
      refine hrows.agrees hs (fun _ => rfl) ?_ hagrees
      intro t ht hid
      exact ⟨fun hst => (nomatch hst), fun hst => absurd hst (hspares _ rfl t ht hid)⟩
  | activate hrow ht hid hrows hs =>
      intro t' ht'
      rcases hrows.cases ht' with ⟨t, ht, htid, rfl⟩ | ⟨ht, hne⟩
      · refine ⟨fun _ => rfl, fun _ => ⟨_, (Table.mem_insert? hs).mpr (.inr rfl), ?_⟩⟩
        rw [hrow]
        exact htid.symm
      · rw [← hagrees t' ht]
        constructor
        · rintro ⟨x, hx, hxt⟩
          rcases (Table.mem_insert? hs).mp hx with hx | rfl
          · exact ⟨x, hx, hxt⟩
          · rw [hrow] at hxt
            exact absurd hxt.symm hne
        · rintro ⟨x, hx, hxt⟩
          exact ⟨x, (Table.mem_insert? hs).mpr (.inl hx), hxt⟩

/-- A step that does not spare one breaks it. -/
theorem LedgerStep.spares_of_agrees (h : LedgerStep o s s' e) (hagrees : Agrees s)
    (hagrees' : Agrees s') : SparesSucceeded s e := by
  -- the Subscription of a `SUCCEEDED` row outlives the step that overwrites the status
  intro id hover t ht hid hst
  obtain ⟨x, hx, hxt⟩ := (hagrees t ht).mpr hst
  have hx' := h.subscription hx
  cases h with
  | fail _ _ _ hrows _ =>
      cases hover
      cases (hagrees' _ (hrows.of_id ht hid)).mp ⟨x, hx', hxt⟩
  | timeOut _ _ hrows _ =>
      cases hover
      cases (hagrees' _ (hrows.of_id ht hid)).mp ⟨x, hx', hxt⟩
  | quiet hquiet _ _ =>
      unfold overwritten at hover
      split at hover
      · cases hquiet
      · cases hquiet
      · cases hover
  | create _ _ _ _ => cases hover
  | refer _ _ _ _ _ => cases hover
  | activate _ _ _ _ _ => cases hover

/-- **Subscription and Transaction agree** in every run whose status writes
spare `SUCCEEDED` rows; and a step that does not spare one ends the
agreement. -/
theorem subscription_agrees_with_status {cfg : AppConfig} {s : Store}
    (howned : SubscriptionsOwned s) (hagrees : Agrees s) :
    (∀ b, (app cfg).Run (stepsMeet SparesSucceeded) (Machine.start s) b → Agrees b.store) ∧
    ∀ b act c, (app cfg).Run (stepsMeet SparesSucceeded) (Machine.start s) b →
      (app cfg).next b act = some c → (Agrees c.store ↔ stepsMeet SparesSucceeded b act) := by
  have hinv : ∀ b, (app cfg).Run (stepsMeet SparesSucceeded) (Machine.start s) b →
      SubscriptionsOwned b.store ∧ Agrees b.store := fun b hr =>
    ledger_run (I := fun s => SubscriptionsOwned s ∧ Agrees s)
      (fun _ _ _ _ h hspares hI => ⟨h.owned hI.1, h.agrees hspares hI.1 hI.2⟩)
      ⟨howned, hagrees⟩ hr
  refine ⟨fun b hr => (hinv b hr).2, ?_⟩
  intro b act c hr hnext
  obtain ⟨hob, hab⟩ := hinv b hr
  rcases next_ledger (C := SparesSucceeded) hnext with ⟨hsame, hmeet⟩ | ⟨o, e, hstep, hmeet⟩
  · rw [← hsame]
    exact ⟨fun _ => hmeet, fun _ => hab⟩
  · rw [hmeet]
    exact ⟨hstep.spares_of_agrees hab, fun hspares => hstep.agrees hspares hob hab⟩

/-- A payment in order, and a Subscription to agree on. -/
theorem subscription_agrees_with_status_sample :
    ∃ b : AppState,
      (app sampleConfig).Run (stepsMeet SparesSucceeded) (Machine.start .empty) b ∧
      b.store.subscriptions.rows.length = 1 ∧ Agrees b.store := by
  obtain ⟨b, hr, hb⟩ := Machine.exists_run_of_replay (m := app sampleConfig)
    (a := Machine.start .empty) (stepsMeet SparesSucceeded)
    (sampleRegistration ++ samplePush ++ sampleActivation)
    (fun b => b.store.subscriptions.rows.length == 1) (by decide +kernel)
  refine ⟨b, hr, by simpa using hb, ?_⟩
  exact (subscription_agrees_with_status (fun x hx => absurd hx (Table.not_mem_empty x))
    fun t ht => absurd ht (Table.not_mem_empty t)).1 b hr

/-- The sweep of thread 2 selects `tx-1` while it is `PENDING`, thread 3
activates it, and then the sweep goes on. -/
def sampleSelection : List (Action Ambient Request) :=
  [.step 1 (.quiet 1004), .begin .sweepTick, .step 2 (.quiet 200000), .step 2 (.quiet 200001),
    .begin (sampleCallback "0" "ws-1"), .step 3 (.quiet 200002), .step 3 (.quiet 200003),
    .step 3 (.quiet 200004), .step 3 (.quiet 200005),
    .step 3 ((Ambient.quiet 200006).generating "sub-1")]

/-- The selected row is marked although it has been activated since. -/
def sampleMark : List (Action Ambient Request) :=
  [.step 2 (.quiet 200007), .step 2 (.quiet 200008)]

/-- The sweep leaves a Subscription on a `TIMED_OUT` Transaction. -/
theorem sweep_overwrites_succeeded :
    ∃ b : AppState, (app sampleConfig).Run anyAction (Machine.start .empty) b ∧
      ¬ Agrees b.store := by
  obtain ⟨b, hr, hb⟩ := Machine.exists_run_of_replay (m := app sampleConfig)
    (a := Machine.start .empty) anyAction
    (sampleRegistration ++ samplePush ++ sampleSelection ++ sampleMark)
    (fun b => !decide (Agrees b.store)) (by decide +kernel)
  exact ⟨b, hr, by simpa using hb⟩

/-! ## A status is final -/

/-- The row, status and `resolvedAt` an accepted statement writes. -/
def statusWrite : Prog.Entry Sig → Option (String × TransactionStatus × Millis)
  | ⟨.transaction (.markFailed id resolvedAt _), .ok _⟩ => some (id, .FAILED, resolvedAt)
  | ⟨.transaction (.markTimedOut id resolvedAt), .ok _⟩ => some (id, .TIMED_OUT, resolvedAt)
  | ⟨.subscription (.commitActivation id _ resolvedAt _ _), .ok _⟩ =>
      some (id, .SUCCEEDED, resolvedAt)
  | _ => none

/-- An accepted status write meets a `PENDING` row, or writes what is there
already. -/
def SettlesPending (s : Store) (e : Prog.Entry Sig) : Prop :=
  ∀ id status resolvedAt, statusWrite e = some (id, status, resolvedAt) →
    ∀ t ∈ s.transactions, t.id = id →
      t.status = .PENDING ∨ (t.status = status ∧ t.resolvedAt = some resolvedAt)

/-- What had left `PENDING` in `s` has the same status and `resolvedAt` in
`s'`. -/
def FinalSince (s s' : Store) : Prop :=
  ∀ t ∈ s.transactions, t.status ≠ .PENDING →
    ∃ t' ∈ s'.transactions, t'.id = t.id ∧ t'.status = t.status ∧ t'.resolvedAt = t.resolvedAt

instance (s s' : Store) : Decidable (FinalSince s s') :=
  inferInstanceAs (Decidable (∀ t ∈ s.transactions.rows, t.status ≠ .PENDING →
    ∃ t' ∈ s'.transactions.rows,
      t'.id = t.id ∧ t'.status = t.status ∧ t'.resolvedAt = t.resolvedAt))

theorem FinalSince.refl (s : Store) : FinalSince s s := fun t ht _ => ⟨t, ht, rfl, rfl, rfl⟩

theorem FinalSince.trans {s s' s'' : Store} (h : FinalSince s s') (h' : FinalSince s' s'') :
    FinalSince s s'' := by
  intro t ht hst
  obtain ⟨t', ht', hid', hst', hat'⟩ := h t ht hst
  obtain ⟨t'', ht'', hid'', hst'', hat''⟩ := h' t' ht' (by rw [hst']; exact hst)
  exact ⟨t'', ht'', hid''.trans hid', hst''.trans hst', hat''.trans hat'⟩

/-- An update keeps what is final when the row it meets was `PENDING` or keeps
its status and `resolvedAt`. -/
theorem RowUpdated.final {id : String} {f : Transaction → Transaction}
    (h : RowUpdated s s' id f) (hf : ∀ t : Transaction, (f t).id = t.id)
    (hst : ∀ t ∈ s.transactions, t.id = id →
      t.status = .PENDING ∨ ((f t).status = t.status ∧ (f t).resolvedAt = t.resolvedAt)) :
    FinalSince s s' := by
  intro t ht hleft
  by_cases hid : t.id = id
  · rcases hst t ht hid with hpending | ⟨hst, hat⟩
    · exact absurd hpending hleft
    · exact ⟨f t, h.of_id ht hid, hf t, hst, hat⟩
  · exact ⟨t, h.of_ne ht hid, rfl, rfl, rfl⟩

/-- One step that settles only `PENDING` rows keeps what is final. -/
theorem LedgerStep.final (h : LedgerStep o s s' e) (hsettles : SettlesPending s e) :
    FinalSince s s' := by
  -- the three status writes have one form
  have sets : ∀ id status resolvedAt (f : Transaction → Transaction), RowUpdated s s' id f →
      statusWrite e = some (id, status, resolvedAt) → (∀ t : Transaction, (f t).id = t.id ∧
        (f t).status = status ∧ (f t).resolvedAt = some resolvedAt) → FinalSince s s' := by
    intro id status resolvedAt f hrows hwrite hf
    apply hrows.final (fun t => (hf t).1)
    intro t ht hid
    rcases hsettles id status resolvedAt hwrite t ht hid with hpending | ⟨hst, hat⟩
    · exact .inl hpending
    · exact .inr ⟨(hf t).2.1.trans hst.symm, (hf t).2.2.trans hat.symm⟩
  cases h with
  | quiet _ ht _ => exact fun t hmem _ => ⟨t, ht ▸ hmem, rfl, rfl, rfl⟩
  | create _ _ ht _ =>
      exact fun t hmem _ => ⟨t, (Table.mem_insert? ht).mpr (.inl hmem), rfl, rfl, rfl⟩
  | refer _ _ _ hrows _ => exact hrows.final (fun _ => rfl) fun _ _ _ => .inr ⟨rfl, rfl⟩
  | fail _ _ _ hrows _ => exact sets _ _ _ _ hrows rfl fun _ => ⟨rfl, rfl, rfl⟩
  | timeOut _ _ hrows _ => exact sets _ _ _ _ hrows rfl fun _ => ⟨rfl, rfl, rfl⟩
  | activate _ _ _ hrows _ => exact sets _ _ _ _ hrows rfl fun _ => ⟨rfl, rfl, rfl⟩

/-- A step that does not changes a final row. -/
theorem LedgerStep.settles_of_final (h : LedgerStep o s s' e) (hfinal : FinalSince s s') :
    SettlesPending s e := by
  have written : ∀ id status resolvedAt (f : Transaction → Transaction), RowUpdated s s' id f →
      (∀ t : Transaction, (f t).id = t.id ∧ (f t).status = status ∧
        (f t).resolvedAt = some resolvedAt) → ∀ t ∈ s.transactions, t.id = id →
      t.status = .PENDING ∨ (t.status = status ∧ t.resolvedAt = some resolvedAt) := by
    intro id status resolvedAt f hrows hf t ht hid
    by_cases hpending : t.status = .PENDING
    · exact .inl hpending
    -- a final row is still there, so what was written is what it had
    · obtain ⟨t', ht', hid', hst', hat'⟩ := hfinal t ht hpending
      have heq : t' = f t :=
        transactions_eq_of_id ht' (hrows.of_id ht hid) (by rw [hid', (hf t).1])
      subst heq
      exact .inr ⟨hst'.symm.trans (hf t).2.1, hat'.symm.trans (hf t).2.2⟩
  intro id status resolvedAt hwrite
  cases h with
  | fail _ _ _ hrows _ =>
      cases hwrite
      exact written _ _ _ _ hrows fun _ => ⟨rfl, rfl, rfl⟩
  | timeOut _ _ hrows _ =>
      cases hwrite
      exact written _ _ _ _ hrows fun _ => ⟨rfl, rfl, rfl⟩
  | activate _ _ _ hrows _ =>
      cases hwrite
      exact written _ _ _ _ hrows fun _ => ⟨rfl, rfl, rfl⟩
  | quiet hquiet _ _ =>
      unfold statusWrite at hwrite
      split at hwrite
      · cases hquiet
      · cases hquiet
      · cases hquiet
      · cases hwrite
  | create _ _ _ _ => cases hwrite
  | refer _ _ _ _ _ => cases hwrite

/-- **A terminal status is final** in every run whose status writes meet
`PENDING` rows; and a step keeps every final row exactly when it meets that
condition. -/
theorem terminal_status_is_final {cfg : AppConfig} :
    (∀ a b : AppState, (app cfg).Run (stepsMeet SettlesPending) a b →
      FinalSince a.store b.store) ∧
    ∀ (a b : AppState) act, (app cfg).next a act = some b →
      (FinalSince a.store b.store ↔ stepsMeet SettlesPending a act) := by
  refine ⟨?_, ?_⟩
  · intro a b hr
    exact ledger_run (I := fun s => FinalSince a.store s)
      (fun _ _ _ _ h hsettles hI => hI.trans (h.final hsettles)) (.refl _) hr
  · intro a b act hnext
    rcases next_ledger (C := SettlesPending) hnext with ⟨hsame, hmeet⟩ | ⟨o, e, hstep, hmeet⟩
    · rw [← hsame]
      exact ⟨fun _ => hmeet, fun _ => .refl _⟩
    · rw [hmeet]
      exact ⟨hstep.settles_of_final, hstep.final⟩

/-- The same sweep turns `SUCCEEDED` into `TIMED_OUT`. -/
theorem sweep_changes_terminal_status :
    ∃ a b : AppState, (app sampleConfig).Run anyAction (Machine.start .empty) a ∧
      (app sampleConfig).Run anyAction a b ∧ ¬ FinalSince a.store b.store := by
  obtain ⟨a, b, ha, hb, hp⟩ := Machine.exists_runs_of_replay (m := app sampleConfig)
    (s := Machine.start .empty) anyAction (sampleRegistration ++ samplePush ++ sampleSelection) sampleMark
    (fun a b => !decide (FinalSince a.store b.store)) (by decide +kernel)
  exact ⟨a, b, ha, hb, by simpa using hp⟩

/-! ## One pending payment -/

/-- Every user has at most one `PENDING` Transaction. -/
def OnePending (s : Store) : Prop :=
  ∀ t ∈ s.transactions, ∀ t' ∈ s.transactions, t.status = .PENDING → t'.status = .PENDING →
    t.userId = t'.userId → t = t'

instance : Decidable (OnePending s) :=
  inferInstanceAs (Decidable (∀ t ∈ s.transactions.rows, ∀ t' ∈ s.transactions.rows,
    t.status = .PENDING → t'.status = .PENDING → t.userId = t'.userId → t = t'))

/-- The user an accepted insert is for. -/
def createdFor : Prog.Entry Sig → Option String
  | ⟨.transaction (.create userId _ _), .ok _⟩ => some userId
  | _ => none

/-- An accepted insert finds no `PENDING` Transaction of its user. -/
def CreatesAlone (s : Store) (e : Prog.Entry Sig) : Prop :=
  ∀ userId, createdFor e = some userId →
    ∀ t ∈ s.transactions, t.userId = userId → t.status ≠ .PENDING

instance (s : Store) (e : Prog.Entry Sig) : Decidable (CreatesAlone s e) :=
  inferInstanceAs (Decidable (∀ userId ∈ createdFor e, ∀ t ∈ s.transactions.rows,
    t.userId = userId → t.status ≠ .PENDING))

/-- An update that makes no row `PENDING` makes no second one. -/
theorem RowUpdated.onePending {id : String} {f : Transaction → Transaction}
    (h : RowUpdated s s' id f) (hf : ∀ t : Transaction, (f t).userId = t.userId)
    (hst : ∀ t : Transaction, (f t).status = .PENDING → t.status = .PENDING)
    (hone : OnePending s) : OnePending s' := by
  -- a row `PENDING` after the update was so before it
  have back : ∀ t' ∈ s'.transactions, t'.status = .PENDING → ∃ t ∈ s.transactions,
      t.status = .PENDING ∧ t.userId = t'.userId ∧ (if t.id == id then f t else t) = t' := by
    intro t' ht' hpending
    obtain ⟨t, ht, heq⟩ := h.mem.mp ht'
    refine ⟨t, ht, ?_, ?_, heq⟩
    · split at heq
      · exact hst t (heq ▸ hpending)
      · exact heq ▸ hpending
    · split at heq
      · rw [← heq, hf]
      · rw [heq]
  intro t ht t' ht' hpending hpending' huser
  obtain ⟨r, hr, hrp, hru, rfl⟩ := back t ht hpending
  obtain ⟨r', hr', hrp', hru', rfl⟩ := back t' ht' hpending'
  rw [hone r hr r' hr' hrp hrp' (by rw [hru, huser, hru'])]

/-- One step whose insert is alone keeps at most one `PENDING` row a user. -/
theorem LedgerStep.onePending (h : LedgerStep o s s' e) (halone : CreatesAlone s e)
    (hone : OnePending s) : OnePending s' := by
  cases h with
  | quiet _ ht _ =>
      unfold OnePending
      rw [ht]
      exact hone
  | create _ _ ht _ =>
      intro t hmem t' hmem' hpending hpending' huser
      rcases (Table.mem_insert? ht).mp hmem with hold | rfl <;>
        rcases (Table.mem_insert? ht).mp hmem' with hold' | rfl
      · exact hone t hold t' hold' hpending hpending' huser
      · exact absurd hpending (halone _ rfl t hold huser)
      · exact absurd hpending' (halone _ rfl t' hold' huser.symm)
      · rfl
  | refer _ _ _ hrows _ => exact hrows.onePending (fun _ => rfl) (fun _ h => h) hone
  | fail _ _ _ hrows _ => exact hrows.onePending (fun _ => rfl) (fun _ h => nomatch h) hone
  | timeOut _ _ hrows _ => exact hrows.onePending (fun _ => rfl) (fun _ h => nomatch h) hone
  | activate _ _ _ hrows _ => exact hrows.onePending (fun _ => rfl) (fun _ h => nomatch h) hone

/-- An insert that is not alone makes a second one. -/
theorem LedgerStep.alone_of_onePending (h : LedgerStep o s s' e) (hone : OnePending s') :
    CreatesAlone s e := by
  intro userId hfor t ht huser hpending
  cases h with
  | create _ _ hins _ =>
      cases hfor
      have heq := hone t ((Table.mem_insert? hins).mpr (.inl ht)) _
        ((Table.mem_insert? hins).mpr (.inr rfl)) hpending rfl huser
      have hfresh := Table.insert?_fresh hins ht
      rw [heq, Indexed.clash_self] at hfresh
      cases hfresh
  | quiet hquiet _ _ =>
      unfold createdFor at hfor
      split at hfor
      · cases hquiet
      · cases hfor
  | refer _ _ _ _ _ => cases hfor
  | fail _ _ _ _ _ => cases hfor
  | timeOut _ _ _ _ => cases hfor
  | activate _ _ _ _ _ => cases hfor

/-- **One pending payment per user** in every run whose inserts find no
`PENDING` Transaction of their user; and an insert that finds one makes a
second. -/
theorem one_pending_payment_per_user {cfg : AppConfig} {s : Store} (hone : OnePending s) :
    (∀ b, (app cfg).Run (stepsMeet CreatesAlone) (Machine.start s) b → OnePending b.store) ∧
    ∀ b act c, (app cfg).Run (stepsMeet CreatesAlone) (Machine.start s) b →
      (app cfg).next b act = some c → (OnePending c.store ↔ stepsMeet CreatesAlone b act) := by
  have hinv : ∀ b, (app cfg).Run (stepsMeet CreatesAlone) (Machine.start s) b →
      OnePending b.store := fun b hr =>
    ledger_run (I := OnePending) (fun _ _ _ _ h halone hI => h.onePending halone hI) hone hr
  refine ⟨hinv, ?_⟩
  intro b act c hr hnext
  rcases next_ledger (C := CreatesAlone) hnext with ⟨hsame, hmeet⟩ | ⟨o, e, hstep, hmeet⟩
  · rw [← hsame]
    exact ⟨fun _ => hmeet, fun _ => hinv b hr⟩
  · rw [hmeet]
    exact ⟨hstep.alone_of_onePending, fun halone => hstep.onePending halone (hinv b hr)⟩

/-- An initiation, and the payment it leaves pending. -/
theorem one_pending_payment_per_user_sample :
    ∃ b : AppState, (app sampleConfig).Run (stepsMeet CreatesAlone) (Machine.start .empty) b ∧
      b.store.transactions.rows.length = 1 ∧ OnePending b.store := by
  obtain ⟨b, hr, hb⟩ := Machine.exists_run_of_replay (m := app sampleConfig)
    (a := Machine.start .empty) (stepsMeet CreatesAlone) (sampleRegistration ++ samplePush)
    (fun b => b.store.transactions.rows.length == 1) (by decide +kernel)
  refine ⟨b, hr, by simpa using hb, ?_⟩
  exact (one_pending_payment_per_user fun t ht => absurd ht (Table.not_mem_empty t)).1 b hr

/-- Two initiations of one user, each reading before the other inserts. -/
def sampleDoubleInitiation : List (Action Ambient Request) :=
  [.begin (.initiateMpesa (some sampleUser) "0712345678"),
    .begin (.initiateBankGateway (some sampleUser)),
    .step 1 (.quiet 1000), .step 2 (.quiet 1001),
    .step 1 ((Ambient.quiet 1002).generating "tx-1"),
    .step 2 ((Ambient.quiet 1003).generating "tx-2")]

/-- Concurrent initiations leave two `PENDING` Transactions. -/
theorem initiations_both_pending :
    ∃ b : AppState, (app sampleConfig).Run anyAction (Machine.start .empty) b ∧
      ¬ OnePending b.store := by
  obtain ⟨b, hr, hb⟩ := Machine.exists_run_of_replay (m := app sampleConfig)
    (a := Machine.start .empty) anyAction (sampleRegistration ++ sampleDoubleInitiation)
    (fun b => !decide (OnePending b.store)) (by decide +kernel)
  exact ⟨b, hr, by simpa using hb⟩

end StreamingService

import StreamingService.Lib.Crash
import StreamingService.Payments.Ledger

/-!
# Payments — Sweep

What a tick of the timeout sweep frees. It selects M-Pesa pushes only, while
`createPending` refuses on any `PENDING` attempt of the user: a completed
tick leaves no old M-Pesa attempt `PENDING`, and a user held back by such
attempts alone can pay again. A bank-gateway checkout the user abandoned is
never selected.
-/

namespace StreamingService

open Lib

/-! ## The loop -/

/-- An M-Pesa push nobody answered before `cutoff`. -/
structure Transaction.Stale (cutoff : Millis) (t : Transaction) : Prop where
  method : t.method = .MPESA
  status : t.status = .PENDING
  initiatedAt : t.initiatedAt < cutoff

/-- The loop has `rest` still to mark: no other row is stale, and every
`PENDING` row is one of before the tick. -/
structure Marking (cutoff : Millis) (before s : Store) (rest : List Transaction) : Prop where
  remaining : ∀ x ∈ s.transactions, x.Stale cutoff → ∃ y ∈ rest, y.id = x.id
  pending : ∀ x ∈ s.transactions, x.status = .PENDING → x ∈ before.transactions

section

variable {cutoff : Millis} {before s s' : Store} {o : Ambient}

/-- One row marked. -/
theorem Marking.marked {t : Transaction} {rest : List Transaction} {resolvedAt : Millis}
    (h : Marking cutoff before s (t :: rest))
    (hrows : RowUpdated s s' t.id (.timeOut resolvedAt)) : Marking cutoff before s' rest where
  remaining := by
    intro x hx hstale
    rcases hrows.cases hx with ⟨row, -, -, rfl⟩ | ⟨hx, hne⟩
    · cases hstale.status
    · obtain ⟨y, hy, hid⟩ := h.remaining x hx hstale
      rcases List.mem_cons.mp hy with rfl | hy
      · exact absurd hid.symm hne
      · exact ⟨y, hy, hid⟩
  pending := by
    intro x hx hst
    rcases hrows.cases hx with ⟨row, -, -, rfl⟩ | ⟨hx, -⟩
    · cases hst
    · exact h.pending x hx hst

theorem markTimedOut_ok {id : String} {resolvedAt : Millis} {t : Transaction}
    (h : exec o (.transaction (.markTimedOut id resolvedAt)) s = (.ok t, s')) :
    RowUpdated s s' id (.timeOut resolvedAt) := by
  have hstep := exec_ledger o (.transaction (.markTimedOut id resolvedAt)) s
  rw [h] at hstep
  cases hstep with
  | quiet hquiet _ _ => simp [isLedgerWrite] at hquiet
  | timeOut _ _ hrows _ => exact hrows

/-- Nothing of interest about the stores on the way. -/
abbrev anyStore : Store → Prop := fun _ => True

/-- **The loop** marks every row that is left, when it runs to its end. -/
theorem markStale_safe {rest : List Transaction} (h : Marking cutoff before s rest) :
    (PaymentsService.markStale rest).Safe exec (fun _ _ => True) anyStore
      (fun r s' => r = .ok () → Marking cutoff before s' []) s := by
  induction rest generalizing s with
  | nil => exact ⟨trivial, fun _ => h⟩
  | cons t rest ih =>
      refine Prog.Safe.bind (Q := fun r s' => ∀ row, r = .ok row → Marking cutoff before s' rest)
        ?_ (fun row s' hmarked => ih (hmarked row rfl)) ?_
      · refine Prog.Safe.perform_bind trivial ?_ ?_
        · intro o resolvedAt s₁ _ hnow
          have hs := now_store hnow
          subst hs
          refine Prog.Safe.perform (S := Sig)
            (c := .transaction (.markTimedOut t.id resolvedAt)) trivial ?_
          intro o' r s₂ _ hmark
          refine ⟨trivial, ?_⟩
          intro row hrow
          subst hrow
          exact h.marked (markTimedOut_ok hmark)
        · intro o e s' _ hnow
          exact (now_error hnow).elim
      · intro e s' _ hr
        cases hr

end

/-! ## A tick -/

/-- The store after a tick that runs alone. -/
def afterTick (cfg : AppConfig) (os : Nat → Ambient) (s : Store) : Store :=
  (handle cfg .sweepTick).runStore exec os s

/-- The tick runs to completion. -/
def TickCompletes (cfg : AppConfig) (os : Nat → Ambient) (s : Store) : Prop :=
  ((handle cfg .sweepTick).run exec os s).1.isOk = true

theorem findStale_ok {o : Ambient} {s s' : Store} {cutoff : Option Millis}
    {stale : List Transaction}
    (h : exec o (.transaction (.findStale cutoff)) s = (.ok stale, s')) :
    s' = s ∧ ∃ c, cutoff = some c ∧ stale = s.transactions.filter fun t =>
      t.method == .MPESA && t.status == .PENDING && decide (t.initiatedAt < c) := by
  have h := exec_ok h
  simp only [answer, TransactionStmt.answer] at h
  cases hdate : prismaDate cutoff with
  | none =>
      rw [hdate] at h
      cases h
  | some c =>
      rw [hdate] at h
      cases h
      exact ⟨rfl, c, (prismaDate_eq_some.mp hdate).1, rfl⟩

instance (cfg : AppConfig) (os : Nat → Ambient) (s : Store) :
    Decidable (TickCompletes cfg os s) :=
  inferInstanceAs (Decidable (_ = true))

/-- What the tick selects is everything there is to mark. -/
theorem Marking.start (cutoff : Millis) (s : Store) :
    Marking cutoff s s (s.transactions.filter fun t =>
      t.method == .MPESA && t.status == .PENDING && decide (t.initiatedAt < cutoff)) where
  remaining := by
    intro x hx hstale
    refine ⟨x, Table.mem_filter.mpr ⟨hx, ?_⟩, rfl⟩
    simp [hstale.method, hstale.status, hstale.initiatedAt]
  pending := fun _ hx _ => hx

/-- The rest of a tick, once the clock has given its cutoff. -/
def sweepFrom (cutoff : Option Millis) : App Reply := do
  (stmt (.transaction (.findStale cutoff)) >>= PaymentsService.markStale)
  return .ack

theorem sweepFrom_safe (cutoff : Millis) (s : Store) :
    (sweepFrom (validDate (some cutoff))).Safe exec (fun _ _ => True) anyStore
      (fun r s' => r.isOk = true → Marking cutoff s s' []) s := by
  refine Prog.Safe.bind (Q := fun r s' => r = .ok () → Marking cutoff s s' []) ?_ ?_ ?_
  · refine Prog.Safe.perform_bind trivial ?_ ?_
    · intro o stale s' _ hfind
      obtain ⟨rfl, c, hc, rfl⟩ := findStale_ok hfind
      cases (validDate_some hc).1
      exact markStale_safe (.start _ _)
    · intro o e s' _ _
      exact ⟨trivial, fun hr => by cases hr⟩
  · intro _ s' hmarked
    exact ⟨trivial, fun _ => hmarked rfl⟩
  · intro e s' _ hr
    cases hr

theorem tick_marks {cfg : AppConfig} {timeout : Int}
    (htimeout : cfg.mpesa.stkTimeoutSeconds = some timeout) {os : Nat → Ambient} {s : Store}
    (h : TickCompletes cfg os s) :
    Marking ((os 0).now - timeout * 1000) s (afterTick cfg os s) [] := by
  have hrun : (handle cfg .sweepTick).run exec os s =
      (sweepFrom (validDate (cfg.mpesa.stkTimeoutSeconds.map fun t =>
        (os 0).now - t * 1000))).run exec (fun n => os (n + 1)) s := rfl
  rw [htimeout] at hrun
  unfold TickCompletes at h
  unfold afterTick Prog.runStore
  rw [hrun] at h ⊢
  exact (sweepFrom_safe _ s).run (Prog.along_true _ _ _) h

/-! ## Paying again -/

section

variable {cfg : AppConfig} {userId : String} {method : PaymentMethod} {s : Store}
  {os : Nat → Ambient}

/-- Without a `PENDING` attempt of the user, `createPending` comes to its insert. -/
theorem createPending_run (hos : ∀ n, (os n).fault = none)
    (hfree : ∀ x ∈ s.transactions, x.userId = userId → x.status ≠ .PENDING) :
    ((TransactionsService.createPending cfg userId method).run exec os s).1 =
      (exec (os 1) (.transaction (.create userId method cfg.subscription.priceAmount)) s).1 := by
  have hfind : (s.transactions.find? fun t => t.userId == userId && t.status == .PENDING) = none := by
    rw [Table.find?_eq_none]
    intro x hx
    by_cases huser : x.userId = userId
    · simp [huser, hfree x hx huser]
    · simp [huser]
  have hfirst : exec (os 0) (.transaction (.findFirstPending userId)) s = (.ok none, s) := by
    rw [exec_answer (hos 0)]
    simp only [answer, TransactionStmt.answer, hfind]
    rfl
  show ((_ : App Transaction).run exec (fun n => os (n + 1)) _).1 = _
  rw [hfirst]
  rfl

/-- A statement the environment lets through never reports a conflict. -/
theorem not_conflict {o : Ambient} (ho : o.fault = none) (c : Cmd) (message : String) :
    (exec o c s).1 ≠ .error (.conflict message) := by
  intro h
  rw [exec_answer ho] at h
  obtain ⟨p, hp⟩ := answer_error h
  cases hp

theorem create_accepted {o : Ambient} (ho : o.fault = none) {amount : Option Rat} {cents : Int}
    (hcents : amount.bind toCents = some cents) (huser : ∃ u ∈ s.users, u.id = userId)
    (hfresh : ∀ x ∈ s.transactions, x.id ≠ o.fresh) :
    (exec o (.transaction (.create userId method amount)) s).1 =
      .ok (.pending o userId method cents) := by
  obtain ⟨u, hu, hid⟩ := huser
  obtain ⟨u', hu'⟩ := Table.find?_isSome (p := fun u => u.id == userId) hu (by simp [hid])
  obtain ⟨ts, hts⟩ := Table.insert?_of_fresh (t := s.transactions)
    (r := .pending o userId method cents) (by
      intro x hx
      have hne := hfresh x hx
      cases href : x.providerReference <;> simp [Indexed.clash, Transaction.pending, hne, href])
  rw [exec_answer ho]
  simp only [answer, TransactionStmt.answer, hcents, hu', hts]
  rfl

end

/-! ## The guarantee -/

/-- **A completed tick frees everyone held back by M-Pesa pushes alone.** -/
theorem sweep_frees_mpesa_users {cfg : AppConfig} {timeout : Int}
    (htimeout : cfg.mpesa.stkTimeoutSeconds = some timeout) {os : Nat → Ambient} {s : Store}
    (hdone : TickCompletes cfg os s) :
    (∀ x ∈ (afterTick cfg os s).transactions, x.method = .MPESA →
      x.initiatedAt < (os 0).now - timeout * 1000 → x.status ≠ .PENDING) ∧
    ∀ userId, (∀ x ∈ s.transactions, x.userId = userId → x.status = .PENDING →
        x.method = .MPESA ∧ x.initiatedAt < (os 0).now - timeout * 1000) →
      ∀ (method : PaymentMethod) (os' : Nat → Ambient), (∀ n, (os' n).fault = none) →
        (∀ message, ((TransactionsService.createPending cfg userId method).run exec os'
          (afterTick cfg os s)).1 ≠ .error (.conflict message)) ∧
        ∀ cents, cfg.subscription.priceAmount.bind toCents = some cents →
          (∃ u ∈ (afterTick cfg os s).users, u.id = userId) →
          (∀ x ∈ (afterTick cfg os s).transactions, x.id ≠ (os' 1).fresh) →
          ((TransactionsService.createPending cfg userId method).run exec os'
            (afterTick cfg os s)).1 = .ok (.pending (os' 1) userId method cents) := by
  have hmarked := tick_marks htimeout hdone
  have hswept : ∀ x ∈ (afterTick cfg os s).transactions, x.method = .MPESA →
      x.initiatedAt < (os 0).now - timeout * 1000 → x.status ≠ .PENDING := by
    intro x hx hmethod hold hst
    obtain ⟨y, hy, -⟩ := hmarked.remaining x hx ⟨hmethod, hst, hold⟩
    cases hy
  refine ⟨hswept, ?_⟩
  intro userId hpending method os' hos'
  -- whatever is still pending was pending before, and so is an old M-Pesa push
  have hfree : ∀ x ∈ (afterTick cfg os s).transactions, x.userId = userId →
      x.status ≠ .PENDING := by
    intro x hx huser hst
    obtain ⟨hmethod, hold⟩ := hpending x (hmarked.pending x hx hst) huser hst
    exact hswept x hx hmethod hold hst
  rw [createPending_run hos' hfree]
  refine ⟨fun message => not_conflict (hos' 1) _ message, ?_⟩
  intro cents hcents huser hfresh
  exact create_accepted (hos' 1) hcents huser hfresh

/-- Thread 1 opens a bank-gateway checkout nobody completes. -/
def sampleCheckout : List (Action Ambient Request) :=
  [.begin (.initiateBankGateway (some sampleUser)),
    .step 1 (.quiet 1000), .step 1 ((Ambient.quiet 1001).generating "tx-1"),
    .step 1 ((Ambient.quiet 1002).replying
      (.obj [("data", .obj [("link", .str "https://checkout.example.com")])]))]

/-- A push nobody answered, swept a month later: its user opens a checkout. -/
theorem sweep_frees_mpesa_users_sample :
    ∃ b : AppState, (app sampleConfig).Run anyAction (Machine.start .empty) b ∧
      (∃ x ∈ b.store.transactions, x.status = .PENDING ∧ x.userId = "user-1") ∧
      ((TransactionsService.createPending sampleConfig "user-1" .BANK_GATEWAY).run exec
        (fun _ => (Ambient.quiet 3000000000).generating "tx-2")
        (afterTick sampleConfig (fun _ => .quiet 3000000000) b.store)).1 =
          .ok (.pending ((Ambient.quiet 3000000000).generating "tx-2") "user-1" .BANK_GATEWAY
            99900) := by
  obtain ⟨b, hr, hb⟩ := Machine.exists_run_of_replay (m := app sampleConfig)
    (a := Machine.start .empty) anyAction (sampleRegistration ++ samplePush)
    (fun b => decide (TickCompletes sampleConfig (fun _ => .quiet 3000000000) b.store) &&
      decide (∃ x ∈ b.store.transactions.rows, x.status = .PENDING ∧ x.userId = "user-1") &&
      decide (∀ x ∈ b.store.transactions.rows, x.userId = "user-1" → x.status = .PENDING →
        x.method = .MPESA ∧ x.initiatedAt < 3000000000 - 120 * 1000) &&
      decide (∃ u ∈ (afterTick sampleConfig (fun _ => .quiet 3000000000) b.store).users.rows,
        u.id = "user-1") &&
      decide (∀ x ∈ (afterTick sampleConfig (fun _ => .quiet 3000000000)
        b.store).transactions.rows, x.id ≠ "tx-2")) (by decide +kernel)
  simp only [Bool.and_eq_true, decide_eq_true_eq] at hb
  obtain ⟨⟨⟨⟨hdone, hpending⟩, hold⟩, huser⟩, hfresh⟩ := hb
  have hfreed := (sweep_frees_mpesa_users
    (show sampleConfig.mpesa.stkTimeoutSeconds = some 120 by decide +kernel) hdone).2
    "user-1" hold .BANK_GATEWAY (fun _ => (Ambient.quiet 3000000000).generating "tx-2")
    fun _ => rfl
  exact ⟨b, hr, hpending, hfreed.2 99900 (by decide +kernel) huser hfresh⟩

/-- The abandoned checkout is still `PENDING` after the sweep of a month
later, and keeps its user from paying by either method. -/
theorem sweep_keeps_bank_users_locked :
    ∃ b, (app sampleConfig).Run anyAction (Machine.start .empty) b ∧
      TickCompletes sampleConfig (fun _ => .quiet 3000000000) b.store ∧
      (∀ x ∈ b.store.transactions, x.initiatedAt < 3000000000 - 120 * 1000) ∧
      (∃ x ∈ (afterTick sampleConfig (fun _ => .quiet 3000000000) b.store).transactions,
        x.status = .PENDING) ∧
      ∀ method, ((TransactionsService.createPending sampleConfig "user-1" method).run exec
        (fun _ => .quiet 3000000001)
        (afterTick sampleConfig (fun _ => .quiet 3000000000) b.store)).1 =
          .error (.conflict "A payment is already pending for this user") := by
  obtain ⟨b, hr, hb⟩ := Machine.exists_run_of_replay (m := app sampleConfig)
    (a := Machine.start .empty) anyAction (sampleRegistration ++ sampleCheckout)
    (fun b => decide (TickCompletes sampleConfig (fun _ => .quiet 3000000000) b.store) &&
      decide (∀ x ∈ b.store.transactions.rows, x.initiatedAt < 3000000000 - 120 * 1000) &&
      decide (∃ x ∈ (afterTick sampleConfig (fun _ => .quiet 3000000000)
        b.store).transactions.rows, x.status = .PENDING) &&
      [PaymentMethod.MPESA, .BANK_GATEWAY].all fun method =>
        decide (((TransactionsService.createPending sampleConfig "user-1" method).run exec
          (fun _ => .quiet 3000000001)
          (afterTick sampleConfig (fun _ => .quiet 3000000000) b.store)).1 =
            .error (.conflict "A payment is already pending for this user")))
    (by decide +kernel)
  simp only [Bool.and_eq_true, decide_eq_true_eq, List.all_eq_true] at hb
  obtain ⟨⟨⟨hdone, hold⟩, hpending⟩, hconflict⟩ := hb
  refine ⟨b, hr, hdone, hold, hpending, ?_⟩
  intro method
  exact hconflict method (by cases method <;> simp)

end StreamingService

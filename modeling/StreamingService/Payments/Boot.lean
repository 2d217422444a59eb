import StreamingService.Payments.Entitlement
import StreamingService.Payments.ExactlyOnce

/-!
# Payments — Boot

Which configurations can honour a payment. The check at boot looks at five
other variables, so the length of a period and the push timeout reach the
running backend as whatever `parseInt` made of their texts. A period that is
not a number fails the activation after the user has paid; one that is not
positive entitles to nothing, and one that ends beyond the year 9999 at a date
that Prisma does not take.
-/

namespace StreamingService

open Lib

/-- An environment the application boots with outside tests. -/
structure Booted where
  env : Env
  mode : env "NODE_ENV" ≠ some "test"
  accepted : AppConfigModule.validate env = .ok env

def Booted.config (booted : Booted) : AppConfig := configuration booted.env

/-! ## The condition -/

/-- A period of the configured length that starts at `startAt` ends later, at a
date Prisma takes. -/
def SellsPeriod (env : Env) (startAt : Millis) : Prop :=
  ∃ periodDays ∈ parseInt ((env "SUBSCRIPTION_PERIOD_DAYS").getD "30"),
    0 < periodDays ∧ startAt + periodDays * 86400000 ≤ maxPrismaMillis

/-- The configured timeout leads back from `instant` to a valid date. -/
def WaitsBack (env : Env) (instant : Millis) : Prop :=
  ∃ seconds ∈ parseInt ((env "MPESA_STK_TIMEOUT_SECONDS").getD "120"),
    0 ≤ seconds ∧ -maxDateMillis ≤ instant - seconds * 1000

/-- A clock reading is a valid date. -/
def OnTheClock (instant : Millis) : Prop := -maxDateMillis ≤ instant ∧ instant ≤ maxDateMillis

theorem validDate_eq_some {ms : Option Int} {t : Millis} :
    validDate ms = some t ↔ ms = some t ∧ OnTheClock t := by
  constructor
  · intro h
    exact ⟨(validDate_some h).1, (validDate_some h).2⟩
  · rintro ⟨rfl, ht⟩
    exact if_pos ht

/-- The expiry an activation computes. -/
def AppConfig.expiresAt (cfg : AppConfig) (startAt : Millis) : Option Millis :=
  validDate (cfg.subscription.periodMillis.map fun p => startAt + p)

/-- The cutoff a tick of the sweep computes. -/
def AppConfig.cutoff (cfg : AppConfig) (instant : Millis) : Option Millis :=
  validDate (cfg.mpesa.stkTimeoutSeconds.map fun seconds => instant - seconds * 1000)

/-- Prisma takes none but valid dates. -/
theorem Storable.onTheClock {date : Millis} (h : Storable date) : OnTheClock date :=
  ⟨Int.le_trans (by decide) h.1, Int.le_trans h.2 (by decide)⟩

/-- A positive number of days is exactly what leads to a later instant in range. -/
theorem later_iff {a days : Int} (ha : Storable a) :
    (Storable (a + days * 86400000) ∧ a < a + days * 86400000) ↔
      0 < days ∧ a + days * 86400000 ≤ maxPrismaMillis := by
  constructor
  · rintro ⟨⟨-, hmax⟩, hlt⟩
    exact ⟨by omega, hmax⟩
  · rintro ⟨hpos, hmax⟩
    have hlt : a < a + days * 86400000 := by omega
    exact ⟨⟨Int.le_of_lt (Int.lt_of_le_of_lt ha.1 hlt), hmax⟩, hlt⟩

/-- A timeout that is not negative is exactly what leads back. -/
theorem earlier_iff {a seconds max : Int} (ha : a ≤ max) :
    ((-max ≤ a - seconds * 1000 ∧ a - seconds * 1000 ≤ max) ∧ a - seconds * 1000 ≤ a) ↔
      0 ≤ seconds ∧ -max ≤ a - seconds * 1000 := by
  omega

/-- The expiry is a later date that Prisma takes exactly under the condition. -/
theorem expiresAt_iff {env : Env} {startAt : Millis} (hclock : Storable startAt) :
    (∃ e, prismaDate ((configuration env).expiresAt startAt) = some e ∧ startAt < e) ↔
      SellsPeriod env startAt := by
  simp only [AppConfig.expiresAt, prismaDate_eq_some, validDate_eq_some]
  cases hdays : parseInt ((env "SUBSCRIPTION_PERIOD_DAYS").getD "30") with
  | none => simp [SubscriptionConfig.periodMillis, configuration, SellsPeriod, hdays]
  | some periodDays =>
      rw [periodMillis_eq (c := (configuration env).subscription) hdays]
      simp only [SellsPeriod, hdays, Option.map_some, Option.some.injEq, Option.mem_def,
        exists_eq_left', and_assoc]
      rw [← later_iff hclock]
      exact and_iff_right_of_imp fun h => h.1.onTheClock

/-- The cutoff is a date not later than now exactly under the condition. -/
theorem cutoff_iff {env : Env} {instant : Millis} (hclock : OnTheClock instant) :
    (∃ c, (configuration env).cutoff instant = some c ∧ c ≤ instant) ↔ WaitsBack env instant := by
  simp only [AppConfig.cutoff, validDate_eq_some]
  cases hseconds : parseInt ((env "MPESA_STK_TIMEOUT_SECONDS").getD "120") with
  | none => simp [configuration, WaitsBack, hseconds]
  | some seconds =>
      simp only [configuration, WaitsBack, hseconds, Option.map_some, Option.some.injEq,
        Option.mem_def, exists_eq_left', and_assoc]
      exact earlier_iff hclock.2

/-! ## Activation -/

/-- The Subscription `sub` honours the payment `t` in this store. -/
structure Honours (sub : Subscription) (t : Transaction) (s : Store) : Prop where
  stored : sub ∈ s.subscriptions
  transaction : sub.transactionId = t.id
  user : sub.userId = t.userId
  valid : Storable sub.expiresAt
  later : sub.startAt < sub.expiresAt
  succeeded : ∃ x ∈ s.transactions, x.id = t.id ∧ x.status = .SUCCEEDED
  /-- From the activation on, until the period ends. -/
  entitled : ∀ instant, sub.startAt ≤ instant → instant < sub.expiresAt →
    AnswersAt instant (EntitlementGuard.hasActiveSubscription t.userId) s (.ok true)

/-- The activation of `t`, run alone, succeeds and honours the payment. -/
def Honoured (cfg : AppConfig) (t : Transaction) (os : Nat → Ambient) (s : Store) : Prop :=
  ∃ sub, ((SubscriptionsService.activateFromTransaction cfg t.id).run exec os s).1 = .ok sub ∧
    Honours sub t ((SubscriptionsService.activateFromTransaction cfg t.id).runStore exec os s)

/-- The database serves an activation: nothing fails, the generated id is new and
the clock gives dates that Prisma takes. -/
structure ServesActivation (os : Nat → Ambient) (s : Store) : Prop where
  fault : ∀ n, (os n).fault = none
  fresh : ∀ x ∈ s.subscriptions, x.id ≠ (os 3).fresh
  clock : ∀ n, Storable (os n).now

/-- The payment can be activated: it is stored with its user, and has bought
nothing yet. -/
structure Payable (t : Transaction) (s : Store) : Prop where
  stored : t ∈ s.transactions
  user : ∃ u ∈ s.users, u.id = t.userId
  unpaid : ∀ x ∈ s.subscriptions, x.transactionId ≠ t.id

section

variable {cfg : AppConfig} {t : Transaction} {os : Nat → Ambient} {s : Store}

/-- What an activation inserts. -/
def purchased (t : Transaction) (os : Nat → Ambient) (expiresAt : Millis) : Subscription where
  id := (os 3).fresh
  userId := t.userId
  status := .ACTIVE
  startAt := (os 2).now
  expiresAt := expiresAt
  transactionId := t.id

/-- The activation comes down to its commit. -/
theorem activation_run (ht : Payable t s) (hos : ServesActivation os s) :
    (SubscriptionsService.activateFromTransaction cfg t.id).run exec os s =
      (Prog.perform (S := Sig) (.subscription (.commitActivation t.id t.userId (os 1).now (os 2).now
        (cfg.expiresAt (os 2).now)))).run exec (fun n => os (n + 3)) s := by
  have hnone : (s.subscriptions.find? fun x => x.transactionId == t.id) = none := by
    rw [Table.find?_eq_none]
    intro x hx
    simpa using ht.unpaid x hx
  have hread : exec (os 0) (.subscription (.readForActivation t.id)) s =
      (.ok (some (t, none)), s) := by
    rw [exec_answer (hos.fault 0)]
    simp only [answer, SubscriptionStmt.answer, transactions_find? ht.stored rfl, Option.map_some,
      hnone]
    rfl
  show ((_ : App Subscription).run exec (fun n => os (n + 1)) _) = _
  rw [hread]
  rfl

/-- A date to end at, one that Prisma takes, is what the commit needs. -/
theorem activation_answers (cfg : AppConfig) (ht : Payable t s) (hos : ServesActivation os s) :
    match prismaDate (cfg.expiresAt (os 2).now) with
    | none => ((SubscriptionsService.activateFromTransaction cfg t.id).run exec os s).1 =
        .error (.prisma .validation)
    | some expiresAt =>
        ((SubscriptionsService.activateFromTransaction cfg t.id).run exec os s).1 =
            .ok (purchased t os expiresAt) ∧
          ∃ subs, s.subscriptions.insert? (purchased t os expiresAt) = some subs ∧
            (SubscriptionsService.activateFromTransaction cfg t.id).runStore exec os s =
              { s with
                subscriptions := subs
                transactions := s.transactions.update (fun x => x.id == t.id)
                  (.succeed (os 1).now) fun _ _ => rfl } := by
  obtain ⟨u, hu, huser⟩ := ht.user
  unfold Prog.runStore
  rw [activation_run ht hos]
  simp only [Prog.perform, Prog.run_call, Prog.run_done, exec_answer (hos.fault 3), answer,
    SubscriptionStmt.answer, transactions_find? ht.stored rfl, users_find? hu huser]
  cases hexp : prismaDate (cfg.expiresAt (os 2).now) with
  | none => rfl
  | some expiresAt =>
      obtain ⟨subs, hsubs⟩ := Table.insert?_of_fresh (t := s.subscriptions)
        (r := purchased t os expiresAt) fun x hx => by
          simp [Indexed.clash, purchased, hos.fresh x hx, ht.unpaid x hx]
      have hins := hsubs
      simp only [purchased] at hins
      simp only [hins]
      exact ⟨rfl, subs, hsubs, rfl⟩

/-- An `ACTIVE` Subscription of the user entitles until it ends. -/
theorem Honours.of_active {s' : Store} {sub : Subscription} (hmem : sub ∈ s'.subscriptions)
    (htransaction : sub.transactionId = t.id) (huser : sub.userId = t.userId)
    (hst : sub.status = .ACTIVE) (hvalid : Storable sub.expiresAt)
    (hlater : sub.startAt < sub.expiresAt)
    (hsucceeded : ∃ x ∈ s'.transactions, x.id = t.id ∧ x.status = .SUCCEEDED) :
    Honours sub t s' where
  stored := hmem
  transaction := htransaction
  user := huser
  valid := hvalid
  later := hlater
  succeeded := hsucceeded
  entitled := by
    intro instant _ hrunning
    have hentitled : s'.entitles t.userId instant = true :=
      entitles_iff.mpr ⟨sub.expiresAt, ⟨sub, hmem, huser, hst, rfl⟩, hrunning⟩
    have hreads := (hasActiveSubscription_reads instant s' t.userId).answersAt
    rw [hentitled] at hreads
    exact hreads

/-- **A payment is honoured exactly when its period ends at a later date that Prisma
takes.** -/
theorem honoured_iff (ht : Payable t s) (hos : ServesActivation os s) :
    Honoured cfg t os s ↔
      ∃ e, prismaDate (cfg.expiresAt (os 2).now) = some e ∧ (os 2).now < e := by
  have hanswers := activation_answers cfg ht hos
  cases hexp : prismaDate (cfg.expiresAt (os 2).now) with
  | none =>
      rw [hexp] at hanswers
      constructor
      · rintro ⟨sub, hsub, -⟩
        rw [hanswers] at hsub
        cases hsub
      · rintro ⟨e, he, -⟩
        cases he
  | some e =>
      rw [hexp] at hanswers
      obtain ⟨hok, subs, hsubs, hstore⟩ := hanswers
      constructor
      · rintro ⟨sub, hsub, hhonours⟩
        rw [hok] at hsub
        cases hsub
        exact ⟨e, rfl, hhonours.later⟩
      · rintro ⟨e', he', hlater⟩
        cases he'
        refine ⟨purchased t os e, hok, ?_⟩
        rw [hstore]
        exact .of_active ((Table.mem_insert? hsubs).mpr (.inr rfl)) rfl rfl rfl
          (prismaDate_eq_some.mp hexp).2 hlater
          ⟨t.succeed (os 1).now, List.mem_map.mpr ⟨t, ht.stored, by simp⟩, rfl, rfl⟩

end

/-! ## Every payment on the way can be activated -/

/-- Users are never deleted or changed. -/
theorem exec_users (o : Ambient) (c : Cmd) (s : Store) {u : User} (hu : u ∈ s.users) :
    u ∈ (exec o c s).2.users := by
  cases c with
  | account c =>
      refine exec_cases (P := fun out => u ∈ out.2.users) (fun _ => hu) ?_
      cases c with
      | createUser email passwordHash =>
          simp only [answer, AccountStmt.answer]
          split
          · exact hu
          · rename_i us hins
            exact (Table.mem_insert? hins).mpr (.inl hu)
      | _ =>
          simp only [answer, AccountStmt.answer]
          repeat' split
          all_goals exact hu
  | _ =>
      rw [((exec_frame o s _).accounts (by simp)).1]
      exact hu

/-- A payment has its user from its insert on. -/
theorem LedgerStep.payer {o : Ambient} {s s' : Store} {e : Prog.Entry Sig}
    (h : LedgerStep o s s' e) {t' : Transaction} (ht' : t' ∈ s'.transactions) :
    (∃ t ∈ s.transactions, t.userId = t'.userId) ∨ ∃ u ∈ s.users, u.id = t'.userId := by
  have updated : ∀ {id : String} {f : Transaction → Transaction}, RowUpdated s s' id f →
      (∀ t : Transaction, t.SameAs (f t)) → ∃ t ∈ s.transactions, t.userId = t'.userId := by
    intro id f hrows hf
    rcases hrows.cases ht' with ⟨t, ht, -, rfl⟩ | ⟨ht, -⟩
    · exact ⟨t, ht, (hf t).userId.symm⟩
    · exact ⟨t', ht, rfl⟩
  cases h with
  | quiet _ hts _ => exact .inl ⟨t', hts ▸ ht', rfl⟩
  | create _ huser hts _ =>
      rcases (Table.mem_insert? hts).mp ht' with ht | rfl
      · exact .inl ⟨t', ht, rfl⟩
      · exact .inr huser
  | refer _ _ _ hrows _ => exact .inl (updated hrows fun _ => ⟨rfl, rfl, rfl, rfl, rfl⟩)
  | fail _ _ _ hrows _ => exact .inl (updated hrows fun _ => ⟨rfl, rfl, rfl, rfl, rfl⟩)
  | timeOut _ _ hrows _ => exact .inl (updated hrows fun _ => ⟨rfl, rfl, rfl, rfl, rfl⟩)
  | activate _ _ _ hrows _ => exact .inl (updated hrows fun _ => ⟨rfl, rfl, rfl, rfl, rfl⟩)

/-- Every payment is stored with its user: the schema's foreign key. -/
def HasPayers (s : Store) : Prop := ∀ t ∈ s.transactions, ∃ u ∈ s.users, u.id = t.userId

/-- No statement breaks the foreign key. -/
theorem HasPayers.run {cfg : AppConfig} {ok : AppState → Action Ambient Request → Prop} {s : Store}
    {b : AppState} (hs : HasPayers s) (hr : (app cfg).Run ok (Machine.start s) b) :
    HasPayers b.store := by
  refine Machine.Run.keeps (I := fun (s : Store) _ => HasPayers s) (fun _ _ _ _ h => h) ?_ hs hr
  intro sys tid o c h _ _ t' ht'
  have hpayer : ∃ u ∈ sys.store.users, u.id = t'.userId := by
    rcases (exec_ledger o c sys.store).payer ht' with ⟨t, ht, heq⟩ | huser
    · exact heq ▸ h t ht
    · exact huser
  obtain ⟨u, hu, huid⟩ := hpayer
  exact ⟨u, exec_users o c sys.store hu, huid⟩

theorem HasPayers.of_empty {s : Store} (ht : s.transactions = .empty) : HasPayers s := by
  intro t hmem
  rw [ht] at hmem
  exact absurd hmem (Table.not_mem_empty t)

/-- **A `PENDING` payment of a run can be activated.** -/
theorem payable_run {cfg : AppConfig} {s : Store} {b : AppState} (ht : s.transactions = .empty)
    (hs : s.subscriptions = .empty) (hr : (app cfg).Run anyAction (Machine.start s) b)
    {t : Transaction} (hmem : t ∈ b.store.transactions) (hpending : t.status = .PENDING) :
    Payable t b.store where
  stored := hmem
  user := (HasPayers.of_empty ht).run hr t hmem
  unpaid := by
    intro x hx hid
    obtain ⟨t', ht', hid', hleft⟩ := paidClosed_run hs hr x hx
    rw [transactions_eq_of_id ht' hmem (hid'.trans hid)] at hleft
    exact hleft hpending

/-! ## The ticks of a run -/

/-- A sweep thread read the clock at `instant` and selected with `cutoff`. -/
def SweptWith (tr : Trace) (instant : Millis) (cutoff : Option Millis) : Prop :=
  ∃ tid, ∃ (e : Prog.Entry Sig) (post pre : Trace), Event.began tid .sweepTick ∈ tr ∧
    tr = post ++ .did tid e :: pre ∧ e.1 = .transaction (.findStale cutoff) ∧
    own tid pre = [⟨Cmd.now, .ok instant⟩]

/-- What a selection of the sweep owes to the statement before it. -/
def CutoffStep (cfg : AppConfig) (q : Request) (h : List (Prog.Entry Sig)) (e : Prog.Entry Sig) :
    Prop :=
  q = .sweepTick → ∀ cutoff, e.1 = .transaction (.findStale cutoff) →
    ∃ instant, h = [⟨Cmd.now, .ok instant⟩] ∧ cutoff = cfg.cutoff instant

/-- The loop over the selected rows selects no more. -/
theorem markStale_selects_none (stale : List Transaction) :
    (PaymentsService.markStale stale).Calls fun c : Cmd =>
      ∀ cutoff, c ≠ .transaction (.findStale cutoff) := by
  induction stale with
  | nil => trivial
  | cons transaction rest ih =>
      refine .bind ?_ fun _ => ih
      exact .perform_bind (by simp) fun _ => ⟨by simp, fun _ => trivial⟩

theorem cutoff_steps (cfg : AppConfig) (q : Request) :
    (handle cfg q).Emits (CutoffStep cfg q) (fun _ _ => True) [] := by
  by_cases hq : q = .sweepTick
  · subst hq
    refine .bind (Q := fun _ _ => True) ?_ (fun _ _ _ => trivial) fun _ _ _ => trivial
    refine .perform_bind (fun instant => ⟨fun _ _ hc => (by cases hc), ?_⟩)
      fun e => ⟨fun _ _ hc => (by cases hc), trivial⟩
    have hselect : ∀ r, CutoffStep cfg .sweepTick [⟨Cmd.now, .ok instant⟩]
        ⟨Cmd.transaction (.findStale (cfg.cutoff instant)), r⟩ := by
      rintro r - cutoff ⟨⟩
      exact ⟨instant, rfl, rfl⟩
    refine .perform_bind (fun stale => ⟨hselect _, ?_⟩) fun e => ⟨hselect _, trivial⟩
    exact .of_calls (markStale_selects_none stale)
      (fun _ _ hc _ cutoff heq => absurd heq (hc cutoff)) fun _ _ => trivial
  · exact .of_calls (handle_calls cfg q) (fun _ _ _ hsweep => absurd hsweep hq) fun _ _ => trivial

/-- A tick of a run computes the cutoff of its clock reading. -/
theorem sweptWith_cutoff {cfg : AppConfig} {ok : AppState → Action Ambient Request → Prop}
    {s : Store} {b : AppState} (hr : (app cfg).Run ok (Machine.start s) b) {instant : Millis}
    {cutoff : Option Millis} (h : SweptWith b.trace instant cutoff) :
    cutoff = cfg.cutoff instant := by
  obtain ⟨tid, e, post, pre, hbegan, htr, he, hown⟩ := h
  obtain ⟨instant', hread, hcutoff⟩ :=
    (Machine.Run.emits (cutoff_steps cfg) hr).at_split hbegan htr rfl cutoff he
  rw [hown] at hread
  cases hread
  exact hcutoff

/-! ## The guarantee -/

/-- **A booted configuration honours payments exactly when both settings are in
range**: in every state of a run, each `PENDING` payment is honoured exactly when
its period ends at a later date that Prisma takes, and a tick's cutoff is a date not
later than now exactly when the timeout leads back to one. -/
theorem honours_payments_iff (booted : Booted) {s : Store} (ht : s.transactions = .empty)
    (hs : s.subscriptions = .empty) {b : AppState}
    (hr : (app booted.config).Run anyAction (Machine.start s) b) :
    (∀ t ∈ b.store.transactions, t.status = .PENDING → ∀ os, ServesActivation os b.store →
      (Honoured booted.config t os b.store ↔ SellsPeriod booted.env (os 2).now)) ∧
    ∀ instant cutoff, OnTheClock instant → SweptWith b.trace instant cutoff →
      ((∃ c, cutoff = some c ∧ c ≤ instant) ↔ WaitsBack booted.env instant) := by
  constructor
  · intro t hmem hpending os hos
    rw [honoured_iff (payable_run ht hs hr hmem hpending) hos]
    exact expiresAt_iff (hos.clock 2)
  · intro instant cutoff hclock hswept
    rw [sweptWith_cutoff hr hswept]
    exact cutoff_iff hclock

/-- An environment with the required variables and the period as given. -/
def periodEnv (periodDays : String) : Env := fun key =>
  [("DATABASE_URL", "postgres"), ("JWT_ACCESS_SECRET", "access"), ("JWT_REFRESH_SECRET", "refresh"),
    ("S3_ACCESS_KEY_ID", "key"), ("S3_SECRET_ACCESS_KEY", "secret"),
    ("SUBSCRIPTION_PERIOD_DAYS", periodDays)].lookup key

def bootedWith (periodDays : String) : Booted where
  env := periodEnv periodDays
  mode := by
    show (none : Option String) ≠ some "test"
    simp
  accepted := by rfl

/-- A database at instant 5000 that gives the new Subscription the id `sub-1`. -/
def activating (_ : Nat) : Ambient := (Ambient.quiet 5000).generating "sub-1"

theorem activating_serves {s : Store} (hs : s.subscriptions.rows = []) :
    ServesActivation activating s where
  fault _ := rfl
  fresh x hx := by
    rw [← Table.mem_rows, hs] at hx
    cases hx
  clock _ := (by decide : Storable 5000)

/-- A run to a `PENDING` payment that has bought nothing yet. -/
theorem pending_of_replay (cfg : AppConfig) (h : ((app cfg).replay anyAction (Machine.start .empty)
    (sampleRegistration ++ samplePush)).map (fun b =>
      (b.store.transactions.rows.any fun t => t.status == .PENDING) &&
        b.store.subscriptions.rows.isEmpty) = some true) :
    ∃ (b : AppState) (t : Transaction), (app cfg).Run anyAction (Machine.start .empty) b ∧
      t ∈ b.store.transactions ∧ t.status = .PENDING ∧ ServesActivation activating b.store := by
  obtain ⟨b, hr, hb⟩ := Machine.exists_run_of_replay anyAction _ _ h
  simp only [Bool.and_eq_true, List.any_eq_true, beq_iff_eq, List.isEmpty_iff] at hb
  obtain ⟨⟨t, hmem, hpending⟩, hnone⟩ := hb
  exact ⟨b, t, hr, hmem, hpending, activating_serves hnone⟩

/-- The period is a word: the application boots, and the activation of a paid
Transaction fails. -/
theorem booted_without_period :
    ∃ (b : AppState) (t : Transaction) (os : Nat → Ambient),
      (app (bootedWith "thirty").config).Run anyAction (Machine.start .empty) b ∧
      t ∈ b.store.transactions ∧ t.status = .PENDING ∧ ServesActivation os b.store ∧
      ¬ Honoured (bootedWith "thirty").config t os b.store := by
  obtain ⟨b, t, hr, hmem, hpending, hserves⟩ :=
    pending_of_replay (bootedWith "thirty").config (by decide +kernel)
  refine ⟨b, t, activating, hr, hmem, hpending, hserves, ?_⟩
  rw [honoured_iff (payable_run rfl rfl hr hmem hpending) hserves]
  have hinvalid : prismaDate ((bootedWith "thirty").config.expiresAt (activating 2).now) = none := by
    decide +kernel
  rw [hinvalid]
  rintro ⟨e, he, -⟩
  cases he

/-- With a period of a week the payment is honoured. -/
theorem honours_payments_sample :
    ∃ (b : AppState) (t : Transaction), t ∈ b.store.transactions ∧ t.status = .PENDING ∧
      Honoured (bootedWith " 7 days").config t activating b.store := by
  obtain ⟨b, t, hr, hmem, hpending, hserves⟩ :=
    pending_of_replay (bootedWith " 7 days").config (by decide +kernel)
  have hsells : SellsPeriod (bootedWith " 7 days").env (activating 2).now :=
    ⟨7, by decide +kernel, by decide, by decide⟩
  exact ⟨b, t, hmem, hpending, ((honours_payments_iff _ rfl rfl hr).1 t hmem hpending activating
    hserves).mpr hsells⟩

end StreamingService

import Mathlib.Order.Bounds.Basic
import StreamingService.Account
import StreamingService.Payments.Period

/-!
# Payments — Entitlement

The three answers to "is this user subscribed?". The guard asks whether
some `ACTIVE` period runs, the status endpoint looks at the latest period
of any status, the profile at the latest `ACTIVE` one. They agree as soon
as no `EXPIRED` period runs, because each is then a statement about the
greatest expiry of the user's `ACTIVE` periods.
-/

namespace StreamingService

open Lib

/-! ## The greatest expiry -/

/-- When the user's `ACTIVE` periods end. -/
def activeExpiries (s : Store) (userId : String) : Set Millis :=
  {m | ∃ x ∈ s.subscriptions, x.userId = userId ∧ x.status = .ACTIVE ∧ x.expiresAt = m}

/-- No period marked `EXPIRED` is still running. -/
def ExpiredAreOver (s : Store) (userId : String) (t : Millis) : Prop :=
  ∀ x ∈ s.subscriptions, x.userId = userId → x.status = .EXPIRED → x.expiresAt ≤ t

section

variable {s : Store} {userId : String} {t m : Millis}

theorem SubscriptionStatus.active_or_expired (status : SubscriptionStatus) :
    status = .ACTIVE ∨ status = .EXPIRED := by
  cases status <;> simp

theorem entitles_iff :
    s.entitles userId t = true ↔ ∃ m ∈ activeExpiries s userId, t < m := by
  constructor
  · intro h
    obtain ⟨x, hx⟩ := Option.isSome_iff_exists.mp h
    obtain ⟨hmem, hp⟩ := Table.mem_of_find? hx
    simp only [Bool.and_eq_true, beq_iff_eq, decide_eq_true_eq] at hp
    exact ⟨x.expiresAt, ⟨x, hmem, hp.1.1, hp.1.2, rfl⟩, hp.2⟩
  · rintro ⟨m, ⟨x, hx, huser, hst, rfl⟩, hlt⟩
    obtain ⟨r, hr⟩ := Table.find?_isSome (p := fun sub =>
      sub.userId == userId && sub.status == .ACTIVE && decide (t < sub.expiresAt)) hx
      (by simp [huser, hst, hlt])
    simp [Store.entitles, hr]

/-- The latest `ACTIVE` row ends last. -/
theorem latestActive_isGreatest {x : Subscription} (h : s.latestActive userId = some x) :
    IsGreatest (activeExpiries s userId) x.expiresAt := by
  obtain ⟨hmem, hmax⟩ := latestBy_eq_some h
  obtain ⟨hx, hp⟩ := Table.mem_filter.mp hmem
  simp only [Bool.and_eq_true, beq_iff_eq] at hp
  refine ⟨⟨x, hx, hp.1, hp.2, rfl⟩, ?_⟩
  rintro m ⟨y, hy, huser, hst, rfl⟩
  exact hmax y (Table.mem_filter.mpr ⟨hy, by simp [huser, hst]⟩)

theorem activeExpiries_of_latestActive_none (h : s.latestActive userId = none) :
    ¬ m ∈ activeExpiries s userId := by
  rintro ⟨y, hy, huser, hst, -⟩
  have hnil := latestBy_eq_none.mp h
  have hmem : y ∈ s.subscriptions.filter fun sub => sub.userId == userId && sub.status == .ACTIVE :=
    Table.mem_filter.mpr ⟨hy, by simp [huser, hst]⟩
  rw [hnil] at hmem
  cases hmem

/-- The guard's answer, by the greatest `ACTIVE` expiry. -/
theorem entitles_iff_latestActive :
    s.entitles userId t = true ↔ ∃ x, s.latestActive userId = some x ∧ t < x.expiresAt := by
  rw [entitles_iff]
  constructor
  · rintro ⟨m, hm, hlt⟩
    cases hlast : s.latestActive userId with
    | none => exact absurd hm (activeExpiries_of_latestActive_none hlast)
    | some x =>
        have hle : m ≤ x.expiresAt := (latestActive_isGreatest hlast).2 hm
        exact ⟨x, rfl, Int.lt_of_lt_of_le hlt hle⟩
  · rintro ⟨x, hx, hlt⟩
    exact ⟨x.expiresAt, (latestActive_isGreatest hx).1, hlt⟩

/-- A running period that is the latest of any status is `ACTIVE`, and then it
is the latest `ACTIVE` one as well. -/
theorem latest_isGreatest (hover : ExpiredAreOver s userId t) {x : Subscription}
    (h : s.latest userId = some x) (hlt : t < x.expiresAt) :
    x.status = .ACTIVE ∧ IsGreatest (activeExpiries s userId) x.expiresAt := by
  obtain ⟨hmem, hmax⟩ := latestBy_eq_some h
  obtain ⟨hx, huser⟩ := Table.mem_filter.mp hmem
  have huser : x.userId = userId := by simpa using huser
  have hst : x.status = .ACTIVE := by
    rcases x.status.active_or_expired with hst | hst
    · exact hst
    · exact absurd hlt (Int.not_lt.mpr (hover x hx huser hst))
  refine ⟨hst, ⟨x, hx, huser, hst, rfl⟩, ?_⟩
  rintro m ⟨y, hy, huser', -, rfl⟩
  exact hmax y (Table.mem_filter.mpr ⟨hy, by simp [huser']⟩)

/-- Some period of the user runs exactly when the latest of any status does. -/
theorem entitles_iff_latest (hover : ExpiredAreOver s userId t) :
    s.entitles userId t = true ↔
      ∃ x, s.latest userId = some x ∧ x.status = .ACTIVE ∧ t < x.expiresAt := by
  rw [entitles_iff]
  constructor
  · rintro ⟨m, ⟨y, hy, huser, -, rfl⟩, hlt⟩
    have hmem : y ∈ s.subscriptions.filter fun sub => sub.userId == userId :=
      Table.mem_filter.mpr ⟨hy, by simp [huser]⟩
    cases hlast : s.latest userId with
    | none =>
        rw [latestBy_eq_none.mp hlast] at hmem
        cases hmem
    | some x =>
        have hle : y.expiresAt ≤ x.expiresAt := (latestBy_eq_some hlast).2 y hmem
        have hlt : t < x.expiresAt := Int.lt_of_lt_of_le hlt hle
        exact ⟨x, rfl, (latest_isGreatest hover hlast hlt).1, hlt⟩
  · rintro ⟨x, hx, -, hlt⟩
    exact ⟨x.expiresAt, (latest_isGreatest hover hx hlt).2.1, hlt⟩

end

/-! ## The three answers -/

/-- At instant `t` the three queries about the user agree, also on when the
subscription ends. -/
structure AnswersAgree (s : Store) (user : User) (t : Millis) (active : Bool)
    (result : SubscriptionsService.SubscriptionStatusResult)
    (profile : AuthService.PublicUser × Option Millis) : Prop where
  guard : AnswersAt t (EntitlementGuard.hasActiveSubscription user.id) s (.ok active)
  status : AnswersAt t (SubscriptionsService.getStatusForUser user.id) s (.ok result)
  me : AnswersAt t (AuthService.getMe user.id) s (.ok profile)
  guard_iff_status : active = true ↔ result.status = .ACTIVE
  guard_iff_me : active = true ↔ profile.2 ≠ none
  expiry : active = true → ∃ m, IsGreatest (activeExpiries s user.id) m ∧
    result.expiresAt = some m ∧ profile.2 = some m

theorem subscriptionStatus_active {t : Millis} {latest : Option Subscription} :
    (subscriptionStatus t latest).status = .ACTIVE ↔
      ∃ x, latest = some x ∧ x.status = .ACTIVE ∧ t < x.expiresAt := by
  cases latest with
  | none => simp [subscriptionStatus]
  | some x =>
      by_cases h : x.status = .ACTIVE ∧ t < x.expiresAt
      · simp [subscriptionStatus, h.1, h.2]
      · have hb : (x.status == .ACTIVE && decide (t < x.expiresAt)) = false := by
          simpa using h
        simp only [subscriptionStatus, hb, Option.some.injEq, exists_eq_left']
        simp [h]

theorem profile_active {t : Millis} {user : User} {latest : Option Subscription} {m : Millis} :
    (profile t user latest).2 = some m ↔
      ∃ x, latest = some x ∧ t < x.expiresAt ∧ x.expiresAt = m := by
  cases latest with
  | none => simp [profile]
  | some x => simp [profile]

theorem answersAgree {s : Store} {user : User} {t : Millis} (huser : user ∈ s.users)
    (hover : ExpiredAreOver s user.id t) :
    AnswersAgree s user t (s.entitles user.id t) (subscriptionStatus t (s.latest user.id))
      (profile t user (s.latestActive user.id)) where
  guard := (hasActiveSubscription_reads t s user.id).answersAt
  status := (getStatusForUser_reads t s user.id).answersAt
  me := by
    have hfind : s.users.find? (fun u => u.id == user.id) = some user := users_find? huser rfl
    have h := (getMe_reads t s user.id).answersAt
    rw [hfind] at h
    exact h
  guard_iff_status := by
    rw [subscriptionStatus_active, entitles_iff_latest hover]
  guard_iff_me := by
    rw [entitles_iff_latestActive, Option.ne_none_iff_exists']
    simp only [profile_active]
    constructor
    · rintro ⟨x, hx, hlt⟩
      exact ⟨x.expiresAt, x, hx, hlt, rfl⟩
    · rintro ⟨m, x, hx, hlt, -⟩
      exact ⟨x, hx, hlt⟩
  expiry := by
    intro hactive
    obtain ⟨x, hx, -, hlt⟩ := (entitles_iff_latest hover).mp hactive
    obtain ⟨y, hy, hlt'⟩ := entitles_iff_latestActive.mp hactive
    -- both rows end at the one greatest expiry
    have heq : y.expiresAt = x.expiresAt :=
      (latestActive_isGreatest hy).unique (latest_isGreatest hover hx hlt).2
    refine ⟨x.expiresAt, (latest_isGreatest hover hx hlt).2, ?_, ?_⟩
    · simp [hx, subscriptionStatus]
    · exact profile_active.mpr ⟨y, hy, hlt', heq⟩

/-! ## Reachable states -/

/-- When the user's payments were activated, by the clock readings of the trace. -/
def activationTimes (tr : Trace) (userId : String) : Set Millis :=
  {a | ∃ tid x, ActivatedAt tr tid x a ∧ x.userId = userId}

variable {cfg : AppConfig} {ok : AppState → Action Ambient Request → Prop} {b : AppState}

/-- Every stored Subscription is `ACTIVE`: nothing writes the status again. -/
theorem subscription_active {s : Store} (hs : s.subscriptions = .empty)
    (hr : (app cfg).Run ok (Machine.start s) b) {x : Subscription}
    (hx : x ∈ b.store.subscriptions) : x.status = .ACTIVE := by
  refine Machine.Run.keeps (I := fun s _ => ∀ x ∈ s.subscriptions, x.status = .ACTIVE)
    ?_ ?_ ?_ hr x hx
  · intro s tr tid q h
    exact h
  · intro sys tid o c h _ _
    exact (exec_ledger o c sys.store).subscriptions_active h
  · intro x hx
    have hx : x ∈ s.subscriptions := hx
    rw [hs] at hx
    exact absurd hx (Table.not_mem_empty x)

/-- The accepted commit of a Subscription has stored it. -/
def CommitStored (s : Store) (e : Prog.Entry Sig) : Prop :=
  ∀ x resolvedAt, e = committed x resolvedAt → x ∈ s.subscriptions

theorem exec_commitStored (o : Ambient) (c : Cmd) (s : Store) :
    CommitStored (exec o c s).2 ⟨c, (exec o c s).1⟩ := by
  intro x resolvedAt he
  have hstep := exec_ledger o c s
  rw [he] at hstep
  cases hstep with
  | quiet hquiet _ _ => simp [committed, isLedgerWrite] at hquiet
  | activate _ _ _ _ hsub => exact (Table.mem_insert? hsub).mpr (.inr rfl)

theorem committed_stored {s : Store} (hr : (app cfg).Run ok (Machine.start s) b) {tid : Nat}
    {x : Subscription} {resolvedAt : Millis}
    (h : Event.did tid (committed x resolvedAt) ∈ b.trace) : x ∈ b.store.subscriptions :=
  Machine.Run.answers (K := CommitStored) exec_commitStored
    (fun o c s _ hK x at' he => (exec_ledger o c s).subscription (hK x at' he)) hr tid _ h x
    resolvedAt rfl

/-- In a reachable state a period ends `periodDays` days after its activation. -/
theorem mem_activeExpiries {s : Store} (hs : s.subscriptions = .empty)
    (hr : (app cfg).Run ok (Machine.start s) b) {periodDays : Int}
    (hp : cfg.subscription.periodDays = some periodDays) {userId : String} {m : Millis} :
    m ∈ activeExpiries b.store userId ↔
      ∃ a ∈ activationTimes b.trace userId, m = a + periodDays * 86400000 := by
  constructor
  · rintro ⟨x, hx, huser, -, rfl⟩
    obtain ⟨tid, hat⟩ := subscription_activated hs hr hx
    obtain ⟨_, t, horig⟩ := subscription_origin hs hr hx
    exact ⟨x.startAt, ⟨tid, x, hat, huser⟩, horig.length hp⟩
  · rintro ⟨a, ⟨tid, x, hat, huser⟩, rfl⟩
    obtain rfl : x.startAt = a := hat.startAt hr
    obtain ⟨_, hmem⟩ := hat.commit
    have hx := committed_stored hr hmem
    obtain ⟨_, t, horig⟩ := subscription_origin hs hr hx
    exact ⟨x, hx, huser, subscription_active hs hr hx, horig.length hp⟩

/-- So the user is entitled for as long as the latest activation pays for. -/
theorem entitles_iff_activated {s : Store} (hs : s.subscriptions = .empty)
    (hr : (app cfg).Run ok (Machine.start s) b) {periodDays : Int}
    (hp : cfg.subscription.periodDays = some periodDays) {userId : String} {t : Millis} :
    b.store.entitles userId t = true ↔
      ∃ a, IsGreatest (activationTimes b.trace userId) a ∧ t < a + periodDays * 86400000 := by
  rw [entitles_iff_latestActive]
  constructor
  · rintro ⟨x, hx, hlt⟩
    obtain ⟨hmem, hmax⟩ := latestActive_isGreatest hx
    obtain ⟨a, ha, hend⟩ := (mem_activeExpiries hs hr hp).mp hmem
    rw [hend] at hlt hmax
    refine ⟨a, ⟨ha, ?_⟩, hlt⟩
    intro a' ha'
    exact Int.le_of_add_le_add_right (hmax ((mem_activeExpiries hs hr hp).mpr ⟨a', ha', rfl⟩))
  · rintro ⟨a, ⟨ha, -⟩, hlt⟩
    have hmem := (mem_activeExpiries hs hr hp).mpr ⟨a, ha, rfl⟩
    exact entitles_iff_latestActive.mp (entitles_iff.mpr ⟨_, hmem, hlt⟩)

/-! ## The guarantee -/

/-- **The three answers to "is this user subscribed?" agree**, and in a
reachable state they are about the latest activation. -/
theorem subscription_answers_agree {cfg : AppConfig} {periodDays : Int}
    (hperiod : cfg.subscription.periodDays = some periodDays) :
    (∀ s : Store, ∀ user ∈ s.users, ∀ t, ExpiredAreOver s user.id t →
      ∃ active result profile, AnswersAgree s user t active result profile) ∧
    ∀ (s : Store) (b : AppState), s.subscriptions = .empty →
      (app cfg).Run anyAction (Machine.start s) b →
        (∀ x ∈ b.store.subscriptions, x.status = .ACTIVE) ∧
        ∀ user ∈ b.store.users, ∀ t, ∃ active result profile,
          AnswersAgree b.store user t active result profile ∧
          (active = true ↔ ∃ a, IsGreatest (activationTimes b.trace user.id) a ∧
            t < a + periodDays * 86400000) := by
  refine ⟨?_, ?_⟩
  · intro s user huser t hover
    exact ⟨_, _, _, answersAgree huser hover⟩
  · intro s b hs hr
    have hactive : ∀ x ∈ b.store.subscriptions, x.status = .ACTIVE :=
      fun x hx => subscription_active hs hr hx
    refine ⟨hactive, ?_⟩
    intro user huser t
    have hover : ExpiredAreOver b.store user.id t := by
      intro x hx _ hst
      rw [hactive x hx] at hst
      cases hst
    exact ⟨_, _, _, answersAgree huser hover, entitles_iff_activated hs hr hperiod⟩

/-- A second after `sub-1` was activated, all three answer yes. -/
theorem subscription_answers_agree_sample :
    ∃ b : AppState, ∃ user ∈ b.store.users, ∃ result profile,
      AnswersAgree b.store user 6000 true result profile ∧
      ∃ a, IsGreatest (activationTimes b.trace user.id) a ∧ 6000 < a + 30 * 86400000 := by
  obtain ⟨b, hr, hb⟩ := Machine.exists_run_of_replay (m := app sampleConfig)
    (a := Machine.start .empty) anyAction (sampleRegistration ++ samplePush ++ sampleActivation)
    (fun b => b.store.users.rows.any fun u => b.store.entitles u.id 6000) (by decide +kernel)
  obtain ⟨user, huser, hentitled⟩ := List.any_eq_true.mp hb
  obtain ⟨active, result, profile, hagree, hiff⟩ :=
    ((subscription_answers_agree
      (show sampleConfig.subscription.periodDays = some 30 by decide +kernel)).2 .empty b rfl hr).2
      user huser 6000
  have hactive : active = true := by
    have h := hagree.guard.unique (hasActiveSubscription_reads 6000 b.store user.id).answersAt
    rw [hentitled] at h
    exact Except.ok.inj h
  subst hactive
  exact ⟨b, user, huser, result, profile, hagree, hiff.mp rfl⟩

end StreamingService

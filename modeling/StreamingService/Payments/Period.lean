import Mathlib.Data.List.Perm.Subperm
import StreamingService.Payments.Provenance

/-!
# Payments — Period

What a payment buys: at most one Subscription per Transaction, for its own
user and of exactly the configured length, never taken back; so a user's
Subscriptions never outnumber the payments verified for them. The unique
index on `transactionId` is what absorbs concurrent activations.
-/

namespace StreamingService

open Lib

variable {cfg : AppConfig} {ok : AppState → Action Ambient Request → Prop} {b : AppState}

/-- `periodDays * 86400000` milliseconds. -/
theorem periodMillis_eq {c : SubscriptionConfig} {periodDays : Int}
    (h : c.periodDays = some periodDays) : c.periodMillis = some (periodDays * 86400000) := by
  simp only [SubscriptionConfig.periodMillis, h, Option.map_some, Option.some.injEq]
  omega

theorem CommitOrigin.length {tr : Trace} {tid : Nat} {x : Subscription} {t : Transaction}
    (h : CommitOrigin cfg tr tid x t) {periodDays : Int}
    (hp : cfg.subscription.periodDays = some periodDays) :
    x.expiresAt = x.startAt + periodDays * 86400000 := by
  have hper := h.period
  rw [periodMillis_eq hp, Option.map_some] at hper
  exact (Option.some.inj (validDate_some hper.symm).1).symm

/-- A Subscription's Transaction is stored, and belongs to the same user. -/
theorem subscription_transaction {s : Store} (hs : s.subscriptions = .empty)
    (hr : (app cfg).Run ok (Machine.start s) b) {x : Subscription}
    (hx : x ∈ b.store.subscriptions) :
    ∃ t ∈ b.store.transactions, t.id = x.transactionId ∧ t.userId = x.userId ∧
      ∃ tid t', VerifiedSuccess cfg b.trace tid t' ∧ t'.id = t.id := by
  obtain ⟨tid, t, horig⟩ := subscription_origin hs hr hx
  obtain ⟨q, outcome, -, -, -, hres⟩ := id horig.verified
  obtain ⟨e, he, hshown⟩ := hres.shown
  obtain ⟨row, hrow, hsame⟩ :=
    (provenance_run (.start hs) hr).known tid e t (mem_own.mp he) hshown
  refine ⟨row, hrow, ?_, ?_, tid, t, horig.verified, hsame.id.symm⟩
  · rw [hsame.id, horig.id]
  · rw [hsame.userId, horig.userId]

theorem subscription_unique {s : Store} {x y : Subscription} (hx : x ∈ s.subscriptions)
    (hy : y ∈ s.subscriptions) (h : x.transactionId = y.transactionId) : x = y :=
  Table.eq_of_clash hx hy (by simp [Indexed.clash, h])

/-! ## Counting -/

def subscriptionsOf (s : Store) (userId : String) : List Subscription :=
  s.subscriptions.filter fun x => x.userId == userId

open Classical in
/-- The Transactions of a user for which a verified success was processed. -/
noncomputable def paidTransactions (cfg : AppConfig) (b : AppState) (userId : String) :
    List Transaction :=
  b.store.transactions.filter fun t => t.userId == userId &&
    decide (∃ tid t', VerifiedSuccess cfg b.trace tid t' ∧ t'.id = t.id)

theorem subscriptionsOf_ids_nodup (s : Store) (userId : String) :
    ((subscriptionsOf s userId).map (·.transactionId)).Nodup := by
  have hrows : s.subscriptions.rows.Pairwise fun x y => x.transactionId ≠ y.transactionId :=
    (Table.distinct_iff.mp s.subscriptions.unique).imp fun {x y} hxy heq => by
      simp [Indexed.clash, heq] at hxy
  exact List.pairwise_map.mpr (hrows.filter _)

/-- A user's Subscriptions never outnumber the payments verified for them. -/
theorem subscriptions_le_paid {s : Store} (hs : s.subscriptions = .empty)
    (hr : (app cfg).Run ok (Machine.start s) b) (userId : String) :
    (subscriptionsOf b.store userId).length ≤ (paidTransactions cfg b userId).length := by
  have hsub : (subscriptionsOf b.store userId).map (·.transactionId) ⊆
      (paidTransactions cfg b userId).map (·.id) := by
    intro id hid
    obtain ⟨x, hx, rfl⟩ := List.mem_map.mp hid
    obtain ⟨hx, huser⟩ := Table.mem_filter.mp hx
    obtain ⟨t, ht, htid, htuser, hpaid⟩ := subscription_transaction hs hr hx
    refine List.mem_map.mpr ⟨t, Table.mem_filter.mpr ⟨ht, ?_⟩, htid⟩
    have huser : x.userId = userId := by simpa using huser
    simp [htuser, huser, hpaid]
  have hle := (List.subperm_of_subset (subscriptionsOf_ids_nodup b.store userId) hsub).length_le
  simpa using hle

/-! ## The guarantee -/

/-- **Each payment buys exactly one period, once.** -/
theorem one_period_per_payment {cfg : AppConfig} {periodDays : Int}
    (hperiod : cfg.subscription.periodDays = some periodDays) {s : Store}
    (hs : s.subscriptions = .empty) {b : AppState}
    (hr : (app cfg).Run anyAction (Machine.start s) b) :
    (∀ t ∈ b.store.transactions, ∀ x ∈ b.store.subscriptions, ∀ y ∈ b.store.subscriptions,
      x.transactionId = t.id → y.transactionId = t.id → x = y) ∧
    (∀ x ∈ b.store.subscriptions, ∃ t ∈ b.store.transactions, t.id = x.transactionId ∧
      x.userId = t.userId ∧ x.expiresAt - x.startAt = periodDays * 86400000) ∧
    (∀ c, (app cfg).Run anyAction b c → ∀ x ∈ b.store.subscriptions, x ∈ c.store.subscriptions) ∧
    ∀ userId, (subscriptionsOf b.store userId).length ≤
      (paidTransactions cfg b userId).length := by
  refine ⟨?_, ?_, ?_, subscriptions_le_paid hs hr⟩
  · intro t _ x hx y hy hxt hyt
    exact subscription_unique hx hy (hxt.trans hyt.symm)
  · intro x hx
    obtain ⟨t, ht, htid, htuser, -⟩ := subscription_transaction hs hr hx
    obtain ⟨tid, t', horig⟩ := subscription_origin hs hr hx
    refine ⟨t, ht, htid, htuser.symm, ?_⟩
    have hlen : x.expiresAt = x.startAt + periodDays * 86400000 := horig.length hperiod
    exact Int.sub_eq_iff_eq_add'.mpr hlen
  · intro c hc x hx
    exact subscription_run hc hx

/-- One payment from registration to activation. -/
theorem one_period_per_payment_sample :
    ∃ b : AppState, ∃ x ∈ b.store.subscriptions,
      x.expiresAt - x.startAt = 30 * 86400000 ∧
        (subscriptionsOf b.store x.userId).length ≤
          (paidTransactions sampleConfig b x.userId).length := by
  obtain ⟨b, hr, hb⟩ := Machine.exists_run_of_replay (m := app sampleConfig)
    (a := Machine.start .empty) anyAction (sampleRegistration ++ samplePush ++ sampleActivation)
    (fun b => b.store.subscriptions.rows.length == 1) (by decide +kernel)
  obtain ⟨-, hperiod, -, hcount⟩ :=
    one_period_per_payment
      (show sampleConfig.subscription.periodDays = some 30 by decide +kernel) rfl hr
  cases hrows : b.store.subscriptions.rows with
  | nil => simp [hrows] at hb
  | cons x rest =>
      have hx : x ∈ b.store.subscriptions := by
        rw [← Table.mem_rows, hrows]
        exact List.mem_cons_self
      obtain ⟨t, -, -, -, hlen⟩ := hperiod x hx
      exact ⟨b, x, hx, hlen, hcount x.userId⟩

end StreamingService

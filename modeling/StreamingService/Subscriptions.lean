import StreamingService.Payments.Provider

/-!
# Subscriptions

`SubscriptionsService`, which activates the period a Transaction paid for,
and `EntitlementGuard`, which every full-playback request passes.
-/

namespace StreamingService

open Lib

/-- A period of `periodDays` days in milliseconds; `none` is `NaN`. -/
def SubscriptionConfig.periodMillis (c : SubscriptionConfig) : Option Int :=
  c.periodDays.map fun days => days * 24 * 60 * 60 * 1000

namespace SubscriptionsService

/-- The body of `prisma.$transaction`: it reads the Transaction with its
Subscription, and unless there is one, commits both writes together. -/
def activateFromTransaction (cfg : AppConfig) (transactionId : String) : App Subscription := do
  let found : Option (Transaction × Option Subscription) ←
    stmt (.subscription (.readForActivation transactionId))
  match found with
  | none => throw (.notFound "Transaction not found")
  | some (_, some subscription) => return subscription
  | some (transaction, none) => do
      -- another delivery may commit from here on; the unique index then refuses this one
      let resolvedAt ← now
      let startAt ← now
      let expiresAt := validDate (cfg.subscription.periodMillis.map fun p => startAt + p)
      stmt (.subscription
        (.commitActivation transactionId transaction.userId resolvedAt startAt expiresAt))

inductive StatusKind where
  | ACTIVE | EXPIRED | NONE
  deriving DecidableEq, Repr

structure SubscriptionStatusResult where
  status : StatusKind
  expiresAt : Option Millis
  deriving DecidableEq, Repr

def getStatusForUser (userId : String) : App SubscriptionStatusResult := do
  let latest : Option Subscription ← stmt (.subscription (.findLatest userId))
  match latest with
  | none => return { status := .NONE, expiresAt := none }
  | some latest => do
      let instant ← now
      let isActive := latest.status == .ACTIVE && decide (instant < latest.expiresAt)
      return { status := if isActive then .ACTIVE else .EXPIRED, expiresAt := some latest.expiresAt }

end SubscriptionsService

namespace EntitlementGuard

def hasActiveSubscription (userId : String) : App Bool := do
  let instant ← now
  let activeSubscription : Option Subscription ←
    stmt (.subscription (.findActive userId instant))
  return activeSubscription.isSome

/-- `user` is what `JwtAuthGuard` put on the request. -/
def canActivate (user : Option JwtAccessPayload) : App Unit := do
  match user with
  | none => throw (.forbidden "No active subscription")
  | some user => do
      let isEntitled ← hasActiveSubscription user.sub
      if !isEntitled then
        throw (.forbidden "No active subscription")

end EntitlementGuard

end StreamingService

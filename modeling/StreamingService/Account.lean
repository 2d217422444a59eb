import StreamingService.Frame
import StreamingService.Server
import StreamingService.Lib.Reads

/-!
# Account

What the account endpoints answer. Each of them only reads, so at one
instant its answer is a function of the store.
-/

namespace StreamingService

open Lib

/-! ## Answers at an instant -/

/-- Nothing fails, and the clock stands at `t`. -/
def At (t : Millis) (o : Ambient) : Prop := o.fault = none ∧ o.now = t

/-- Run alone at instant `t`, the program answers `r`, whatever else the
environment supplies. -/
def AnswersAt {α : Type} (t : Millis) (p : App α) (s : Store) (r : Except Exception α) : Prop :=
  ∀ os : Nat → Ambient, (∀ n, At t (os n)) → (p.run exec os s).1 = r

/-- The program reads, and answers `r` at instant `t`. -/
abbrev ReadsAt {α : Type} (t : Millis) (p : App α) (s : Store) (r : Except Exception α) : Prop :=
  Prog.Reads exec (At t) (· = r) p s

theorem ReadsAt.answersAt {α : Type} {t : Millis} {p : App α} {s : Store}
    {r : Except Exception α} (h : ReadsAt t p s r) : AnswersAt t p s r :=
  fun _ hos => (Prog.Reads.run h hos).1

theorem at_quiet (t : Millis) : At t (.quiet t) := ⟨rfl, rfl⟩

theorem AnswersAt.unique {α : Type} {t : Millis} {p : App α} {s : Store}
    {r r' : Except Exception α} (h : AnswersAt t p s r) (h' : AnswersAt t p s r') : r = r' := by
  rw [← h (fun _ => .quiet t) fun _ => at_quiet t, ← h' (fun _ => .quiet t) fun _ => at_quiet t]

theorem At.exec {t : Millis} {o : Ambient} (h : At t o) (c : Cmd) (s : Store) :
    exec o c s = answer o c s := exec_answer h.1 c s

theorem At.exec_now {t : Millis} {o : Ambient} (h : At t o) (s : Store) :
    StreamingService.exec o .now s = (.ok t, s) := by
  rw [h.exec, ← h.2]
  rfl

/-! ## The endpoints -/

/-- `EntitlementGuard`'s query at an instant. -/
def Store.entitles (s : Store) (userId : String) (t : Millis) : Bool :=
  (s.subscriptions.find? fun sub =>
    sub.userId == userId && sub.status == .ACTIVE && decide (t < sub.expiresAt)).isSome

theorem hasActiveSubscription_reads (t : Millis) (s : Store) (userId : String) :
    ReadsAt t (EntitlementGuard.hasActiveSubscription userId) s
      (.ok (s.entitles userId t)) := by
  refine .perform_bind (v := t) (fun o ho => ho.exec_now s) ?_
  exact .perform_bind (fun o ho => ho.exec _ s) rfl

/-- `getStatusForUser`, of the latest Subscription. -/
def subscriptionStatus (t : Millis) (latest : Option Subscription) :
    SubscriptionsService.SubscriptionStatusResult :=
  match latest with
  | none => { status := .NONE, expiresAt := none }
  | some latest =>
      { status := if latest.status == .ACTIVE && decide (t < latest.expiresAt) then .ACTIVE
          else .EXPIRED
        expiresAt := some latest.expiresAt }

/-- The user's Subscription that ends last. -/
def Store.latest (s : Store) (userId : String) : Option Subscription :=
  latestBy (·.expiresAt) (s.subscriptions.filter fun sub => sub.userId == userId)

theorem getStatusForUser_reads (t : Millis) (s : Store) (userId : String) :
    ReadsAt t (SubscriptionsService.getStatusForUser userId) s
      (.ok (subscriptionStatus t (s.latest userId))) := by
  refine .perform_bind (v := s.latest userId) (fun o ho => ho.exec _ s) ?_
  cases s.latest userId with
  | none => rfl
  | some latest => exact .perform_bind (v := t) (fun o ho => ho.exec_now s) rfl

/-- The user's `ACTIVE` Subscription that ends last. -/
def Store.latestActive (s : Store) (userId : String) : Option Subscription :=
  latestBy (·.expiresAt) (s.subscriptions.filter fun sub =>
    sub.userId == userId && sub.status == .ACTIVE)

/-- `getMe`, of the user's row and latest `ACTIVE` Subscription. -/
def profile (t : Millis) (user : User) (latest : Option Subscription) :
    AuthService.PublicUser × Option Millis :=
  (AuthService.toPublicUser user,
    latest.bind fun latest => if t < latest.expiresAt then some latest.expiresAt else none)

theorem getMe_reads (t : Millis) (s : Store) (userId : String) :
    ReadsAt t (AuthService.getMe userId) s
      (match s.users.find? fun u => u.id == userId with
        | none => .error (.unauthorized "Unauthorized")
        | some user => .ok (profile t user (s.latestActive user.id))) := by
  refine .perform_bind (fun o ho => ho.exec _ s) ?_
  cases s.users.find? fun u => u.id == userId with
  | none => rfl
  | some user =>
      -- the query brought the user's latest `ACTIVE` Subscription along
      simp only [Option.map_some]
      cases hlast : s.latestActive user.id with
      | none =>
          unfold Store.latestActive at hlast
          rw [hlast]
          rfl
      | some latest =>
          unfold Store.latestActive at hlast
          rw [hlast]
          exact .perform_bind (v := t) (fun o ho => ho.exec_now s) rfl

/-- The entries of the billing history. -/
def historyEntries (transactions : List Transaction) : List TransactionsService.HistoryEntry :=
  (transactions.insertionSort fun a b => b.initiatedAt ≤ a.initiatedAt).map fun t =>
    { id := t.id, method := t.method, amount := t.amount, status := t.status,
      initiatedAt := t.initiatedAt, resolvedAt := t.resolvedAt }

theorem listHistoryForUser_reads (t : Millis) (s : Store) (userId : String) :
    ReadsAt t (TransactionsService.listHistoryForUser userId) s
      (.ok (historyEntries (s.transactions.filter fun t => t.userId == userId))) :=
  .perform_bind (fun _ ho => ho.exec _ s) rfl

theorem getStatus_reads (t : Millis) (s : Store) (transactionId : String) :
    ReadsAt t (PaymentsService.getStatus transactionId) s
      (match s.transactions.find? fun t => t.id == transactionId with
        | none => .error (.notFound "Transaction not found")
        | some row => .ok (row.id, row.status, row.resolvedAt)) := by
  refine .bind_eq (r := match s.transactions.find? fun t => t.id == transactionId with
      | none => .error (.notFound "Transaction not found")
      | some row => .ok row) ?_ ?_ ?_
  · refine .perform_bind (fun o ho => ho.exec _ s) ?_
    cases s.transactions.find? fun t => t.id == transactionId <;> rfl
  · intro row hrow
    split at hrow
    · cases hrow
    · cases hrow
      rfl
  · intro e he
    split at he
    · cases he
      rfl
    · cases he

end StreamingService

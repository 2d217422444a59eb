import Mathlib.Data.Set.Card
import StreamingService.Lib.Coverage
import StreamingService.Payments.Entitlement

/-!
# Payments — Renewal

How much time a user's payments buy together. A period starts at its
activation, whatever still runs; nothing on the way from the initiation to the
activation looks at the periods there are.
-/

namespace StreamingService

open Lib

/-- The instants at which some `ACTIVE` period of the user runs. -/
def entitledInstants (s : Store) (userId : String) : Set Millis :=
  {t | ∃ x ∈ subscriptionsOf s userId, x.status = .ACTIVE ∧ x.startAt ≤ t ∧ t < x.expiresAt}

/-- How long, in milliseconds. -/
noncomputable def entitledTime (s : Store) (userId : String) : Int :=
  (Set.ncard (entitledInstants s userId) : Int)

/-- An entry that has committed a Subscription of the user. -/
def activates (userId : String) : Prog.Entry Sig → Bool
  | ⟨.subscription (.commitActivation _ _ _ _ _), .ok x⟩ => x.userId == userId
  | _ => false

/-- The clock readings at which the user's Subscriptions were committed, latest
first. -/
def activationReadings (userId : String) : Trace → List Int
  | [] => []
  | .began _ _ :: tr => activationReadings userId tr
  | .did tid e :: tr =>
      if activates userId e then
        (lastReading (own tid tr)).toList ++ activationReadings userId tr
      else activationReadings userId tr

/-- When the user's payments were activated, first to last. -/
def activations (tr : Trace) (userId : String) : List Int :=
  (activationReadings userId tr).insertionSort (· ≤ ·)

/-! ## A period starts at its activation -/

/-- The instants read off the trace are those at which the stored periods start. -/
def StartsRead (userId : String) (s : Store) (tr : Trace) : Prop :=
  (activationReadings userId tr).Perm ((subscriptionsOf s userId).map (·.startAt))

section

variable {o : Ambient} {s s' : Store} {tr : Trace} {e : Prog.Entry Sig} {tid : Nat}
  {userId : String}

/-- A statement that commits nothing. -/
theorem StartsRead.quiet (h : StartsRead userId s tr) (hs : s'.subscriptions = s.subscriptions)
    (he : activates userId e = false) : StartsRead userId s' (.did tid e :: tr) := by
  unfold StartsRead subscriptionsOf
  rw [hs, activationReadings, if_neg (by simp [he])]
  exact h

/-- A commit, which read the clock just before. -/
theorem StartsRead.commit (h : StartsRead userId s tr) {x : Subscription} {resolvedAt : Millis}
    (hins : s.subscriptions.insert? x = some s'.subscriptions)
    (hread : lastReading (own tid tr) = some x.startAt) :
    StartsRead userId s' (.did tid (committed x resolvedAt) :: tr) := by
  unfold StartsRead subscriptionsOf Table.filter
  rw [Table.insert?_eq_some hins, List.filter_append, List.map_append, activationReadings, hread]
  by_cases huser : x.userId = userId
  · have hmine : activates userId (committed x resolvedAt) = true := beq_iff_eq.mpr huser
    have hrow : [x].filter (fun x => x.userId == userId) = [x] := by simp [huser]
    rw [if_pos hmine, hrow]
    exact List.perm_append_comm.trans (h.append_right _)
  · have hother : ¬ activates userId (committed x resolvedAt) = true :=
      fun hmine => huser (beq_iff_eq.mp hmine)
    have hrow : [x].filter (fun x => x.userId == userId) = [] := by simp [huser]
    rw [if_neg hother, hrow, List.map_nil, List.append_nil]
    exact h

theorem StartsRead.did (h : StartsRead userId s tr) (hstep : LedgerStep o s s' e)
    (hread : ∀ x resolvedAt, e = committed x resolvedAt →
      lastReading (own tid tr) = some x.startAt) :
    StartsRead userId s' (.did tid e :: tr) := by
  cases hstep with
  | quiet hquiet _ hs =>
      refine h.quiet hs ?_
      unfold activates
      split
      · cases hquiet
      · rfl
  | create _ _ _ hs => exact h.quiet hs rfl
  | refer _ _ _ _ hs => exact h.quiet hs rfl
  | fail _ _ _ _ hs => exact h.quiet hs rfl
  | timeOut _ _ _ hs => exact h.quiet hs rfl
  | activate hrow _ _ _ hins =>
      subst hrow
      exact h.commit hins (hread _ _ rfl)

end

variable {cfg : AppConfig} {ok : AppState → Action Ambient Request → Prop} {b : AppState}
  {periodDays : Int}

/-- **Every period of a user starts at its own activation.** -/
theorem startsRead_run {s : Store} (hs : s.subscriptions = .empty)
    (hr : (app cfg).Run ok (Machine.start s) b) (userId : String) :
    StartsRead userId b.store b.trace := by
  refine Machine.Run.keeps_along (I := StartsRead userId) (handle_emits cfg)
    (fun _ _ _ h _ => h) ?_ ?_ hr
  · intro sys tid o q c k _ h _ _ hstep
    refine h.did (exec_ledger o c sys.store) fun x resolvedAt he => ?_
    rw [he] at hstep
    obtain ⟨outcome, -, hpath⟩ := hstep.delivery (isDelivery_of_commit hstep.within)
    exact hpath.clock
  · unfold StartsRead subscriptionsOf
    rw [hs]
    exact .refl _

theorem activations_length {s : Store} (hs : s.subscriptions = .empty)
    (hr : (app cfg).Run ok (Machine.start s) b) (userId : String) :
    (activations b.trace userId).length = (subscriptionsOf b.store userId).length := by
  rw [activations, List.length_insertionSort, (startsRead_run hs hr userId).length_eq,
    List.length_map]

theorem mem_activations {s : Store} (hs : s.subscriptions = .empty)
    (hr : (app cfg).Run ok (Machine.start s) b) {userId : String} {a : Int} :
    a ∈ activations b.trace userId ↔ ∃ x ∈ subscriptionsOf b.store userId, x.startAt = a := by
  rw [activations, List.mem_insertionSort, (startsRead_run hs hr userId).mem_iff,
    List.mem_map]

theorem expiresAt_eq (hperiod : cfg.subscription.periodDays = some periodDays) {s : Store}
    (hs : s.subscriptions = .empty) (hr : (app cfg).Run ok (Machine.start s) b) {x : Subscription}
    (hx : x ∈ b.store.subscriptions) : x.expiresAt = x.startAt + periodDays * 86400000 := by
  obtain ⟨_, _, horig⟩ := subscription_origin hs hr hx
  exact horig.length hperiod

/-- A stored period runs from the clock reading of its own activation. -/
theorem period_activated (hperiod : cfg.subscription.periodDays = some periodDays) {s : Store}
    (hs : s.subscriptions = .empty) (hr : (app cfg).Run ok (Machine.start s) b) {x : Subscription}
    (hx : x ∈ b.store.subscriptions) : ∃ tid a, ActivatedAt b.trace tid x a ∧ x.startAt = a ∧
      x.expiresAt = a + periodDays * 86400000 := by
  obtain ⟨tid, hat⟩ := subscription_activated hs hr hx
  exact ⟨tid, x.startAt, hat, rfl, expiresAt_eq hperiod hs hr hx⟩

/-- The periods of a user are of one length, each from its activation on. -/
theorem entitledInstants_eq (hperiod : cfg.subscription.periodDays = some periodDays) {s : Store}
    (hs : s.subscriptions = .empty) (hr : (app cfg).Run ok (Machine.start s) b) (userId : String) :
    entitledInstants b.store userId =
      (covered (periodDays * 86400000) (activations b.trace userId) : Set Int) := by
  ext t
  rw [Finset.mem_coe, mem_covered]
  constructor
  · rintro ⟨x, hx, -, hle, hlt⟩
    refine ⟨x.startAt, (mem_activations hs hr).mpr ⟨x, hx, rfl⟩, hle, ?_⟩
    rw [← expiresAt_eq hperiod hs hr (Table.mem_filter.mp hx).1]
    exact hlt
  · rintro ⟨a, ha, hle, hlt⟩
    obtain ⟨x, hx, rfl⟩ := (mem_activations hs hr).mp ha
    have hmem := (Table.mem_filter.mp hx).1
    refine ⟨x, hx, subscription_active hs hr hmem, hle, ?_⟩
    rw [expiresAt_eq hperiod hs hr hmem]
    exact hlt

theorem entitledTime_eq (hperiod : cfg.subscription.periodDays = some periodDays)
    (hpos : 0 < periodDays) {s : Store} (hs : s.subscriptions = .empty)
    (hr : (app cfg).Run ok (Machine.start s) b) (userId : String) :
    entitledTime b.store userId =
      coveredTime (periodDays * 86400000) (activations b.trace userId) := by
  rw [entitledTime, entitledInstants_eq hperiod hs hr, Set.ncard_coe_finset]
  exact card_covered (by omega) (List.pairwise_insertionSort _ _)

/-- **What a user's payments buy**: a period runs from the clock reading of its own
activation, so it counts up to the next activation, the last one in full. Nothing is
lost exactly when each activation comes no earlier than a period after the one
before; an activation while the latest period still runs adds the time since that
period was activated. -/
theorem entitled_time (cfg : AppConfig) {periodDays : Int}
    (hperiod : cfg.subscription.periodDays = some periodDays) (hpos : 0 < periodDays) {s : Store}
    (hs : s.subscriptions = .empty) {b : AppState}
    (hr : (app cfg).Run anyAction (Machine.start s) b) (userId : String) :
    (∀ x ∈ subscriptionsOf b.store userId, ∃ tid a, ActivatedAt b.trace tid x a ∧ x.startAt = a ∧
      x.expiresAt = a + periodDays * 86400000) ∧
    (activations b.trace userId).length = (subscriptionsOf b.store userId).length ∧
    entitledTime b.store userId =
        coveredTime (periodDays * 86400000) (activations b.trace userId) ∧
    (entitledTime b.store userId =
        (subscriptionsOf b.store userId).length * (periodDays * 86400000) ↔
      (activations b.trace userId).IsChain fun a a' => a + periodDays * 86400000 ≤ a') ∧
    ∀ c, (app cfg).Run anyAction b c → ∀ earlier latest a,
      activations b.trace userId = earlier ++ [latest] →
      activations c.trace userId = earlier ++ [latest, a] →
      entitledTime c.store userId =
        entitledTime b.store userId + min (periodDays * 86400000) (a - latest) := by
  have htime := entitledTime_eq hperiod hpos hs hr userId
  have hlength := activations_length hs hr userId
  refine ⟨fun x hx => period_activated hperiod hs hr (Table.mem_filter.mp hx).1, hlength, htime,
    ?_, ?_⟩
  · rw [htime, ← hlength]
    exact coveredTime_eq_iff
  · intro c hc earlier latest a hb hcs
    rw [htime, entitledTime_eq hperiod hpos hs (hr.trans hc) userId, hb, hcs]
    exact coveredTime_concat a

/-- A payment made while a period runs: threads 3 and 4 initiate and confirm
`tx-2`, four seconds after `tx-1` was confirmed. -/
def sampleRenewal : List (Action Ambient Request) :=
  [.begin (.initiateMpesa (some sampleUser) "0712345678"),
    .step 3 (.quiet 6000), .step 3 ((Ambient.quiet 6001).generating "tx-2"),
    .step 3 ((Ambient.quiet 6002).replying (.obj [("access_token", .str "token")])),
    .step 3 ((Ambient.quiet 6003).replying (.obj [("CheckoutRequestID", .str "ws-2")])),
    .step 3 (.quiet 6004), .begin (sampleCallback "0" "ws-2"),
    .step 4 (.quiet 9000), .step 4 (.quiet 9001), .step 4 (.quiet 9002), .step 4 (.quiet 9003),
    .step 4 ((Ambient.quiet 9004).generating "sub-2")]

/-- No initiation met a pending payment. -/
def neverRefused : Event Sig Request → Bool
  | .did _ ⟨.transaction (.findFirstPending _), .ok (some _)⟩ => false
  | _ => true

/-- Two payments. -/
theorem entitled_time_sample :
    ∃ b : AppState, (subscriptionsOf b.store "user-1").length = 2 ∧
      entitledTime b.store "user-1" = coveredTime (30 * 86400000) (activations b.trace "user-1") := by
  obtain ⟨b, hr, hb⟩ := Machine.exists_run_of_replay (m := app sampleConfig)
    (a := Machine.start .empty) anyAction
    (sampleRegistration ++ samplePush ++ sampleActivation ++ sampleRenewal)
    (fun b => (subscriptionsOf b.store "user-1").length == 2) (by decide +kernel)
  exact ⟨b, by simpa using hb, (entitled_time sampleConfig
    (show sampleConfig.subscription.periodDays = some 30 by decide +kernel) (by decide) rfl hr
    "user-1").2.2.1⟩

/-- The renewal is paid for and accepted, and buys four seconds. -/
theorem renewal_loses_paid_time :
    ∃ b : AppState, (app sampleConfig).Run anyAction (Machine.start .empty) b ∧
      (∀ ev ∈ b.trace, neverRefused ev = true) ∧
      (subscriptionsOf b.store "user-1").length = 2 ∧
      entitledTime b.store "user-1" = 30 * 86400000 + 4000 ∧
      entitledTime b.store "user-1" ≠ 2 * (30 * 86400000) := by
  obtain ⟨b, hr, hb⟩ := Machine.exists_run_of_replay (m := app sampleConfig)
    (a := Machine.start .empty) anyAction
    (sampleRegistration ++ samplePush ++ sampleActivation ++ sampleRenewal)
    (fun b => b.trace.all neverRefused && (subscriptionsOf b.store "user-1").length == 2 &&
      coveredTime (30 * 86400000) (activations b.trace "user-1") == 30 * 86400000 + 4000)
    (by decide +kernel)
  simp only [Bool.and_eq_true, List.all_eq_true, beq_iff_eq] at hb
  have htime := entitledTime_eq (show sampleConfig.subscription.periodDays = some 30 by decide +kernel)
    (by decide) rfl hr "user-1"
  refine ⟨b, hr, hb.1.1, hb.1.2, htime.trans hb.2, ?_⟩
  rw [htime, hb.2]
  decide

end StreamingService

import StreamingService.Lib.Crash
import StreamingService.Payments.Books

/-!
# Payments — Redelivery

At-least-once delivery with exactly-once effect, for requests handled one at
a time. The handler of a delivery refines the delivery on the books: every
store it passes through has the books of before, the books with the
reference taken over, or the books of after. So a copy, and a redelivery
after a crash, add what the books say they add: nothing.
-/

namespace StreamingService

open Lib

/-! ## Statements the database accepts -/

def isDatabase : Cmd → Bool
  | .now | .service _ => false
  | _ => true

/-- The database accepts the statement. -/
def Accepts (e : Prog.Entry Sig) : Prop := isDatabase e.1 = true → e.2.isOk = true

instance (e : Prog.Entry Sig) : Decidable (Accepts e) :=
  inferInstanceAs (Decidable (_ → _))

theorem Accepts.not_error {c : Cmd} {e : Exception} (h : Accepts ⟨c, .error e⟩)
    (hc : isDatabase c = true) : False := by
  cases h hc

section

variable {o : Ambient} {s s' : Store}

theorem findByReference_ok {ref : JsVal} {found : Option Transaction}
    (h : exec o (.transaction (.findByReference ref)) s = (.ok found, s')) :
    ∃ text, ref = some (.str text) ∧
      found = (s.transactions.find? fun t => t.providerReference == some text) ∧ s' = s := by
  have h := exec_ok h
  simp only [answer, TransactionStmt.answer] at h
  cases htext : ref.text? with
  | none =>
      rw [htext] at h
      cases h
  | some text =>
      rw [htext] at h
      cases h
      exact ⟨text, JsVal.text?_eq_some htext, rfl, rfl⟩

theorem findById_ok {id : JsVal} {found : Option Transaction}
    (h : exec o (.transaction (.findById id)) s = (.ok found, s')) :
    ∃ text, id = some (.str text) ∧
      found = (s.transactions.find? fun t => t.id == text) ∧ s' = s := by
  have h := exec_ok h
  simp only [answer, TransactionStmt.answer] at h
  cases htext : id.text? with
  | none =>
      rw [htext] at h
      cases h
  | some text =>
      rw [htext] at h
      cases h
      exact ⟨text, JsVal.text?_eq_some htext, rfl, rfl⟩

theorem readForActivation_ok {id : String} {found : Option (Transaction × Option Subscription)}
    (h : exec o (.subscription (.readForActivation id)) s = (.ok found, s')) :
    found = ((s.transactions.find? fun t => t.id == id).map fun t =>
      (t, s.subscriptions.find? fun x => x.transactionId == t.id)) ∧ s' = s := by
  have h := exec_ok h
  simp only [answer, SubscriptionStmt.answer] at h
  cases h
  exact ⟨rfl, rfl⟩

end

/-! ## Statements on the books -/

section

variable {s s' : Store}

theorem books_congr (ht : s'.transactions = s.transactions)
    (hs : s'.subscriptions = s.subscriptions) : s'.books = s.books := by
  unfold Store.books
  rw [ht, hs]

/-- An update of one row, on the books. -/
theorem RowUpdated.books_transactions {id : String} {f f' : Transaction → Transaction}
    (h : RowUpdated s s' id f) (hf : ∀ t, (f t).timeless = f' t.timeless) :
    s'.books.transactions = (s.books.onRow id f').transactions := by
  have hrows : s'.transactions.rows =
      s.transactions.rows.map fun t => if t.id == id then f t else t := h
  unfold Store.books Books.onRow
  simp only [hrows, List.map_map]
  apply List.map_congr_left
  intro t _
  by_cases hid : t.id = id <;> simp [hid, hf]

theorem RowUpdated.books {id : String} {f f' : Transaction → Transaction}
    (h : RowUpdated s s' id f) (hs : s'.subscriptions = s.subscriptions)
    (hf : ∀ t, (f t).timeless = f' t.timeless) : s'.books = s.books.onRow id f' := by
  apply Books.ext (h.books_transactions hf)
  unfold Store.books
  simp [hs]

theorem books_paid (s : Store) (id : String) :
    s.books.paid id = s.subscriptions.rows.any fun x => x.transactionId == id := by
  unfold Store.books Books.paid
  simp only [List.any_map]
  rfl

theorem books_mem {t : Transaction} (ht : t ∈ s.transactions) :
    t.timeless ∈ s.books.transactions := List.mem_map.mpr ⟨t, ht, rfl⟩

theorem carries_str (t : Transaction) (text : String) :
    carries t (some (.str text)) = (t.providerReference == some text) := by
  cases href : t.providerReference <;> simp [carries, href, JsVal.text?]

/-- `findByReference` on the books. -/
theorem books_findByReference (s : Store) (text : String) :
    (s.books.transactions.find? fun t => carries t (some (.str text))) =
      (s.transactions.find? fun t => t.providerReference == some text).map (·.timeless) := by
  unfold Store.books Table.find?
  rw [List.find?_map]
  refine congrArg (Option.map _) (congrArg (List.find? · _) (funext ?_))
  intro t
  exact carries_str t.timeless text

/-- `findById` on the books. -/
theorem books_findById (s : Store) (text : String) :
    (s.books.transactions.find? fun t => some text == some t.id) =
      (s.transactions.find? fun t => t.id == text).map (·.timeless) := by
  unfold Store.books Table.find?
  rw [List.find?_map]
  refine congrArg (Option.map _) (congrArg (List.find? · _) (funext ?_))
  intro t
  simp [eq_comm]

end

/-! ## A delivery alone -/

/-- Some database statement was refused. -/
def Refused (G : Ambient → Prog.Entry Sig → Prop) : Prop :=
  ∃ o c e, isDatabase c = true ∧ G o ⟨c, .error e⟩

/-- What a lookup answers, on the books. -/
def LookedUp (G : Ambient → Prog.Entry Sig → Prop) (outcome : WebhookOutcome) (s : Store)
    (r : Except Exception (Option Transaction)) (s' : Store) : Prop :=
  s' = s ∧ match r with
    | .ok found =>
        outcome.providerReference.text?.isSome = true ∧
          s.books.lookup outcome = found.map (·.timeless) ∧ ∀ t ∈ found, t ∈ s.transactions
    | .error _ => Refused G

theorem findForWebhook_safe (G : Ambient → Prog.Entry Sig → Prop) (outcome : WebhookOutcome)
    (s : Store) : Prog.Safe exec G (fun s' => s' = s) (LookedUp G outcome s)
      (TransactionsService.findForWebhook outcome.providerReference outcome.txRef) s := by
  refine .perform_bind rfl ?_ ?_
  · intro o found s' hG hex
    obtain ⟨text, href, rfl, rfl⟩ := findByReference_ok hex
    have htext : outcome.providerReference.text?.isSome = true := by simp [href, JsVal.text?]
    have hcarrying := books_findByReference s' text
    rw [← href] at hcarrying
    cases hfind : s'.transactions.find? fun t => t.providerReference == some text with
    | some t =>
        rw [hfind] at hcarrying
        refine ⟨rfl, rfl, htext, ?_, ?_⟩
        · simp [Books.lookup, hcarrying]
        · intro t' ht'
          cases ht'
          exact (Table.mem_of_find? hfind).1
    | none =>
        rw [hfind] at hcarrying
        refine .ite ?_ fun hfalsy => ⟨rfl, rfl, htext, ?_, fun _ h => nomatch h⟩
        · intro htruthy
          refine Prog.Safe.perform (S := Sig) (c := .transaction (.findById outcome.txRef)) rfl ?_
          intro o r s'' hG' hex'
          cases r with
          | error e => exact ⟨exec_refused hex', exec_refused hex', o, _, e, rfl, hG'⟩
          | ok found =>
              obtain ⟨id, hid, rfl, rfl⟩ := findById_ok hex'
              have hbyId := books_findById s'' id
              refine ⟨rfl, rfl, htext, ?_, fun t ht => (Table.mem_of_find? ht).1⟩
              rw [hid] at htruthy
              simpa [Books.lookup, hcarrying, hid, htruthy, JsVal.text?] using hbyId
        · simp [Books.lookup, hcarrying, hfalsy]
  · intro o e s' hG hex
    exact ⟨exec_refused hex, exec_refused hex, o, _, e, rfl, hG⟩

section

variable {G : Ambient → Prog.Entry Sig → Prop} {F : String → Prop} {cfg : AppConfig}
  {outcome : WebhookOutcome} {b : Books} {s s' : Store} {t : Transaction}

/-- The environment accepts every database statement and generates ids in `F`. -/
structure Serves (G : Ambient → Prog.Entry Sig → Prop) (F : String → Prop) : Prop where
  accepts : ∀ o e, G o e → Accepts e
  generates : ∀ o e, G o e → F o.fresh

theorem Serves.not_refused (hG : Serves G F) : ¬ Refused G := by
  rintro ⟨o, c, e, hc, hGe⟩
  exact (hG.accepts o _ hGe).not_error hc

theorem Serves.no_error (hG : Serves G F) {o : Ambient} {c : Cmd} {e : Exception}
    (h : G o ⟨c, .error e⟩) (hc : isDatabase c = true) : False :=
  (hG.accepts o _ h).not_error hc

/-- An accepted `markFailed`, on the books. -/
theorem markFailed_books {o : Ambient} {id : String} {resolvedAt : Millis} {a : Transaction}
    (hst : outcome.status = .FAILED)
    (hex : exec o (.transaction (.markFailed id resolvedAt
      (outcome.failureReason.orElse (some (.str "Payment failed"))))) s = (.ok a, s')) :
    s'.books = s.books.onRow id (Books.closed outcome) := by
  have hstep := exec_ledger o (.transaction (.markFailed id resolvedAt
      (outcome.failureReason.orElse (some (.str "Payment failed"))))) s
  rw [hex] at hstep
  cases hstep with
  | quiet hquiet _ _ => cases hquiet
  | fail hreason _ _ hrows hs =>
      apply hrows.books hs
      intro t
      simp [Books.closed, hst, Books.failureText, hreason, Transaction.fail, Transaction.timeless]

/-- An accepted `setProviderReference`, on the books. -/
theorem setProviderReference_books {o : Ambient} {id : String} {a : Transaction}
    (htext : outcome.providerReference.text?.isSome = true)
    (hex : exec o (.transaction (.setProviderReference id outcome.providerReference)) s =
      (.ok a, s')) :
    s'.books = s.books.onRow id (Books.referred outcome) := by
  have hstep := exec_ledger o (.transaction (.setProviderReference id outcome.providerReference)) s
  obtain ⟨text, htext⟩ := Option.isSome_iff_exists.mp htext
  rw [hex] at hstep
  cases hstep with
  | quiet hquiet _ _ => cases hquiet
  | refer href _ _ hrows hs =>
      rw [JsVal.text?_eq_some htext] at href
      cases href
      apply hrows.books hs
      intro t
      simp [Books.referred, htext, Transaction.refer, Transaction.timeless]

/-- An accepted activation, on the books. -/
theorem commitActivation_books {o : Ambient} {resolvedAt startAt : Millis}
    {expiresAt : Option Millis} {a : Subscription} (hst : outcome.status = .SUCCEEDED)
    (hpaid : s.books.paid t.id = false)
    (hex : exec o (.subscription (.commitActivation t.id t.userId resolvedAt startAt expiresAt)) s =
      (.ok a, s')) :
    s'.books = s.books.conclude outcome o.fresh t.timeless := by
  have hstep := exec_ledger o
    (.subscription (.commitActivation t.id t.userId resolvedAt startAt expiresAt)) s
  rw [hex] at hstep
  cases hstep with
  | quiet hquiet _ _ => cases hquiet
  | activate hrow _ _ hrows hs =>
      have hts : s'.books.transactions =
          (s.books.onRow t.id (Books.closed outcome)).transactions :=
        hrows.books_transactions fun t' => by
          simp [Books.closed, hst, Transaction.succeed, Transaction.timeless]
      have hrows' : s'.subscriptions.rows = s.subscriptions.rows ++ [a] := Table.insert?_eq_some hs
      have hsubs : s'.books.subscriptions =
          s.books.subscriptions ++ [Books.bought t.timeless o.fresh] := by
        unfold Store.books
        simp [hrows', hrow, Books.bought, Subscription.timeless]
      refine Books.ext ?_ ?_
      · simp [Books.conclude, hst, hpaid, hts]
      · simp [Books.conclude, hst, hpaid, hsubs]

/-- The books after the row is closed. -/
def Concluded (F : String → Prop) (b : Books) (outcome : WebhookOutcome) (t : Transaction)
    (s' : Store) : Prop :=
  ∃ fresh, F fresh ∧ s'.books = b.conclude outcome fresh t

/-- Closing the row is under way, or done. -/
def Concluding (F : String → Prop) (b : Books) (outcome : WebhookOutcome) (t : Transaction)
    (s' : Store) : Prop :=
  s'.books = b ∨ Concluded F b outcome t s'

/-- The commit of an activation: the only statement of it that writes. -/
theorem commit_safe (hG : Serves G F) (hst : outcome.status = .SUCCEEDED)
    (hpaid : s.books.paid t.id = false) (resolvedAt startAt : Millis)
    (expiresAt : Option Millis) :
    Prog.Safe exec G (Concluding F s.books outcome t.timeless)
      (fun _ => Concluded F s.books outcome t.timeless)
      (stmt (.subscription
        (.commitActivation t.id t.userId resolvedAt startAt expiresAt)) : App Subscription) s := by
  refine Prog.Safe.perform (S := Sig)
    (c := .subscription (.commitActivation t.id t.userId resolvedAt startAt expiresAt)) (.inl rfl) ?_
  intro o r s' hGe hcommit
  cases r with
  | error e => exact (hG.no_error hGe rfl).elim
  | ok a =>
      have hq : Concluded F s.books outcome t.timeless s' :=
        ⟨o.fresh, hG.generates o _ hGe, commitActivation_books hst hpaid hcommit⟩
      exact ⟨.inr hq, hq⟩

theorem activateFromTransaction_safe (hG : Serves G F) (hne : ∃ fresh, F fresh)
    (ht : t ∈ s.transactions) (hst : outcome.status = .SUCCEEDED) :
    Prog.Safe exec G (Concluding F s.books outcome t.timeless)
      (fun _ => Concluded F s.books outcome t.timeless)
      (SubscriptionsService.activateFromTransaction cfg t.id) s := by
  refine .perform_bind (.inl rfl) ?_ fun o e s' hGe _ => (hG.no_error hGe rfl).elim
  intro o found s' _ hex
  obtain ⟨rfl, rfl⟩ := readForActivation_ok hex
  have hfind : (s'.transactions.find? fun t' => t'.id == t.id) = some t := transactions_find? ht rfl
  rw [hfind]
  have hpaid := books_paid s' t.id
  cases hsub : s'.subscriptions.find? fun x => x.transactionId == t.id with
  | some x =>
      -- the payment has its Subscription already
      obtain ⟨hx, hid⟩ := Table.mem_of_find? hsub
      have hany : s'.books.paid t.id = true := hpaid.trans (List.any_eq_true.mpr ⟨x, hx, hid⟩)
      obtain ⟨fresh, hfresh⟩ := hne
      simp only [Option.map_some, hsub]
      exact ⟨.inl rfl, fresh, hfresh, by simp [Books.conclude, hst, hany]⟩
  | none =>
      have hany : s'.books.paid t.id = false := by
        rw [hpaid]
        apply List.any_eq_false.mpr
        intro x hx
        simpa using Table.find?_eq_none.mp hsub x hx
      simp only [Option.map_some, hsub]
      refine .perform_bind (.inl rfl) ?_ fun o e s₁ _ hnow => (now_error hnow).elim
      intro o resolvedAt s₁ _ hnow
      obtain rfl := now_store hnow
      refine .perform_bind (.inl rfl) ?_ fun o e s₂ _ hnow' => (now_error hnow').elim
      intro o (startAt : Millis) s₂ _ hnow'
      obtain rfl := now_store hnow'
      exact commit_safe hG hst hany resolvedAt startAt _

theorem markFailed_safe (hG : Serves G F) (hne : ∃ fresh, F fresh)
    (hst : outcome.status = .FAILED) :
    Prog.Safe exec G (Concluding F s.books outcome t.timeless)
      (fun _ => Concluded F s.books outcome t.timeless)
      (TransactionsService.markFailed t.id
        (outcome.failureReason.orElse (some (.str "Payment failed")))) s := by
  refine .perform_bind (.inl rfl) ?_ fun o e s₁ _ hnow => (now_error hnow).elim
  intro o (resolvedAt : Millis) s₁ _ hnow
  obtain rfl := now_store hnow
  refine Prog.Safe.perform (S := Sig) (c := .transaction (.markFailed t.id resolvedAt
    (outcome.failureReason.orElse (some (.str "Payment failed"))))) (.inl rfl) ?_
  intro o r s₂ hGe hfail
  cases r with
  | error e => exact (hG.no_error hGe rfl).elim
  | ok a =>
      obtain ⟨fresh, hfresh⟩ := hne
      have hq : Concluded F s₁.books outcome t.timeless s₂ :=
        ⟨fresh, hfresh, by simp [Books.conclude, hst, markFailed_books hst hfail]⟩
      exact ⟨.inr hq, hq⟩

/-- **`conclude` refines the second half of a delivery.** -/
theorem conclude_safe (hG : Serves G F) (hne : ∃ fresh, F fresh) (ht : t ∈ s.transactions) :
    Prog.Safe exec G (Concluding F s.books outcome t.timeless)
      (fun _ => Concluded F s.books outcome t.timeless)
      (PaymentsService.conclude cfg outcome t.id) s := by
  cases hst : outcome.status with
  | SUCCEEDED =>
      simp only [PaymentsService.conclude, hst]
      exact .bind (activateFromTransaction_safe hG hne ht hst) (fun _ _ hq => ⟨.inr hq, hq⟩)
        fun _ _ hq => hq
  | FAILED =>
      simp only [PaymentsService.conclude, hst]
      exact .bind (markFailed_safe hG hne hst) (fun _ _ hq => ⟨.inr hq, hq⟩) fun _ _ hq => hq

/-- Where a handler of the delivery may be: it has changed nothing, it has
taken over the reference, or it is through. -/
def OnTheWay (F : String → Prop) (b : Books) (outcome : WebhookOutcome) (s' : Store) : Prop :=
  s'.books = b ∨
    (∃ t, b.lookup outcome = some t ∧ t.status = .PENDING ∧ s'.books = b.refer outcome t) ∨
    ∃ fresh, F fresh ∧ s'.books = b.deliver outcome fresh

/-- The handler is through. -/
def Through (F : String → Prop) (b : Books) (outcome : WebhookOutcome) (s' : Store) : Prop :=
  outcome.providerReference.text?.isSome = true ∧
    ∃ fresh, F fresh ∧ s'.books = b.deliver outcome fresh

/-- The second half of a delivery, once the row has its reference. -/
theorem conclude_through {t' : Transaction} (hG : Serves G F) (hne : ∃ fresh, F fresh)
    (htext : outcome.providerReference.text?.isSome = true) (hlookup : b.lookup outcome = some t)
    (hpend : t.status = .PENDING) (hbooks : s.books = b.refer outcome t)
    (ht' : t' ∈ s.transactions) (hrow : t'.timeless = Books.taken outcome t) :
    Prog.Safe exec G (OnTheWay F b outcome) (fun _ => Through F b outcome)
      (PaymentsService.conclude cfg outcome t'.id) s := by
  have hconclude : ∀ fresh, s.books.conclude outcome fresh t'.timeless = b.deliver outcome fresh := by
    intro fresh
    rw [hrow, Books.conclude_taken, hbooks, Books.deliver_pending hlookup hpend]
  refine (conclude_safe hG hne ht').mono ?_ ?_
  · intro s' hc
    rcases hc with hsame | ⟨fresh, hfresh, hdone⟩
    · exact .inr (.inl ⟨t, hlookup, hpend, hsame.trans hbooks⟩)
    · exact .inr (.inr ⟨fresh, hfresh, hdone.trans (hconclude fresh)⟩)
  · intro _ s' hc
    obtain ⟨fresh, hfresh, hdone⟩ := hc
    exact ⟨htext, fresh, hfresh, hdone.trans (hconclude fresh)⟩

theorem settle_safe (hG : Serves G F) (hne : ∃ fresh, F fresh) (ht : t ∈ s.transactions)
    (htext : outcome.providerReference.text?.isSome = true)
    (hlookup : s.books.lookup outcome = some t.timeless) (hpend : t.status = .PENDING) :
    Prog.Safe exec G (OnTheWay F s.books outcome) (fun _ => Through F s.books outcome)
      (PaymentsService.settle cfg outcome t) s := by
  refine .ite ?_ ?_
  · intro hlacks
    have hrefer : s.books.refer outcome t.timeless = s.books.onRow t.id (Books.referred outcome) :=
      if_pos hlacks
    have htaken : Books.taken outcome t.timeless = Books.referred outcome t.timeless :=
      if_pos hlacks
    refine .bind (Q := fun r s' => r.isOk = true ∧ s'.books = s.books.refer outcome t.timeless) ?_
      ?_ fun _ _ hq => nomatch hq.1
    · refine .perform_bind (.inl rfl) ?_ fun o e s' hGe _ => (hG.no_error hGe rfl).elim
      intro o a s' _ hset
      have hbooks := (setProviderReference_books htext hset).trans hrefer.symm
      exact ⟨.inr (.inl ⟨_, hlookup, hpend, hbooks⟩), rfl, hbooks⟩
    · -- the row the second half works on is the one that took the reference over
      intro _ s' hq
      have hmem : Books.taken outcome t.timeless ∈ s'.books.transactions := by
        rw [hq.2, hrefer, htaken]
        exact Books.mem_onRow.mpr ⟨_, books_mem ht, by simp⟩
      obtain ⟨t', ht', hrow⟩ := List.mem_map.mp hmem
      have hid : t'.id = t.id := by
        rw [← Transaction.timeless_id, hrow, Books.taken_id, Transaction.timeless_id]
      rw [← hid]
      exact conclude_through hG hne htext hlookup hpend hq.2 ht' hrow
  · intro hhas
    have hrefer : s.books.refer outcome t.timeless = s.books := if_neg hhas
    have htaken : Books.taken outcome t.timeless = t.timeless := if_neg hhas
    exact conclude_through hG hne htext hlookup hpend hrefer.symm ht htaken.symm

/-- **The handler refines the delivery**: each store on its way, and the one
it leaves, against the books it started from. -/
theorem applyOutcome_safe (hG : Serves G F) (hne : ∃ fresh, F fresh) (s : Store) :
    Prog.Safe exec G (OnTheWay F s.books outcome) (fun _ => Through F s.books outcome)
      (PaymentsService.applyOutcome cfg outcome) s := by
  have hfind : Prog.Safe exec G (OnTheWay F s.books outcome) (LookedUp G outcome s)
      (TransactionsService.findForWebhook outcome.providerReference outcome.txRef) s :=
    (findForWebhook_safe G outcome s).mono (fun s' hs' => .inl (by rw [hs'])) fun _ _ hq => hq
  refine .bind hfind ?_ fun e s' hq => (hG.not_refused hq.2).elim
  intro found s' hq
  obtain ⟨rfl, htext, hlookup, hmem⟩ := hq
  -- what remains when the delivery finds nothing to settle
  have hnothing : (∀ t, s'.books.lookup outcome = some t → t.status ≠ .PENDING) →
      OnTheWay F s'.books outcome s' ∧ Through F s'.books outcome s' := by
    intro hsettled
    obtain ⟨fresh, hfresh⟩ := hne
    exact ⟨.inl rfl, htext, fresh, hfresh, (Books.deliver_settled hsettled).symm⟩
  cases found with
  | none => exact hnothing fun t ht => by simp [hlookup] at ht
  | some t =>
      refine .ite (fun hst => hnothing ?_) ?_
      · intro t' ht'
        rw [hlookup] at ht'
        cases ht'
        simpa using hst
      · intro hst
        exact settle_safe hG hne (hmem t rfl) htext hlookup (by simpa using hst)

end

/-! ## After a crash -/

section

variable {G : Ambient → Prog.Entry Sig → Prop} {F : String → Prop} {cfg : AppConfig} {q : Request}
  {outcome : WebhookOutcome} {s : Store}

theorem handle_safe (hG : Serves G F) (hne : ∃ fresh, F fresh)
    (hdel : delivered cfg q = some outcome) (s : Store) :
    Prog.Safe exec G (OnTheWay F s.books outcome) (fun _ => Through F s.books outcome)
      (handle cfg q) s := by
  rw [handle_delivered hdel]
  refine .bind (applyOutcome_safe hG hne s) (fun _ s' hq => ⟨?_, hq⟩) fun _ _ hq => hq
  exact .inr (.inr hq.2)

/-- **A crash and a redelivery** make one delivery. -/
theorem redelivered_books (hG : Serves G F) (hne : ∃ fresh, F fresh)
    (hdel : delivered cfg q = some outcome) {n : Nat} {os os' : Nat → Ambient}
    (hcrash : Prog.AlongFor exec G n (handle cfg q) os s)
    (hagain : Prog.Along exec G (handle cfg q) os' ((handle cfg q).crash exec n os s)) :
    ∃ fresh, F fresh ∧ ((handle cfg q).runStore exec os'
      ((handle cfg q).crash exec n os s)).books = s.books.deliver outcome fresh := by
  have hway := (handle_safe hG hne hdel s).crash hcrash
  obtain ⟨htext, fresh, hfresh, hbooks⟩ := (handle_safe hG hne hdel _).run hagain
  rw [hbooks]
  rcases hway with hsame | ⟨t, hlookup, hpend, hrefer⟩ | ⟨first, hfirst, hthrough⟩
  · exact ⟨fresh, hfresh, by rw [hsame]⟩
  · rw [hrefer]
    exact ⟨fresh, hfresh, Books.deliver_refer (Books.keyed_books s) hlookup hpend htext⟩
  · rw [hthrough]
    exact ⟨first, hfirst, Books.deliver_deliver (Books.keyed_books s) htext fresh⟩

end

end StreamingService

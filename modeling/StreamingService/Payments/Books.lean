import StreamingService.Payments.Delivery

/-!
# Payments — Books

What a verified delivery is for, without the steps and without the clock:
the two payment tables as books from which the instants have been erased,
and one delivery as a function on them. It settles the Transaction it finds
while that is `PENDING`, and does nothing otherwise; so a second copy, or a
copy that follows a crash, adds nothing. The handler refines this function
statement by statement (`Payments.Redelivery`).
-/

namespace StreamingService

open Lib

/-! ## Books -/

/-- The row without the instant it was resolved at. -/
def Transaction.timeless (t : Transaction) : Transaction :=
  { t with resolvedAt := t.resolvedAt.map fun _ => 0 }

namespace Transaction

@[simp] theorem timeless_id (t : Transaction) : t.timeless.id = t.id := rfl

@[simp] theorem timeless_userId (t : Transaction) : t.timeless.userId = t.userId := rfl

@[simp] theorem timeless_status (t : Transaction) : t.timeless.status = t.status := rfl

@[simp] theorem timeless_providerReference (t : Transaction) :
    t.timeless.providerReference = t.providerReference := rfl

end Transaction

/-- The row without its instants. -/
def Subscription.timeless (x : Subscription) : Subscription :=
  { x with startAt := 0, expiresAt := 0 }

/-- The two payment tables up to timestamps. -/
@[ext] structure Books where
  transactions : List Transaction
  subscriptions : List Subscription
  deriving DecidableEq

def Store.books (s : Store) : Books where
  transactions := s.transactions.rows.map (·.timeless)
  subscriptions := s.subscriptions.rows.map (·.timeless)

namespace Books

/-- The unique indexes of `transactions`. -/
def Keyed (b : Books) : Prop :=
  b.transactions.Pairwise fun t t' => Indexed.clash t t' = false

theorem Keyed.eq_of_clash {b : Books} (h : b.Keyed) {t t' : Transaction}
    (ht : t ∈ b.transactions) (ht' : t' ∈ b.transactions) (hc : Indexed.clash t t' = true) :
    t = t' :=
  Table.eq_of_clash (t := ⟨b.transactions, Table.distinct_iff.mpr h⟩) ht ht' hc

theorem Keyed.eq_of_id {b : Books} (h : b.Keyed) {t t' : Transaction} (ht : t ∈ b.transactions)
    (ht' : t' ∈ b.transactions) (hid : t.id = t'.id) : t = t' :=
  h.eq_of_clash ht ht' (by simp [Indexed.clash, hid])

/-- One row carries a reference. -/
theorem Keyed.eq_of_carries {b : Books} (h : b.Keyed) {t t' : Transaction} {ref : JsVal}
    (ht : t ∈ b.transactions) (ht' : t' ∈ b.transactions) (hc : carries t ref = true)
    (hc' : carries t' ref = true) : t = t' := by
  simp only [carries, Bool.and_eq_true, beq_iff_eq] at hc hc'
  have hsome : ref.text?.isSome = true := hc.2 ▸ hc.1
  exact h.eq_of_clash ht ht' (by simp [Indexed.clash, hc.2, hc'.2, hsome])

theorem keyed_books (s : Store) : s.books.Keyed := by
  unfold Keyed Store.books
  rw [List.pairwise_map]
  exact Table.distinct_iff.mp s.transactions.unique

/-! ## One delivery -/

/-- `findForWebhook`. -/
def lookup (b : Books) (outcome : WebhookOutcome) : Option Transaction :=
  match b.transactions.find? fun t => carries t outcome.providerReference with
  | some t => some t
  | none =>
      if outcome.txRef.truthy then
        b.transactions.find? fun t => outcome.txRef.text? == some t.id
      else none

/-- `f` applied to the row with this id. -/
def onRow (b : Books) (id : String) (f : Transaction → Transaction) : Books :=
  { b with transactions := b.transactions.map fun t => if t.id == id then f t else t }

/-- The reference the delivery carries, as the row's own. -/
def referred (outcome : WebhookOutcome) (t : Transaction) : Transaction :=
  { t with providerReference := outcome.providerReference.text? }

/-- What a failure leaves in `failureReason`. -/
def failureText (outcome : WebhookOutcome) : Option String → Option String :=
  (textUpdate (outcome.failureReason.orElse (some (.str "Payment failed")))).getD fun x => x

/-- The Subscription a success creates. -/
def bought (t : Transaction) (id : String) : Subscription where
  id := id
  userId := t.userId
  status := .ACTIVE
  startAt := 0
  expiresAt := 0
  transactionId := t.id

def paid (b : Books) (id : String) : Bool := b.subscriptions.any fun x => x.transactionId == id

/-- The status an outcome leaves on the row. -/
def closed (outcome : WebhookOutcome) (t : Transaction) : Transaction :=
  match outcome.status with
  | .FAILED => t.fail 0 (failureText outcome)
  | .SUCCEEDED => t.succeed 0

/-- `conclude` for the row `t`; a new Subscription gets the id `fresh`. -/
def conclude (b : Books) (outcome : WebhookOutcome) (fresh : String) (t : Transaction) : Books :=
  match outcome.status with
  | .FAILED => b.onRow t.id (closed outcome)
  | .SUCCEEDED =>
      if b.paid t.id then b
      else
        { transactions := (b.onRow t.id (closed outcome)).transactions
          subscriptions := b.subscriptions ++ [bought t fresh] }

/-- The reference a row that lacks one takes over. -/
def refer (b : Books) (outcome : WebhookOutcome) (t : Transaction) : Books :=
  if PaymentsService.lacksReference t then b.onRow t.id (referred outcome) else b

/-- **One delivery.** -/
def deliver (b : Books) (outcome : WebhookOutcome) (fresh : String) : Books :=
  match b.lookup outcome with
  | none => b
  | some t =>
      if t.status == .PENDING then (b.refer outcome t).conclude outcome fresh t else b

/-- The books up to the ids generated for the Subscriptions. -/
def unnamed (b : Books) : Books :=
  { b with subscriptions := b.subscriptions.map fun x => { x with id := "" } }

/-- The generated id shows nowhere else. -/
theorem deliver_unnamed (b : Books) (outcome : WebhookOutcome) (fresh fresh' : String) :
    (b.deliver outcome fresh).unnamed = (b.deliver outcome fresh').unnamed := by
  unfold deliver conclude
  repeat' split
  all_goals simp [unnamed, bought]

/-! ## Rows -/

theorem mem_onRow {b : Books} {id : String} {f : Transaction → Transaction} {x : Transaction} :
    x ∈ (b.onRow id f).transactions ↔
      ∃ t ∈ b.transactions, (if t.id == id then f t else t) = x := by
  simp [onRow]

@[simp] theorem onRow_subscriptions (b : Books) (id : String) (f : Transaction → Transaction) :
    (b.onRow id f).subscriptions = b.subscriptions := rfl

@[simp] theorem onRow_paid (b : Books) (id id' : String) (f : Transaction → Transaction) :
    (b.onRow id f).paid id' = b.paid id' := rfl

/-- Two updates of one row are one. -/
theorem onRow_onRow {b : Books} {id : String} {f g : Transaction → Transaction}
    (hf : ∀ t, (f t).id = t.id) :
    (b.onRow id f).onRow id g = b.onRow id fun t => g (f t) := by
  unfold onRow
  simp only [List.map_map, Books.mk.injEq, and_true]
  apply List.map_congr_left
  intro t _
  by_cases hid : t.id = id <;> simp [hid, hf]

theorem onRow_congr {b : Books} {id : String} {f g : Transaction → Transaction}
    (h : ∀ t ∈ b.transactions, t.id = id → f t = g t) : b.onRow id f = b.onRow id g := by
  unfold onRow
  simp only [Books.mk.injEq, and_true]
  apply List.map_congr_left
  intro t ht
  by_cases hid : t.id = id
  · simp [hid, h t ht hid]
  · simp [hid]

/-! ## Lookups -/

theorem lookup_mem {b : Books} {outcome : WebhookOutcome} {t : Transaction}
    (h : b.lookup outcome = some t) : t ∈ b.transactions := by
  unfold lookup at h
  split at h
  · rename_i t' hfind
    cases h
    exact List.mem_of_find?_eq_some hfind
  · split at h
    · exact List.mem_of_find?_eq_some h
    · cases h

/-- How a lookup found its row. -/
theorem lookup_cases {b : Books} {outcome : WebhookOutcome} {t : Transaction}
    (h : b.lookup outcome = some t) :
    carries t outcome.providerReference = true ∨
      (∀ t' ∈ b.transactions, carries t' outcome.providerReference = false) ∧
        outcome.txRef.truthy = true ∧ outcome.txRef.text? = some t.id := by
  unfold lookup at h
  split at h
  · rename_i t' hfind
    cases h
    have hcarries := List.find?_some hfind
    exact .inl hcarries
  · rename_i hnone
    split at h
    · rename_i htruthy
      have hid := List.find?_some h
      refine .inr ⟨?_, htruthy, by simpa using hid⟩
      intro t' ht'
      simpa using List.find?_eq_none.mp hnone t' ht'
    · cases h

theorem lookup_of_carries {b : Books} (hkeyed : b.Keyed) {outcome : WebhookOutcome}
    {t : Transaction} (ht : t ∈ b.transactions)
    (hc : carries t outcome.providerReference = true) : b.lookup outcome = some t := by
  unfold lookup
  split
  · rename_i t' hfind
    have hc' := List.find?_some hfind
    rw [hkeyed.eq_of_carries (List.mem_of_find?_eq_some hfind) ht hc' hc]
  · rename_i hnone
    have := List.find?_eq_none.mp hnone t ht
    exact absurd hc this

theorem lookup_of_txRef {b : Books} (hkeyed : b.Keyed) {outcome : WebhookOutcome}
    {t : Transaction} (ht : t ∈ b.transactions)
    (hno : ∀ t' ∈ b.transactions, carries t' outcome.providerReference = false)
    (htruthy : outcome.txRef.truthy = true) (hid : outcome.txRef.text? = some t.id) :
    b.lookup outcome = some t := by
  have hnone : (b.transactions.find? fun t => carries t outcome.providerReference) = none :=
    List.find?_eq_none.mpr fun t' ht' => by simp [hno t' ht']
  unfold lookup
  rw [hnone]
  simp only [htruthy, if_true]
  cases hfind : b.transactions.find? fun t => outcome.txRef.text? == some t.id with
  | none => exact absurd (by simpa using hid) (List.find?_eq_none.mp hfind t ht)
  | some t' =>
      have hid' := List.find?_some hfind
      simp only [hid, beq_iff_eq, Option.some.injEq] at hid'
      rw [hkeyed.eq_of_id (List.mem_of_find?_eq_some hfind) ht hid'.symm]

/-- **A lookup follows its row** through an update that lets the row carry the
delivery's reference or leaves its reference alone. -/
theorem lookup_onRow {b : Books} {outcome : WebhookOutcome} {t : Transaction}
    {f : Transaction → Transaction} (hkeyed : (b.onRow t.id f).Keyed)
    (hb : b.Keyed) (h : b.lookup outcome = some t) (hid : ∀ t, (f t).id = t.id)
    (href : carries (f t) outcome.providerReference = true ∨
      (f t).providerReference = t.providerReference) :
    (b.onRow t.id f).lookup outcome = some (f t) := by
  have hmem : f t ∈ (b.onRow t.id f).transactions :=
    mem_onRow.mpr ⟨t, lookup_mem h, by simp⟩
  rcases href with hcarries | hsame
  · exact lookup_of_carries hkeyed hmem hcarries
  · have hsame' : carries (f t) outcome.providerReference = carries t outcome.providerReference := by
      simp [carries, hsame]
    rcases lookup_cases h with hcarries | ⟨hno, htruthy, htx⟩
    · exact lookup_of_carries hkeyed hmem (hsame'.trans hcarries)
    · refine lookup_of_txRef hkeyed hmem ?_ htruthy (by rw [htx, hid])
      intro x hx
      obtain ⟨t', ht', rfl⟩ := mem_onRow.mp hx
      split
      · rename_i heq
        have htt : t' = t := hb.eq_of_id ht' (lookup_mem h) (by simpa using heq)
        rw [htt, hsame']
        exact hno t (lookup_mem h)
      · exact hno t' ht'

theorem lookup_congr {b b' : Books} (h : b.transactions = b'.transactions)
    (outcome : WebhookOutcome) : b.lookup outcome = b'.lookup outcome := by
  unfold lookup
  rw [h]

/-! ## The two halves of a delivery -/

theorem closed_id (outcome : WebhookOutcome) (t : Transaction) : (closed outcome t).id = t.id := by
  cases h : outcome.status <;> simp [closed, h, Transaction.fail, Transaction.succeed]

theorem closed_providerReference (outcome : WebhookOutcome) (t : Transaction) :
    (closed outcome t).providerReference = t.providerReference := by
  cases h : outcome.status <;> simp [closed, h, Transaction.fail, Transaction.succeed]

theorem closed_status (outcome : WebhookOutcome) (t : Transaction) :
    (closed outcome t).status ≠ .PENDING := by
  cases h : outcome.status <;> simp [closed, h, Transaction.fail, Transaction.succeed]

/-- Unless a success finds its payment paid, the row is closed. -/
theorem conclude_transactions {b : Books} {outcome : WebhookOutcome} {fresh : String}
    {t : Transaction} (h : outcome.status = .SUCCEEDED → b.paid t.id = false) :
    (b.conclude outcome fresh t).transactions = (b.onRow t.id (closed outcome)).transactions := by
  unfold conclude
  split
  · rfl
  · rename_i hst
    rw [if_neg (by simp [h hst])]

/-- An update that lets no other row clash keeps the indexes. -/
theorem Keyed.onRow {b : Books} (h : b.Keyed) {id : String} {f : Transaction → Transaction}
    (hnew : ∀ t ∈ b.transactions, t.id = id → ∀ t' ∈ b.transactions, t'.id ≠ id →
      Indexed.clash (f t) t' = false) : (b.onRow id f).Keyed := by
  unfold Keyed Books.onRow
  rw [List.pairwise_map]
  refine h.imp_of_mem fun {t t'} ht ht' hclash => ?_
  by_cases htid : t.id = id <;> by_cases htid' : t'.id = id
  · simp [Indexed.clash, htid, htid'] at hclash
  · simpa [htid, htid'] using hnew t ht htid t' ht' htid'
  · rw [Indexed.clash_comm]
    simpa [htid, htid'] using hnew t' ht' htid' t ht htid
  · simpa [htid, htid'] using hclash

theorem Keyed.onRow_of_same {b : Books} (h : b.Keyed) {id : String}
    {f : Transaction → Transaction} (hid : ∀ t, (f t).id = t.id)
    (href : ∀ t, (f t).providerReference = t.providerReference) : (b.onRow id f).Keyed := by
  apply h.onRow
  intro t ht htid t' ht' htid'
  cases hclash : Indexed.clash (f t) t' with
  | false => rfl
  | true =>
      have hclash' : Indexed.clash t t' = true := by
        simpa [Indexed.clash, hid, href] using hclash
      rw [h.eq_of_clash ht ht' hclash'] at htid
      exact absurd htid htid'

section

variable {b : Books} {outcome : WebhookOutcome} {t : Transaction}

/-- Only the row a lookup found can carry the reference. -/
theorem lookup_only (hkeyed : b.Keyed) (h : b.lookup outcome = some t) {t' : Transaction}
    (ht' : t' ∈ b.transactions) (hc : carries t' outcome.providerReference = true) : t' = t := by
  rcases lookup_cases h with hcarries | ⟨hno, -⟩
  · exact hkeyed.eq_of_carries ht' (lookup_mem h) hc hcarries
  · rw [hno t' ht'] at hc
    cases hc

theorem refer_keyed (hkeyed : b.Keyed) (h : b.lookup outcome = some t) :
    (b.refer outcome t).Keyed := by
  unfold refer
  split
  · apply hkeyed.onRow
    intro x hx hxid t' ht' htid'
    cases hclash : Indexed.clash (referred outcome x) t' with
    | false => rfl
    | true =>
        have hid : x.id ≠ t'.id := fun heq => htid' (by rw [← heq, hxid])
        simp only [Indexed.clash, referred, Bool.or_eq_true, beq_iff_eq, hid, false_or,
          Bool.and_eq_true] at hclash
        have hc : carries t' outcome.providerReference = true := by
          simp [carries, ← hclash.2, hclash.1]
        exact absurd (by rw [lookup_only hkeyed h ht' hc]) htid'
  · exact hkeyed

/-- The row after it has taken over the reference. -/
def taken (outcome : WebhookOutcome) (t : Transaction) : Transaction :=
  if PaymentsService.lacksReference t then referred outcome t else t

@[simp] theorem taken_id : (taken outcome t).id = t.id := by
  unfold taken
  split <;> rfl

@[simp] theorem taken_userId : (taken outcome t).userId = t.userId := by
  unfold taken
  split <;> rfl

@[simp] theorem taken_status : (taken outcome t).status = t.status := by
  unfold taken
  split <;> rfl

theorem taken_carries (h : PaymentsService.lacksReference t = true)
    (htext : outcome.providerReference.text?.isSome = true) :
    carries (taken outcome t) outcome.providerReference = true := by
  simp [taken, h, carries, referred, htext]

@[simp] theorem refer_subscriptions : (b.refer outcome t).subscriptions = b.subscriptions := by
  unfold refer
  split <;> rfl

@[simp] theorem refer_paid (id : String) : (b.refer outcome t).paid id = b.paid id := by
  unfold paid
  rw [refer_subscriptions]

theorem lookup_refer (hkeyed : b.Keyed) (h : b.lookup outcome = some t)
    (htext : outcome.providerReference.text?.isSome = true) :
    (b.refer outcome t).lookup outcome = some (taken outcome t) := by
  have hkeyed' := refer_keyed hkeyed h
  by_cases hlacks : PaymentsService.lacksReference t = true
  · have hcarries := taken_carries hlacks htext
    simp only [refer, taken, hlacks, if_true] at hkeyed' hcarries ⊢
    exact lookup_onRow hkeyed' hkeyed h (fun _ => rfl) (.inl hcarries)
  · simpa [refer, taken, hlacks] using h

/-- Taking over the reference a second time changes nothing. -/
theorem refer_refer : (b.refer outcome t).refer outcome (taken outcome t) = b.refer outcome t := by
  by_cases hlacks : PaymentsService.lacksReference t = true
  · simp only [refer, taken, hlacks, if_true]
    split
    · exact onRow_onRow fun _ => rfl
    · rfl
  · simp [refer, taken, hlacks]

theorem conclude_taken (b : Books) (fresh : String) :
    b.conclude outcome fresh (taken outcome t) = b.conclude outcome fresh t := by
  simp [conclude, bought]

/-- The row a delivery has closed. -/
theorem lookup_conclude (hkeyed : b.Keyed) (h : b.lookup outcome = some t)
    (htext : outcome.providerReference.text?.isSome = true) {fresh : String}
    (hpaid : outcome.status = .SUCCEEDED → b.paid t.id = false) :
    ((b.refer outcome t).conclude outcome fresh t).lookup outcome =
      some (closed outcome (taken outcome t)) := by
  have hkeyed' := refer_keyed hkeyed h
  have hid : (taken outcome t).id = t.id := taken_id
  rw [lookup_congr (conclude_transactions (by simpa using hpaid)) outcome, ← hid]
  exact lookup_onRow (hkeyed'.onRow_of_same (closed_id outcome) (closed_providerReference outcome))
    hkeyed' (lookup_refer hkeyed h htext) (closed_id outcome)
    (.inr (closed_providerReference outcome _))

end

/-! ## A delivery again -/

section

variable {b : Books} {outcome : WebhookOutcome} {t : Transaction} {fresh : String}

theorem deliver_pending (h : b.lookup outcome = some t) (hst : t.status = .PENDING) :
    b.deliver outcome fresh = (b.refer outcome t).conclude outcome fresh t := by
  simp [deliver, h, hst]

theorem deliver_settled (h : ∀ t, b.lookup outcome = some t → t.status ≠ .PENDING) :
    b.deliver outcome fresh = b := by
  unfold deliver
  split
  · rfl
  · rename_i t ht
    rw [if_neg (by simpa using h t ht)]

/-- **After a crash in the middle**: with the reference already taken over, a
delivery does the rest. -/
theorem deliver_refer (hkeyed : b.Keyed) (h : b.lookup outcome = some t)
    (hst : t.status = .PENDING) (htext : outcome.providerReference.text?.isSome = true) :
    (b.refer outcome t).deliver outcome fresh = b.deliver outcome fresh := by
  rw [deliver_pending (lookup_refer hkeyed h htext) (by simpa using hst), deliver_pending h hst,
    refer_refer, conclude_taken]

/-- **A second copy** does nothing. -/
theorem deliver_deliver (hkeyed : b.Keyed)
    (htext : outcome.providerReference.text?.isSome = true) (fresh' : String) :
    (b.deliver outcome fresh).deliver outcome fresh' = b.deliver outcome fresh := by
  by_cases hsettled : ∀ t, b.lookup outcome = some t → t.status ≠ .PENDING
  · rw [deliver_settled hsettled, deliver_settled hsettled]
  · push Not at hsettled
    obtain ⟨t, h, hst⟩ := hsettled
    by_cases hpaid : outcome.status = .SUCCEEDED → b.paid t.id = false
    · apply deliver_settled
      intro t' ht'
      rw [deliver_pending h hst, lookup_conclude hkeyed h htext hpaid] at ht'
      cases ht'
      exact closed_status outcome _
    · -- a paid row stays as it is: the first copy only took the reference over
      push Not at hpaid
      have hpaid' : b.paid t.id = true := by simpa using hpaid.2
      have hdeliver : ∀ id, b.deliver outcome id = b.refer outcome t := by
        intro id
        rw [deliver_pending h hst]
        simp [conclude, hpaid.1, hpaid']
      rw [hdeliver, deliver_refer hkeyed h hst htext, hdeliver]

end

/-! ## Absorbed deliveries -/

/-- The books have absorbed an outcome: whatever row its lookup finds, now or
later, has left `PENDING`. -/
structure Absorbed (b : Books) (outcome : WebhookOutcome) : Prop where
  carrying : ∀ t ∈ b.transactions, carries t outcome.providerReference = true → t.status ≠ .PENDING
  found : (∃ t ∈ b.transactions, carries t outcome.providerReference = true) ∨
    ∃ t ∈ b.transactions, outcome.txRef.text? = some t.id ∧ t.status ≠ .PENDING

/-- Every `PENDING` Transaction has no Subscription. -/
def Unpaid (b : Books) : Prop := ∀ t ∈ b.transactions, t.status = .PENDING → b.paid t.id = false

section

variable {b : Books} {outcome : WebhookOutcome} {t : Transaction} {fresh : String}

theorem Absorbed.of_lookup (hkeyed : b.Keyed) (h : b.lookup outcome = some t)
    (hst : t.status ≠ .PENDING) : Absorbed b outcome where
  carrying t' ht' hc := by
    rw [lookup_only hkeyed h ht' hc]
    exact hst
  found := by
    rcases lookup_cases h with hcarries | ⟨-, -, htx⟩
    · exact .inl ⟨t, lookup_mem h, hcarries⟩
    · exact .inr ⟨t, lookup_mem h, htx, hst⟩

theorem Absorbed.lookup (habs : Absorbed b outcome) (hkeyed : b.Keyed)
    (h : b.lookup outcome = some t) : t.status ≠ .PENDING := by
  rcases lookup_cases h with hcarries | ⟨hno, -, htx⟩
  · exact habs.carrying t (lookup_mem h) hcarries
  · rcases habs.found with ⟨t', ht', hc⟩ | ⟨t', ht', htx', hst⟩
    · rw [hno t' ht'] at hc
      cases hc
    · have hid : t.id = t'.id := Option.some.inj (htx.symm.trans htx')
      rw [hkeyed.eq_of_id (lookup_mem h) ht' hid]
      exact hst

/-- **A delivery is absorbed** by the books it leaves. -/
theorem deliver_absorbed (hkeyed : b.Keyed) (hkeyed' : (b.deliver outcome fresh).Keyed)
    (hunpaid : Unpaid b) (h : b.lookup outcome = some t)
    (htext : outcome.providerReference.text?.isSome = true) :
    Absorbed (b.deliver outcome fresh) outcome := by
  by_cases hst : t.status = .PENDING
  · refine .of_lookup hkeyed' (t := closed outcome (taken outcome t)) ?_ (closed_status outcome _)
    rw [deliver_pending h hst]
    exact lookup_conclude hkeyed h htext fun _ => hunpaid t (lookup_mem h) hst
  · have hsame : b.deliver outcome fresh = b := deliver_settled fun t' ht' => by
      rw [h] at ht'
      cases ht'
      exact hst
    rw [hsame]
    exact .of_lookup hkeyed h hst

/-- What an update has to respect for the books to stay absorbed. -/
theorem Absorbed.onRow (habs : Absorbed b outcome) {id : String} {f : Transaction → Transaction}
    (hid : ∀ t, (f t).id = t.id)
    (hnew : ∀ t ∈ b.transactions, t.id = id →
      carries (f t) outcome.providerReference = true → (f t).status ≠ .PENDING)
    (hold : ∀ t ∈ b.transactions, t.id = id → carries t outcome.providerReference = true →
      carries (f t) outcome.providerReference = true)
    (hst : ∀ t ∈ b.transactions, t.id = id → t.status ≠ .PENDING → (f t).status ≠ .PENDING) :
    Absorbed (b.onRow id f) outcome where
  carrying x hx hc := by
    obtain ⟨t, ht, rfl⟩ := mem_onRow.mp hx
    by_cases htid : t.id = id
    · simp only [htid, beq_self_eq_true, if_true] at hc ⊢
      exact hnew t ht htid hc
    · simp only [beq_iff_eq, htid, if_false] at hc ⊢
      exact habs.carrying t ht hc
  found := by
    rcases habs.found with ⟨t, ht, hc⟩ | ⟨t, ht, htx, hleft⟩
    · refine .inl ⟨_, mem_onRow.mpr ⟨t, ht, rfl⟩, ?_⟩
      split
      · rename_i htid
        exact hold t ht (by simpa using htid) hc
      · exact hc
    · refine .inr ⟨_, mem_onRow.mpr ⟨t, ht, rfl⟩, ?_, ?_⟩
      · split
        · rw [hid, htx]
        · exact htx
      · split
        · rename_i htid
          exact hst t ht (by simpa using htid) hleft
        · exact hleft

theorem Absorbed.congr {b' : Books} (habs : Absorbed b outcome)
    (h : b'.transactions = b.transactions) : Absorbed b' outcome where
  carrying := by
    rw [h]
    exact habs.carrying
  found := by
    rw [h]
    exact habs.found

/-- A row without a reference comes in. -/
theorem Absorbed.append {b' : Books} {t : Transaction} (habs : Absorbed b outcome)
    (hno : t.providerReference = none) (h : b'.transactions = b.transactions ++ [t]) :
    Absorbed b' outcome where
  carrying x hx hc := by
    rw [h] at hx
    rcases List.mem_append.mp hx with hx | hx
    · exact habs.carrying x hx hc
    · rw [List.mem_singleton.mp hx] at hc
      simp [carries, hno] at hc
  found := by
    rw [h]
    rcases habs.found with ⟨x, hx, hc⟩ | ⟨x, hx, htx⟩
    · exact .inl ⟨x, List.mem_append_left _ hx, hc⟩
    · exact .inr ⟨x, List.mem_append_left _ hx, htx⟩

/-- Any other delivery leaves absorbed books absorbed. -/
theorem Absorbed.deliver (habs : Absorbed b outcome) (hkeyed : b.Keyed) (hunpaid : Unpaid b)
    (other : WebhookOutcome) : Absorbed (b.deliver other fresh) outcome := by
  by_cases hsettled : ∀ t, b.lookup other = some t → t.status ≠ .PENDING
  · rw [deliver_settled hsettled]
    exact habs
  · push Not at hsettled
    obtain ⟨t, h, hst⟩ := hsettled
    have hpaid := hunpaid t (lookup_mem h) hst
    -- the row the other delivery settles is `PENDING`, so it is not the absorbed one
    have hrow : ∀ x ∈ b.transactions, x.id = t.id → x = t := fun x hx hid =>
      hkeyed.eq_of_id hx (lookup_mem h) hid
    have hsettle : Absorbed ((b.onRow t.id fun x => closed other (taken other x))) outcome := by
      refine habs.onRow (fun x => by rw [closed_id, taken_id]) (fun _ _ _ _ => closed_status _ _)
        ?_ fun _ _ _ _ => closed_status _ _
      intro x hx hid hc
      rw [hrow x hx hid] at hc
      exact absurd hst (habs.carrying t (lookup_mem h) hc)
    apply hsettle.congr
    rw [deliver_pending h hst, conclude_transactions (by simpa using fun _ => hpaid)]
    unfold refer
    split
    · rename_i hlacks
      rw [onRow_onRow (f := referred other) fun _ => rfl]
      exact congrArg Books.transactions (onRow_congr fun x hx hid => by
        rw [hrow x hx hid]
        simp [taken, hlacks])
    · rename_i hlacks
      exact congrArg Books.transactions (onRow_congr fun x hx hid => by
        rw [hrow x hx hid]
        simp [taken, hlacks])

end

end Books

end StreamingService

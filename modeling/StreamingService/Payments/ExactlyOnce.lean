import StreamingService.Payments.Redelivery
import StreamingService.Payments.Status

/-!
# Payments — Exactly once

Requests handled one at a time, over a database that accepts every
statement. Once a delivery has been resolved to a Transaction, its outcome
is absorbed and stays so: no later request gives a `PENDING` row its
reference. From then on a copy of it changes nothing, wherever it arrives.
-/

namespace StreamingService

open Lib

/-! ## Orderly sequences -/

/-- The text `setProviderReference` stores for a value. -/
def storedText (v : JsVal) : Option String := (textUpdate v).bind fun f => f none

/-- The reference an answered push brings: its `CheckoutRequestID`. -/
def broughtReference : Prog.Entry Sig → Option String
  | ⟨.service (.darajaStkPush _), .ok reply⟩ =>
      (HttpReply.body reply).bind fun v =>
        (JsVal.member (some v) "CheckoutRequestID").bind storedText
  | _ => none

/-- The database accepts the statement, and a `CheckoutRequestID` it brings is
none of the references seen. -/
def Timely (seen : List String) (e : Prog.Entry Sig) : Prop :=
  Accepts e ∧ ∀ ref ∈ broughtReference e, ref ∉ seen

instance (seen : List String) (e : Prog.Entry Sig) : Decidable (Timely seen e) :=
  inferInstanceAs (Decidable (_ ∧ _))

/-- The reference of a verified delivery. -/
def deliveredReference (cfg : AppConfig) (q : Request) : List String :=
  ((delivered cfg q).bind fun outcome => outcome.providerReference.text?).toList

/-- Every statement of the sequence is accepted, and every `CheckoutRequestID`
returned in it is fresh: no earlier delivery carried it. -/
def Orderly (cfg : AppConfig) : List String → List Op → Store → Prop
  | _, [], _ => True
  | seen, op :: rest, s =>
      Prog.Along exec (fun _ => Timely seen) (handle cfg op.request) op.env s ∧
        Orderly cfg (deliveredReference cfg op.request ++ seen) rest (op.run cfg s)

instance Orderly.instDecidable (cfg : AppConfig) :
    (seen : List String) → (ops : List Op) → (s : Store) → Decidable (Orderly cfg seen ops s)
  | _, [], _ => isTrue trivial
  | seen, op :: rest, s =>
      have : Decidable (Orderly cfg (deliveredReference cfg op.request ++ seen) rest
          (op.run cfg s)) := Orderly.instDecidable cfg _ _ _
      inferInstanceAs (Decidable (_ ∧ _))

theorem serves_accepts (F : String → Prop) :
    Serves (fun o e => Accepts e ∧ F o.fresh) F where
  accepts _ _ h := h.1
  generates _ _ h := h.2

theorem serves_timely (seen : List String) :
    Serves (fun _ => Timely seen) fun _ => True where
  accepts _ _ h := h.1
  generates _ _ _ := trivial

/-! ## What one statement leaves absorbed -/

section

variable {cfg : AppConfig} {o : Ambient} {s s' : Store} {e : Prog.Entry Sig}
  {outcome : WebhookOutcome}

/-- Every Subscription was bought by a Transaction that has left `PENDING`. -/
def PaidClosed (s : Store) : Prop :=
  ∀ x ∈ s.subscriptions, ∃ t ∈ s.transactions, t.id = x.transactionId ∧ t.status ≠ .PENDING

theorem PaidClosed.unpaid (h : PaidClosed s) : s.books.Unpaid := by
  intro t ht hst
  obtain ⟨t', ht', rfl⟩ := List.mem_map.mp ht
  rw [books_paid]
  apply List.any_eq_false.mpr
  intro x hx hid
  obtain ⟨t'', ht'', hid', hleft⟩ := h x hx
  have hsame : t'' = t' := transactions_eq_of_id ht'' ht' (hid'.trans (by simpa using hid))
  exact hleft (hsame ▸ hst)

theorem RowUpdated.paidClosed {id : String} {f : Transaction → Transaction}
    (h : RowUpdated s s' id f) (hf : ∀ t, (f t).id = t.id)
    (hst : ∀ t : Transaction, t.status ≠ .PENDING → (f t).status ≠ .PENDING)
    (hs : s'.subscriptions = s.subscriptions) (hclosed : PaidClosed s) : PaidClosed s' := by
  intro x hx
  obtain ⟨t, ht, hid, hleft⟩ := hclosed x (hs ▸ hx)
  refine ⟨_, h.mem.mpr ⟨t, ht, rfl⟩, ?_, ?_⟩ <;> split <;> simp_all

theorem LedgerStep.paidClosed (h : LedgerStep o s s' e) (hclosed : PaidClosed s) :
    PaidClosed s' := by
  cases h with
  | quiet _ ht hs =>
      intro x hx
      rw [ht]
      exact hclosed x (hs ▸ hx)
  | create _ _ ht hs =>
      intro x hx
      obtain ⟨t, hmem, hid, hleft⟩ := hclosed x (hs ▸ hx)
      exact ⟨t, (Table.mem_insert? ht).mpr (.inl hmem), hid, hleft⟩
  | refer _ _ _ hrows hs => exact hrows.paidClosed (fun _ => rfl) (fun _ h => h) hs hclosed
  | fail _ _ _ hrows hs =>
      exact hrows.paidClosed (fun _ => rfl) (fun _ _ => by simp [Transaction.fail]) hs hclosed
  | timeOut _ _ hrows hs =>
      exact hrows.paidClosed (fun _ => rfl) (fun _ _ => by simp [Transaction.timeOut]) hs hclosed
  | activate hrow ht hid hrows hs =>
      intro x hx
      rcases (Table.mem_insert? hs).mp hx with hx | rfl
      · obtain ⟨t, hmem, hxid, hleft⟩ := hclosed x hx
        refine ⟨_, hrows.mem.mpr ⟨t, hmem, rfl⟩, ?_, ?_⟩ <;> split <;>
          simp_all [Transaction.succeed]
      · refine ⟨_, hrows.of_id ht hid, ?_, by simp [Transaction.succeed]⟩
        rw [hrow]
        exact hid

/-- Closing a row leaves absorbed books absorbed. -/
theorem RowUpdated.absorbed {id : String} {f g : Transaction → Transaction}
    (h : RowUpdated s s' id f) (hf : ∀ t, (f t).timeless = g t.timeless)
    (hid : ∀ t, (g t).id = t.id) (href : ∀ t, (g t).providerReference = t.providerReference)
    (hst : ∀ t, (g t).status ≠ .PENDING) (habs : s.books.Absorbed outcome) :
    s'.books.Absorbed outcome := by
  refine (habs.onRow hid (fun t _ _ _ => hst t) ?_
    fun t _ _ _ => hst t).congr (h.books_transactions hf)
  intro t _ _ hc
  simpa [carries, href] using hc

theorem LedgerStep.absorbed (h : LedgerStep o s s' e) (hno : e.1.setsReference = false)
    (habs : s.books.Absorbed outcome) : s'.books.Absorbed outcome := by
  cases h with
  | quiet _ ht hs =>
      rw [books_congr ht hs]
      exact habs
  | @create userId method _ cents _ _ ht _ =>
      apply habs.append (t := (Transaction.pending o userId method cents).timeless) rfl
      unfold Store.books
      simp [Table.insert?_eq_some ht]
  | refer _ _ _ _ _ => cases hno
  | fail _ _ _ hrows _ =>
      exact hrows.absorbed (g := .fail 0 _) (fun _ => rfl) (fun _ => rfl) (fun _ => rfl)
        (fun _ => nofun) habs
  | timeOut _ _ hrows _ =>
      exact hrows.absorbed (g := .timeOut 0) (fun _ => rfl) (fun _ => rfl) (fun _ => rfl)
        (fun _ => nofun) habs
  | activate _ _ _ hrows _ =>
      exact hrows.absorbed (g := .succeed 0) (fun _ => rfl) (fun _ => rfl) (fun _ => rfl)
        (fun _ => nofun) habs

end

/-! ## What one request leaves absorbed -/

section

variable {cfg : AppConfig} {s : Store} {outcome : WebhookOutcome} {seen : List String}

theorem absorbed_of_exec {o : Ambient} {c : Cmd} {r : Except Exception c.Resp} {s' : Store}
    (hex : exec o c s = (r, s')) (hno : c.setsReference = false)
    (habs : s.books.Absorbed outcome) : s'.books.Absorbed outcome := by
  have h := (exec_ledger o c s).absorbed hno habs
  rw [hex] at h
  exact h

/-- A value that is not `undefined` is stored whatever the row had. -/
theorem storedText_of_update {v : JsVal} {f : Option String → Option String}
    (htruthy : v.truthy = true) (hf : textUpdate v = some f) (x : Option String) :
    f x = storedText v := by
  unfold storedText
  rw [hf]
  unfold textUpdate at hf
  split at hf
  · cases htruthy
  · cases hf
    rfl
  · cases hf
    rfl
  · cases hf
    rfl
  · cases hf
    rfl
  · cases hf

/-- `setProviderReference` of a reference nobody has delivered, on a row that
is `PENDING`. -/
theorem setProviderReference_absorbed {o : Ambient} {id : String} {ref : JsVal}
    {r : Except Exception Transaction} {s' : Store} (htruthy : ref.truthy = true)
    (hfresh : ∀ text ∈ storedText ref, text ∉ seen)
    (hout : ∀ text ∈ outcome.providerReference.text?, text ∈ seen)
    (hpend : ∀ t ∈ s.transactions, t.id = id → t.status = .PENDING)
    (hex : exec o (.transaction (.setProviderReference id ref)) s = (r, s'))
    (habs : s.books.Absorbed outcome) : s'.books.Absorbed outcome := by
  have hstep := exec_ledger o (.transaction (.setProviderReference id ref)) s
  rw [hex] at hstep
  cases hstep with
  | quiet _ ht hs =>
      rw [books_congr ht hs]
      exact habs
  | @refer _ _ f _ href _ _ hrows hs =>
      have hbooks : s'.books = s.books.onRow id (.refer f) := hrows.books hs fun _ => rfl
      have hrow : ∀ t ∈ s.books.transactions, t.id = id → t.status = .PENDING := by
        intro t ht hid
        obtain ⟨t', ht', rfl⟩ := List.mem_map.mp ht
        exact hpend t' ht' hid
      rw [hbooks]
      refine habs.onRow (fun _ => rfl) ?_ ?_ ?_
      · intro t ht hid hc
        -- the row would carry a reference that has been delivered
        simp only [carries, Transaction.refer, storedText_of_update htruthy href,
          Bool.and_eq_true, beq_iff_eq] at hc
        obtain ⟨text, htext⟩ := Option.isSome_iff_exists.mp hc.1
        exact absurd (hout text (by rw [← hc.2, htext]; rfl)) (hfresh text htext)
      · intro t ht hid hc
        exact absurd (hrow t ht hid) (habs.carrying t ht hc)
      · intro t ht hid hleft
        exact absurd (hrow t ht hid) hleft

/-- Between an initiation's `createPending` and its `setProviderReference`. -/
structure Initiating (outcome : WebhookOutcome) (id : String) (s : Store) : Prop where
  absorbed : s.books.Absorbed outcome
  pending : ∀ t ∈ s.transactions, t.id = id → t.status = .PENDING

/-- `createPending` inserts the row it answers as `PENDING`. -/
theorem createPending_safe (G : Ambient → Prog.Entry Sig → Prop) (userId : String)
    (method : PaymentMethod) (habs : s.books.Absorbed outcome) :
    Prog.Safe exec G (fun s' => s'.books.Absorbed outcome)
      (fun r s' => s'.books.Absorbed outcome ∧ ∀ a, r = .ok a → Initiating outcome a.id s')
      (TransactionsService.createPending cfg userId method) s := by
  refine .perform_bind habs ?_ ?_
  · intro o existing s₁ _ hex
    have habs₁ := absorbed_of_exec hex rfl habs
    refine .ite (fun _ => ⟨habs₁, habs₁, fun _ h => nomatch h⟩) fun _ => ?_
    refine Prog.Safe.perform (S := Sig)
      (c := .transaction (.create userId method cfg.subscription.priceAmount)) habs₁ ?_
    intro o r s₂ _ hcreate
    have habs₂ := absorbed_of_exec hcreate rfl habs₁
    refine ⟨habs₂, habs₂, fun a ha => ⟨habs₂, ?_⟩⟩
    intro t ht hid
    have hstep := exec_ledger o (.transaction (.create userId method cfg.subscription.priceAmount)) s₁
    rw [hcreate, ha] at hstep
    cases hstep with
    | quiet hquiet _ _ => cases hquiet
    | create _ _ hins _ =>
        rw [transactions_eq_of_id ht ((Table.mem_insert? hins).mpr (.inr rfl)) hid]
        rfl
  · intro o e s₁ _ hex
    have habs₁ := absorbed_of_exec hex rfl habs
    exact ⟨habs₁, habs₁, fun _ h => nomatch h⟩

/-- A provider call leaves the payment tables alone. -/
theorem Initiating.service {o : Ambient} {c : ServiceCall} {r : Except Exception c.Resp}
    {s' : Store} {id : String} (h : Initiating outcome id s)
    (hex : exec o (.service c) s = (r, s')) : Initiating outcome id s' := by
  have hstep := exec_ledger o (.service c) s
  rw [hex] at hstep
  cases hstep with
  | quiet _ ht hs =>
      refine ⟨?_, ?_⟩
      · rw [books_congr ht hs]
        exact h.absorbed
      · rw [ht]
        exact h.pending

theorem getAccessToken_safe (G : Ambient → Prog.Entry Sig → Prop) {id : String}
    (h : Initiating outcome id s) :
    Prog.Safe exec G (Initiating outcome id) (fun _ => Initiating outcome id)
      MpesaProvider.getAccessToken s := by
  refine .perform_bind h ?_
    fun o e s' _ hex => ⟨h.service hex, h.service hex⟩
  intro o response s' _ hex
  have h' := h.service hex
  refine .ite (fun _ => ⟨h', h'⟩) fun _ => ?_
  exact .ofExcept_bind h' (fun _ _ => ⟨h', h'⟩) fun _ _ => h'

/-- The reference a push answers is one nobody has delivered. -/
theorem mpesaProvider_safe (input : InitiatePaymentInput) {id : String}
    (h : Initiating outcome id s) :
    Prog.Safe exec (fun _ => Timely seen) (Initiating outcome id)
      (fun r s' => Initiating outcome id s' ∧
        ∀ result, r = .ok result → ∀ text ∈ storedText result.providerReference, text ∉ seen)
      (MpesaProvider.initiate cfg input) s := by
  have throws : ∀ {s' : Store} {e : Exception}, Initiating outcome id s' →
      Initiating outcome id s' ∧ ∀ result : InitiatePaymentOutput, .error e = Except.ok result →
        ∀ text ∈ storedText result.providerReference, text ∉ seen := fun h => ⟨h, nofun⟩
  refine .ite (fun _ => ⟨h, throws h⟩) fun _ => ?_
  refine .bind (getAccessToken_safe _ h) ?_ fun _ _ h₁ => throws h₁
  intro _ s₁ h₁
  refine .perform_bind h₁ ?_
    fun o e s₂ _ hex => ⟨h₁.service hex, throws (h₁.service hex)⟩
  intro o (response : HttpReply) s₂ hG hex
  have h₂ := h₁.service hex
  refine .ite (fun _ => ⟨h₂, throws h₂⟩) fun _ => ?_
  refine .ofExcept_bind h₂ ?_ fun _ _ => throws h₂
  intro body hjson
  refine .ofExcept_bind h₂ (fun checkoutRequestId hprop => ⟨h₂, h₂, ?_⟩)
    fun _ _ => throws h₂
  intro result hresult
  cases hresult
  intro text htext
  apply hG.2 text
  cases hbody : response.body with
  | none => simp [HttpReply.json, hbody] at hjson
  | some v =>
      simp only [HttpReply.json, hbody, Except.ok.injEq] at hjson
      subst hjson
      cases hmember : JsVal.member (some v) "CheckoutRequestID" with
      | none => simp [prop, hmember] at hprop
      | some x =>
          simp only [prop, hmember, Except.ok.injEq] at hprop
          subst hprop
          simpa [broughtReference, hbody, hmember] using htext

theorem initiateMpesa_safe (userId userEmail phoneNumber : String)
    (hout : ∀ text ∈ outcome.providerReference.text?, text ∈ seen)
    (habs : s.books.Absorbed outcome) :
    Prog.Safe exec (fun _ => Timely seen) (fun s' => s'.books.Absorbed outcome)
      (fun _ s' => s'.books.Absorbed outcome)
      (PaymentsService.initiateMpesa cfg userId userEmail phoneNumber) s := by
  have finish : ∀ {α : Type} (r : Except Exception α) (s' : Store), s'.books.Absorbed outcome →
      Prog.Safe exec (fun _ => Timely seen) (fun s' => s'.books.Absorbed outcome)
        (fun _ s' => s'.books.Absorbed outcome) (.done r : App α) s' := fun _ _ h => ⟨h, h⟩
  refine .bind (createPending_safe _ userId .MPESA habs) ?_
    fun _ _ hq => hq.1
  intro transaction s₁ hq
  refine .bind (Q := fun _ s' => s'.books.Absorbed outcome) ?_ (fun _ s' => finish _ s')
    fun _ _ hq => hq
  refine .catchErr (Q := fun _ s' => s'.books.Absorbed outcome) ?_ (fun _ _ hq => hq) ?_
  · refine .bind ((mpesaProvider_safe _ (hq.2 transaction rfl)).mono (fun _ h => h.absorbed)
      fun _ _ hq₂ => hq₂) ?_ fun e s₂ hq₂ => hq₂.1.absorbed
    intro result s₂ hq₂
    obtain ⟨⟨habs₂, hpend⟩, hfresh⟩ := hq₂
    refine .ite ?_ fun _ => finish _ s₂ habs₂
    intro htruthy
    refine .perform_bind habs₂ (fun o a s₃ _ hset => finish _ s₃ ?_) ?_
    · exact setProviderReference_absorbed htruthy (hfresh result rfl) hout hpend hset habs₂
    · intro o e s₃ _ hset
      have habs₃ := setProviderReference_absorbed htruthy (hfresh result rfl) hout hpend hset habs₂
      exact ⟨habs₃, habs₃⟩
  · intro err s₂ habs₂
    have hcalls : (TransactionsService.markFailed transaction.id
        (some (.str "Failed to initiate M-Pesa push"))).Calls (fun c => Cmd.setsReference c = false) :=
      .perform_bind rfl fun _ => ⟨rfl, fun _ => trivial⟩
    refine .bind (.invariant hcalls (fun o c s hno _ h => (exec_ledger o c s).absorbed hno h) habs₂)
      (fun _ s' => finish _ s') fun _ _ hq => hq

/-- Only a delivery and an M-Pesa initiation store references. -/
theorem handle_keepsReferences {q : Request} (hdel : q.isDelivery = false)
    (hpush : ∀ user phoneNumber, q ≠ .initiateMpesa user phoneNumber) :
    (handle cfg q).Calls (fun c => Cmd.setsReference c = false) := by
  cases q with
  | mpesaCallback req token => cases hdel
  | bankGatewayWebhook req => cases hdel
  | initiateMpesa user phoneNumber => exact absurd rfl (hpush user phoneNumber)
  | _ =>
      refine (handle_calls cfg _).mono ?_
      intro c hc
      cases c with
      | transaction c => cases c <;> first | rfl | cases hc
      | _ => rfl

theorem handle_paidClosed (q : Request) (os : Nat → Ambient) (h : PaidClosed s) :
    PaidClosed ((handle cfg q).runStore exec os s) :=
  Prog.run_keeps (fun o c s _ hs => (exec_ledger o c s).paidClosed hs) (handle_calls cfg q) os h

/-- **A request leaves absorbed books absorbed.** -/
theorem handle_absorbed {q : Request} {os : Nat → Ambient} (hclosed : PaidClosed s)
    (htimely : Prog.Along exec (fun _ => Timely seen) (handle cfg q) os s)
    (hout : ∀ text ∈ outcome.providerReference.text?, text ∈ seen)
    (habs : s.books.Absorbed outcome) :
    ((handle cfg q).runStore exec os s).books.Absorbed outcome := by
  by_cases hq : q.isDelivery = true
  · cases hdel : delivered cfg q with
    | none =>
        obtain ⟨r, hdone⟩ := handle_undelivered hq hdel
        rw [hdone]
        exact habs
    | some other =>
        obtain ⟨-, fresh, -, hbooks⟩ := (handle_safe (serves_timely seen) ⟨"", trivial⟩ hdel s).run
          htimely
        rw [hbooks]
        exact habs.deliver (Books.keyed_books s) hclosed.unpaid other
  · by_cases hpush : ∃ user phoneNumber, q = .initiateMpesa user phoneNumber
    · obtain ⟨user, phoneNumber, rfl⟩ := hpush
      cases user with
      | none => exact habs
      | some user =>
          have hhandle : handle cfg (.initiateMpesa (some user) phoneNumber) =
              PaymentsService.initiateMpesa cfg user.sub user.email phoneNumber >>= fun id =>
                pure (.initiated id none) := rfl
          rw [hhandle] at htimely ⊢
          have hwhole : Prog.Safe exec (fun _ => Timely seen) (fun s' => s'.books.Absorbed outcome)
              (fun _ s' => s'.books.Absorbed outcome)
              (PaymentsService.initiateMpesa cfg user.sub user.email phoneNumber >>= fun id =>
                (pure (.initiated id none) : App Reply)) s :=
            .bind (Q := fun _ s' => s'.books.Absorbed outcome)
              (initiateMpesa_safe _ _ _ hout habs) (fun _ _ h => ⟨h, h⟩) fun _ _ h => h
          exact hwhole.run htimely
    · push Not at hpush
      exact Prog.run_keeps (fun o c s hno hs => (exec_ledger o c s).absorbed hno hs)
        (handle_keepsReferences (by simpa using hq) hpush) os habs

end

/-! ## Copies -/

section

variable {cfg : AppConfig} {s : Store} {outcome : WebhookOutcome} {seen : List String}
  {ops : List Op}

/-- **A copy of an absorbed delivery changes nothing**, whatever the
environment does to it. -/
theorem copy_absorbed {q : Request} (hdel : delivered cfg q = some outcome)
    (habs : s.books.Absorbed outcome) (os : Nat → Ambient) :
    (handle cfg q).runStore exec os s = s := by
  have hsafe : Prog.Safe exec (fun _ _ => True) (fun s' => s' = s) (fun _ s' => s' = s)
      (handle cfg q) s := by
    rw [handle_delivered hdel]
    refine .bind (Q := fun _ s' => s' = s) ?_ (fun _ s' hs' => ⟨hs', hs'⟩) fun _ _ hs' => hs'
    refine .bind (findForWebhook_safe _ outcome s) ?_ fun _ _ hq => hq.1
    intro found s' hq
    obtain ⟨rfl, -, hlookup, -⟩ := hq
    cases found with
    | none => exact ⟨rfl, rfl⟩
    | some t =>
        have hleft : t.status ≠ .PENDING :=
          habs.lookup (t := t.timeless) (Books.keyed_books s') hlookup
        refine .ite (fun _ => ⟨rfl, rfl⟩) ?_
        intro hst
        exact absurd (by simpa using hst) hleft
  exact hsafe.run (Prog.along_true _ _ _)

/-- A delivery that was resolved to a Transaction is absorbed. -/
theorem resolved_absorbed {op : Op} {t : Transaction} (hclosed : PaidClosed s)
    (hdel : delivered cfg op.request = some outcome)
    (hresolved : ((TransactionsService.findForWebhook outcome.providerReference outcome.txRef).run
      exec op.env s).1 = .ok (some t))
    (htimely : Prog.Along exec (fun _ => Timely seen) (handle cfg op.request) op.env s) :
    (op.run cfg s).books.Absorbed outcome := by
  have hfound := (findForWebhook_safe (fun _ _ => True) outcome s).run
    (Prog.along_true _ op.env _)
  rw [hresolved] at hfound
  obtain ⟨-, htext, hlookup, -⟩ := hfound
  obtain ⟨-, fresh, -, hbooks⟩ :=
    (handle_safe (serves_timely seen) ⟨"", trivial⟩ hdel s).run htimely
  have hkeyed := Books.keyed_books (op.run cfg s)
  unfold Op.run at hkeyed ⊢
  rw [hbooks] at hkeyed ⊢
  exact Books.deliver_absorbed (Books.keyed_books s) hkeyed hclosed.unpaid hlookup htext

theorem handleAll_paidClosed (hclosed : PaidClosed s) : PaidClosed (handleAll cfg ops s) := by
  induction ops generalizing s with
  | nil => exact hclosed
  | cons op rest ih => exact ih (handle_paidClosed op.request op.env hclosed)

/-- The rest of an orderly sequence. -/
theorem Orderly.rest {pre post : List Op} (h : Orderly cfg seen (pre ++ post) s) :
    ∃ seen', Orderly cfg seen' post (handleAll cfg pre s) := by
  induction pre generalizing seen s with
  | nil => exact ⟨seen, h⟩
  | cons op rest ih => exact ih h.2

/-- **A sequence leaves absorbed books absorbed.** -/
theorem handleAll_absorbed (hclosed : PaidClosed s) (horderly : Orderly cfg seen ops s)
    (hout : ∀ text ∈ outcome.providerReference.text?, text ∈ seen)
    (habs : s.books.Absorbed outcome) : (handleAll cfg ops s).books.Absorbed outcome := by
  induction ops generalizing seen s with
  | nil => exact habs
  | cons op rest ih =>
      exact ih (handle_paidClosed op.request op.env hclosed) horderly.2
        (fun text htext => List.mem_append_right _ (hout text htext))
        (handle_absorbed hclosed horderly.1 hout habs)

end

/-- Every state of the running backend is such a start. -/
theorem paidClosed_run {cfg : AppConfig} {s : Store} {sys : AppState}
    (hs : s.subscriptions = .empty) (hr : (app cfg).Run anyAction (Machine.start s) sys) :
    PaidClosed sys.store := by
  refine ledger_run (C := fun _ _ => True) (fun _ _ _ _ h _ hclosed => h.paidClosed hclosed) ?_
    (hr.mono ?_)
  · intro x hx
    rw [show (Machine.start s).store.subscriptions = .empty from hs] at hx
    exact absurd hx (Table.not_mem_empty x)
  · intro _ act _
    cases act with
    | begin q => trivial
    | step tid o => exact fun _ _ => trivial

/-- **A copy after its original**, handled one at a time. -/
theorem copy_changes_nothing {cfg : AppConfig} {s : Store} {seen : List String}
    (hclosed : PaidClosed s) {pre mid : List Op} {op : Op} {outcome : WebhookOutcome}
    {t : Transaction} (horderly : Orderly cfg seen (pre ++ op :: mid) s)
    (hdel : delivered cfg op.request = some outcome)
    (hresolved : ((TransactionsService.findForWebhook outcome.providerReference outcome.txRef).run
      exec op.env (handleAll cfg pre s)).1 = .ok (some t)) (copy : Nat → Ambient) :
    (handle cfg op.request).runStore exec copy (handleAll cfg (pre ++ op :: mid) s) =
      handleAll cfg (pre ++ op :: mid) s := by
  obtain ⟨seen', horder⟩ := horderly.rest
  have hclosed' : PaidClosed (handleAll cfg pre s) := handleAll_paidClosed hclosed
  have habs := resolved_absorbed hclosed' hdel hresolved horder.1
  have hout : ∀ text ∈ outcome.providerReference.text?,
      text ∈ deliveredReference cfg op.request ++ seen' := by
    intro text htext
    apply List.mem_append_left _
    simpa [deliveredReference, hdel] using htext
  have hmid := handleAll_absorbed (handle_paidClosed op.request op.env hclosed') horder.2 hout habs
  refine copy_absorbed hdel ?_ copy
  rw [handleAll_append]
  exact hmid

/-- **A crash and a redelivery, beside a handling without a crash**: each is
one delivery on the books, with an id the environment generated. -/
theorem crash_deliver {cfg : AppConfig} {s : Store} {q : Request} {outcome : WebhookOutcome}
    (hdel : delivered cfg q = some outcome) {n : Nat} {os os' os'' : Nat → Ambient}
    (hcrash : Prog.AlongFor exec (fun _ => Accepts) n (handle cfg q) os s)
    (hagain : Prog.Along exec (fun _ => Accepts) (handle cfg q) os'
      ((handle cfg q).crash exec n os s))
    (hwhole : Prog.Along exec (fun _ => Accepts) (handle cfg q) os'' s) {F : String → Prop}
    (hne : ∃ fresh, F fresh) (hos : ∀ n, F (os n).fresh) (hos' : ∀ n, F (os' n).fresh)
    (hos'' : ∀ n, F (os'' n).fresh) :
    (∃ fresh, F fresh ∧ ((handle cfg q).runStore exec os'
        ((handle cfg q).crash exec n os s)).books = s.books.deliver outcome fresh) ∧
      ∃ fresh, F fresh ∧
        ((handle cfg q).runStore exec os'' s).books = s.books.deliver outcome fresh := by
  have hserves := serves_accepts F
  constructor
  · exact redelivered_books hserves hne hdel (hcrash.and hos) (hagain.and hos')
  · exact ((handle_safe hserves hne hdel s).run (hwhole.and hos'')).2

/-! ## The guarantee -/

/-- The ids an environment generates are all `fresh`. -/
def Generates (fresh : String) (os : Nat → Ambient) : Prop := ∀ n, (os n).fresh = fresh

/-- **At-least-once delivery has exactly-once effect.** (a) Handled one at a
time, a copy of a delivery that was resolved to a Transaction leaves what
follows as it is, wherever it arrives. (b) A handler that crashes after any
number of statements and the redelivery that follows leave the books of one
uninterrupted handling, up to the ids the environment generates, and with
the same ids exactly. -/
theorem exactly_once_effect {cfg : AppConfig} :
    (∀ (s : Store) (sys : AppState), s.subscriptions = .empty →
      (app cfg).Run anyAction (Machine.start s) sys →
      ∀ (pre mid post : List Op) (op : Op) (copy : Nat → Ambient) (outcome : WebhookOutcome)
        (t : Transaction),
      Orderly cfg [] (pre ++ op :: mid) sys.store → delivered cfg op.request = some outcome →
      ((TransactionsService.findForWebhook outcome.providerReference outcome.txRef).run exec op.env
        (handleAll cfg pre sys.store)).1 = .ok (some t) →
      handleAll cfg (pre ++ op :: mid ++ ⟨op.request, copy⟩ :: post) sys.store =
        handleAll cfg (pre ++ op :: mid ++ post) sys.store) ∧
    ∀ (s : Store) (q : Request) (n : Nat) (os os' os'' : Nat → Ambient), q.isDelivery = true →
      Prog.AlongFor exec (fun _ => Accepts) n (handle cfg q) os s →
      Prog.Along exec (fun _ => Accepts) (handle cfg q) os' ((handle cfg q).crash exec n os s) →
      Prog.Along exec (fun _ => Accepts) (handle cfg q) os'' s →
      let redelivered := (handle cfg q).runStore exec os' ((handle cfg q).crash exec n os s)
      let uninterrupted := (handle cfg q).runStore exec os'' s
      redelivered.books.unnamed = uninterrupted.books.unnamed ∧
        ∀ fresh, Generates fresh os → Generates fresh os' → Generates fresh os'' →
          redelivered.books = uninterrupted.books := by
  constructor
  · intro s sys hs hr pre mid post op copy outcome t horderly hdel hresolved
    have hcopy := copy_changes_nothing (paidClosed_run hs hr) horderly hdel hresolved copy
    rw [handleAll_append (pre ++ op :: mid), handleAll_append (pre ++ op :: mid) post]
    exact congrArg (handleAll cfg post) hcopy
  · intro s q n os os' os'' hq hcrash hagain hwhole
    cases hdel : delivered cfg q with
    | none =>
        obtain ⟨r, hdone⟩ := handle_undelivered hq hdel
        rw [hdone]
        cases n <;> exact ⟨rfl, fun _ _ _ _ => rfl⟩
    | some outcome =>
        constructor
        · obtain ⟨⟨fresh, -, hredelivered⟩, fresh', -, huninterrupted⟩ :=
            crash_deliver (F := fun _ => True) hdel hcrash hagain hwhole ⟨"", trivial⟩
              (fun _ => trivial) (fun _ => trivial) fun _ => trivial
          rw [hredelivered, huninterrupted]
          exact Books.deliver_unnamed s.books outcome fresh fresh'
        · intro fresh hos hos' hos''
          obtain ⟨⟨_, rfl, hredelivered⟩, _, rfl, huninterrupted⟩ :=
            crash_deliver (F := (· = fresh)) hdel hcrash hagain hwhole ⟨fresh, rfl⟩ hos hos' hos''
          exact hredelivered.trans huninterrupted.symm

/-- Every handler meets instant 5000 and generates `sub-1`. -/
def sampleEnvironment : Nat → Ambient := fun _ => (Ambient.quiet 5000).generating "sub-1"

/-- The outcome `ws-1`'s success carries. -/
def sampleOutcome : WebhookOutcome where
  providerReference := some (.str "ws-1")
  status := .SUCCEEDED
  failureReason := none
  txRef := none

/-- `ws-1`'s success once, then again after a tick of the sweep; and a handler
of it that crashes before it commits. -/
theorem exactly_once_effect_sample :
    ∃ s : Store, handleAll sampleConfig
        [⟨sampleCallback "0" "ws-1", sampleEnvironment⟩, ⟨.sweepTick, sampleEnvironment⟩,
          ⟨sampleCallback "0" "ws-1", sampleEnvironment⟩] s =
      handleAll sampleConfig
        [⟨sampleCallback "0" "ws-1", sampleEnvironment⟩, ⟨.sweepTick, sampleEnvironment⟩] s ∧
      ((handle sampleConfig (sampleCallback "0" "ws-1")).runStore exec sampleEnvironment
        ((handle sampleConfig (sampleCallback "0" "ws-1")).crash exec 4 sampleEnvironment s)).books =
      ((handle sampleConfig (sampleCallback "0" "ws-1")).runStore exec sampleEnvironment s).books := by
  obtain ⟨sys, hr, hsys⟩ := Machine.exists_run_of_replay (m := app sampleConfig)
    (a := Machine.start .empty) anyAction (sampleRegistration ++ samplePush ++ [.step 1 (.quiet 1004)])
    (fun b => decide (Orderly sampleConfig [] ([] ++ ⟨sampleCallback "0" "ws-1", sampleEnvironment⟩ ::
        [⟨.sweepTick, sampleEnvironment⟩]) b.store) &&
      decide (Prog.Along exec (fun _ => Accepts) (handle sampleConfig (sampleCallback "0" "ws-1"))
        sampleEnvironment
        ((handle sampleConfig (sampleCallback "0" "ws-1")).crash exec 4 sampleEnvironment b.store)) &&
      (((TransactionsService.findForWebhook sampleOutcome.providerReference
        sampleOutcome.txRef).run exec sampleEnvironment b.store).1.toOption.bind id).isSome)
    (by decide +kernel)
  simp only [Bool.and_eq_true, decide_eq_true_eq] at hsys
  obtain ⟨⟨horderly, hagain⟩, hfound⟩ := hsys
  have hwhole : Prog.Along exec (fun _ => Accepts)
      (handle sampleConfig (sampleCallback "0" "ws-1")) sampleEnvironment sys.store :=
    horderly.1.mono fun _ _ h => h.1
  obtain ⟨t, ht⟩ := Option.isSome_iff_exists.mp hfound
  have hresolved : ((TransactionsService.findForWebhook sampleOutcome.providerReference
      sampleOutcome.txRef).run exec sampleEnvironment sys.store).1 = .ok (some t) := by
    cases hrun : ((TransactionsService.findForWebhook sampleOutcome.providerReference
      sampleOutcome.txRef).run exec sampleEnvironment sys.store).1 with
    | error e => simp [hrun, Except.toOption] at ht
    | ok found =>
        rw [hrun] at ht
        exact congrArg Except.ok ht
  have hcopy := exactly_once_effect.1 .empty sys rfl hr [] [⟨.sweepTick, sampleEnvironment⟩] []
    ⟨sampleCallback "0" "ws-1", sampleEnvironment⟩ sampleEnvironment sampleOutcome t horderly rfl
    hresolved
  have hcrash := exactly_once_effect.2 sys.store (sampleCallback "0" "ws-1") 4 sampleEnvironment
    sampleEnvironment sampleEnvironment rfl (hwhole.first 4) hagain hwhole
  exact ⟨sys.store, hcopy, hcrash.2 "sub-1" (fun _ => rfl) (fun _ => rfl) fun _ => rfl⟩

end StreamingService

import StreamingService.Account
import StreamingService.Lib.Polling
import StreamingService.Payments.Status

/-!
# Frontend — Polling

The two pages that poll: the subscribe page for a Transaction's status, the
admin upload page for a media asset's. Both start a request every three
seconds, whatever became of the earlier ones, and show the status of each
response as it comes in; the first final status stops the timer. A response
that the server gave earlier and that arrives later therefore puts a page
back to `PENDING`, and with the timer stopped it stays there.

Left out: leaving the page, which stops the timer and ends what is shown, and
a second upload in the same row, whose asset is `PENDING` anew.
-/

namespace StreamingService

open Lib

/-! ## The subscribe page -/

/-- Whom a request is for, and what the environment supplies to its handler. -/
abbrev Polled : Type := Option JwtAccessPayload × (Nat → Ambient)

/-- The state of `usePolling`. -/
structure UsePolling where
  status : Option TransactionStatus
  /-- Whether the interval of `intervalRef` is set. -/
  interval : Bool
  deriving DecidableEq, Repr

namespace UsePolling

/-- The effect for a Transaction, up to its first tick. -/
def effect : UsePolling where
  status := some .PENDING
  interval := true

/-- What `GET /payments/:id/status` resolves to; none where it rejects. -/
def get (cfg : AppConfig) (transactionId : String) (env : Polled) (s : Store) :
    Option TransactionStatus :=
  match ((handle cfg (.paymentStatus env.1 transactionId)).run exec env.2 s).1 with
  | .ok (.payment _ status _) => some status
  | _ => none

/-- The interval's callback, once it has a response. -/
def onResponse (status : TransactionStatus) (page : UsePolling) : UsePolling :=
  { status := some status
    interval := if status != .PENDING then false else page.interval }

/-- A transient error: keep polling. -/
def onError (page : UsePolling) : UsePolling := page

end UsePolling

/-- `usePolling` for a Transaction. -/
def usePolling (cfg : AppConfig) (transactionId : String) :
    Poller Polled Store TransactionStatus UsePolling where
  answer := UsePolling.get cfg transactionId
  receive := UsePolling.onResponse
  reject := UsePolling.onError
  polling := UsePolling.interval

/-! ## The upload page -/

/-- The state of an `UploadRow` that polls. -/
structure UploadRow where
  status : Option ProcessingStatus
  failureReason : Option String
  interval : Bool
  deriving DecidableEq, Repr

namespace UploadRow

/-- The end of `upload`, up to the first tick. -/
def start (failureReason : Option String) : UploadRow where
  status := some .PENDING
  failureReason := failureReason
  interval := true

/-- What `GET /admin/media-assets/:id` resolves to; none where it rejects. -/
def get (cfg : AppConfig) (assetId : String) (env : Polled) (s : Store) :
    Option (ProcessingStatus × Option String) :=
  match ((handle cfg (.mediaAssetStatus env.1 assetId)).run exec env.2 s).1 with
  | .ok (.assetStatus _ status failureReason) => some (status, failureReason)
  | _ => none

/-- The interval's callback, once it has a response. -/
def onResponse (res : ProcessingStatus × Option String) (page : UploadRow) : UploadRow :=
  if res.1 != .PENDING then
    { status := some res.1
      failureReason := (res.2.filter fun reason => reason != "").orElse fun _ => page.failureReason
      interval := false }
  else { page with status := some res.1 }

/-- The rejection is not caught; it ends the callback. -/
def onError (page : UploadRow) : UploadRow := page

/-- `UploadRow.poll` for a media asset. -/
def poll (cfg : AppConfig) (assetId : String) :
    Poller Polled Store (ProcessingStatus × Option String) UploadRow where
  answer := get cfg assetId
  receive := onResponse
  reject := onError
  polling := interval

end UploadRow

/-! ## What the backend answers -/

variable {cfg : AppConfig} {id : String} {s s' : Store}

/-- The stored status of a Transaction. -/
def Store.transactionStatus (s : Store) (id : String) : Option TransactionStatus :=
  (s.transactions.find? fun t => t.id == id).map Transaction.status

/-- The stored status of a media asset. -/
def Store.processingStatus (s : Store) (id : String) : Option ProcessingStatus :=
  (s.mediaAssets.find? fun a => a.id == id).map MediaAsset.processingStatus

/-- Whatever the environment does, the program changes nothing, and `Q` holds
of what it answers. -/
abbrev Tells {α : Type} (Q : α → Prop) (p : App α) (s : Store) : Prop :=
  Prog.Reads exec (fun _ => True) (fun r => ∀ a, r = .ok a → Q a) p s

namespace Tells

variable {α β : Type} {Q : α → Prop} {Q₂ : β → Prop} {p : App α} {f : α → App β}

theorem ok {a : α} (h : Q a) : Tells Q (.done (.ok a)) s := by
  intro b hb
  cases hb
  exact h

theorem error (e : Exception) : Tells Q (.done (.error e)) s := by
  intro a ha
  cases ha

theorem bind (hp : Tells Q p s) (hf : ∀ a, Q a → Tells Q₂ (f a) s) : Tells Q₂ (p >>= f) s :=
  Prog.Reads.bind hp (fun a ha => hf a (ha a rfl)) fun _ _ _ hb => nomatch hb

/-- A read: it answers, or fails. -/
theorem read {c : Cmd} {f : c.Resp → App β} {v : c.Resp}
    (hv : ∀ o, answer o c s = (.ok v, s)) (hf : Tells Q₂ (f v) s) :
    Tells Q₂ (Prog.perform (S := Sig) c >>= f) s := by
  refine .perform_bind_or (fun o _ => ?_) hf fun _ _ hb => nomatch hb
  exact exec_cases (P := fun r => r = (.ok v, s) ∨ ∃ e, r = (.error e, s))
    (fun e => .inr ⟨e, rfl⟩) (.inl (hv o))

end Tells

/-- The statuses of a Transaction the answer to a poll may carry. -/
theorem paymentStatus_tells (user : Option JwtAccessPayload) :
    Tells (fun reply => ∀ tid status at', reply = .payment tid status at' →
      s.transactionStatus id = some status) (handle cfg (.paymentStatus user id)) s := by
  cases user with
  | none => exact .error _
  | some user =>
      show Tells _ (PaymentsService.getStatus id >>= _) s
      refine .bind (Q := fun x => s.transactionStatus id = some x.2.1) ?_ fun x hx => .ok ?_
      · show Tells _ (TransactionsService.getById id >>= _) s
        refine .bind (Q := fun t => (s.transactions.find? fun t => t.id == id) = some t) ?_
          fun t ht => .ok ?_
        · refine .read (fun _ => rfl) ?_
          cases hfind : s.transactions.find? fun t => t.id == id with
          | none => exact .error _
          | some row => exact .ok rfl
        · rw [Store.transactionStatus, ht]
          rfl
      · intro tid status at' hreply
        cases hreply
        exact hx

theorem adminGuard_tells (user : Option JwtAccessPayload) :
    Tells (fun _ => True) (adminGuard user) s := by
  cases user with
  | none => exact .error _
  | some user => exact Prog.Reads.ite (fun _ => Tells.error _) fun _ => Tells.ok trivial

/-- The statuses of a media asset the answer to a poll may carry. -/
theorem mediaAssetStatus_tells (user : Option JwtAccessPayload) :
    Tells (fun reply => ∀ aid status reason, reply = .assetStatus aid status reason →
      s.processingStatus id = some status) (handle cfg (.mediaAssetStatus user id)) s := by
  refine .bind (adminGuard_tells user) fun _ _ => ?_
  refine .bind (Q := fun x => s.processingStatus id = some x.2.1) ?_ fun x hx => .ok ?_
  · refine .read (fun _ => rfl) ?_
    rw [Store.processingStatus]
    cases hfind : s.mediaAssets.find? fun a => a.id == id with
    | none => exact .error _
    | some row => exact .ok rfl
  · intro aid status reason hreply
    cases hreply
    exact hx

theorem usePolling_get {env : Polled} {status : TransactionStatus}
    (h : UsePolling.get cfg id env s = some status) : s.transactionStatus id = some status := by
  unfold UsePolling.get at h
  split at h
  · rename_i tid status' at' hrun
    cases h
    exact ((paymentStatus_tells env.1).run fun _ => trivial).1 _ hrun _ _ _ rfl
  · cases h

theorem uploadRow_get {env : Polled} {res : ProcessingStatus × Option String}
    (h : UploadRow.get cfg id env s = some res) : s.processingStatus id = some res.1 := by
  unfold UploadRow.get at h
  split at h
  · rename_i aid status reason hrun
    cases h
    exact ((mediaAssetStatus_tells env.1).run fun _ => trivial).1 _ hrun _ _ _ rfl
  · cases h

/-! ## The two displays -/

/-- What the subscribe page shows, beside the Transaction's status. -/
def UsePolling.display (cfg : AppConfig) (id : String) :
    Display (usePolling cfg id) TransactionStatus where
  pending := .PENDING
  status s := s.transactionStatus id
  reads status := status
  shown := UsePolling.status
  answer_status := usePolling_get
  shown_receive _ _ := rfl
  polling_receive status page := by
    cases status <;> simp [usePolling, UsePolling.onResponse]
  shown_reject _ := rfl
  polling_reject _ := rfl

/-- What an upload row shows, beside the asset's status. -/
def UploadRow.display (cfg : AppConfig) (id : String) :
    Display (UploadRow.poll cfg id) ProcessingStatus where
  pending := .PENDING
  status s := s.processingStatus id
  reads res := res.1
  shown := UploadRow.status
  answer_status := uploadRow_get
  shown_receive res page := by
    cases res with
    | mk status reason => cases status <;> rfl
  polling_receive res page := by
    cases res with
    | mk status reason => cases status <;> simp [UploadRow.poll, UploadRow.onResponse]
  shown_reject _ := rfl
  polling_reject _ := rfl

theorem FinalSince.settles (h : FinalSince s s') : (UsePolling.display cfg id).Settles s s' := by
  show s'.transactionStatus id = s.transactionStatus id ∨ s.transactionStatus id = none ∨
    s.transactionStatus id = some .PENDING
  cases hfind : s.transactions.find? fun t => t.id == id with
  | none => exact .inr (.inl (by rw [Store.transactionStatus, hfind]; rfl))
  | some t =>
      have hstatus : s.transactionStatus id = some t.status := by
        rw [Store.transactionStatus, hfind]
        rfl
      by_cases hpending : t.status = .PENDING
      · exact .inr (.inr (by rw [hstatus, hpending]))
      · obtain ⟨ht, htid⟩ := Table.mem_of_find? hfind
        obtain ⟨t', ht', hid, hst, -⟩ := h t ht hpending
        left
        rw [hstatus, Store.transactionStatus,
          transactions_find? ht' (hid.trans (beq_iff_eq.mp htid)), ← hst]
        rfl

/-- In a run of the backend whose status writes meet `PENDING` rows, the
status a poll asks for settles once. -/
theorem settles_of_run {a b : AppState} (hr : (app cfg).Run (stepsMeet SettlesPending) a b) :
    (UsePolling.display cfg id).Settles a.store b.store :=
  FinalSince.settles (ledger_run (I := fun s => FinalSince a.store s)
    (fun _ _ _ _ h hsettles hI => hI.trans (h.final hsettles)) (.refl _) hr)

/-! ## Polling never goes back -/

/-- The page, once it polls. In a run whose final answers arrive in order, a
final status stays shown, and the timer stops for the server's final status
only. After any final answer out of order a run puts the page back, for good. -/
structure NeverBack {ε υ α σ st : Type} {p : Poller ε υ α σ} (d : Display p st)
    (w : Poller.World υ α σ) : Prop where
  stays : ∀ b c x, p.steps.Run d.Orderly w b → d.Final b x → p.steps.Run d.Orderly b c →
    d.shown c.page = some x
  stopped : ∀ b, p.steps.Run d.Orderly w b → p.polling b.page = false →
    ∃ x, d.Final b x ∧ d.status b.server = some x
  back : ∀ b l c, p.steps.Run d.Moves w b → ¬d.InOrder b l → p.steps.next b l = some c →
    (∃ x, d.Final c x) ∧ ∃ e, p.steps.Run d.Moves c e ∧
      d.shown e.page = some d.pending ∧ p.polling e.page = false ∧ e.out = []

theorem neverBack_start {ε υ α σ st : Type} {p : Poller ε υ α σ} {d : Display p st} (v : υ)
    {page : σ} (hshown : d.shown page = some d.pending) (hpolling : p.polling page = true) :
    NeverBack d (.start v page) where
  stays b c x hb hx hc :=
    (((Display.sound_start v hshown hpolling).run hb).stays hc hx).1
  stopped b hb hstop := by
    have hsound := (Display.sound_start v hshown hpolling).run hb
    obtain ⟨x, hx⟩ := hsound.stopped hstop
    exact ⟨x, hx, (hsound.final x hx).1⟩
  back _ _ _ _ hlate hn := Display.back_of_outOfOrder hlate hn

/-- **Polling never goes back as long as no final answer overtakes a pending
one**, on both pages, from every state of the backend. -/
theorem polling_never_back (cfg : AppConfig) (id : String) (s : Store)
    (failureReason : Option String) :
    NeverBack (UsePolling.display cfg id) (.start s .effect) ∧
      NeverBack (UploadRow.display cfg id) (.start s (.start failureReason)) :=
  ⟨neverBack_start s rfl rfl, neverBack_start s rfl rfl⟩

/-- Transaction `tx-1` of `sampleUser`. -/
def polledStore (status : TransactionStatus) : Store :=
  { Store.empty with
    transactions := ⟨[⟨"tx-1", "user-1", .MPESA, 49900, status, some "ws-1", 1000, none, none⟩],
      rfl⟩ }

/-- Two requests are out, one answered `PENDING`, the other `SUCCEEDED`; the
second arrives first. -/
def sampleLatePoll : List (Poller.Label Polled Store) :=
  [.tick, .tick, .serve 0 (some sampleUser, fun _ => .quiet 0), .move (polledStore .SUCCEEDED),
    .serve 1 (some sampleUser, fun _ => .quiet 0), .arrive 1]

/-- The subscribe page shows `PENDING` after `SUCCEEDED`, and has stopped
polling. -/
theorem late_answer_goes_back :
    ∃ b c, (usePolling sampleConfig "tx-1").steps.Run
        (UsePolling.display sampleConfig "tx-1").Moves (.start (polledStore .PENDING) .effect) b ∧
      (usePolling sampleConfig "tx-1").steps.Run (UsePolling.display sampleConfig "tx-1").Moves b c ∧
      b.page.status = some .SUCCEEDED ∧ c.page = { status := some .PENDING, interval := false } ∧
      c.out = [] := by
  have hb := Steps.exists_run_of_replay (m := (usePolling sampleConfig "tx-1").steps)
    (UsePolling.display sampleConfig "tx-1").Moves (a := .start (polledStore .PENDING) .effect)
    sampleLatePoll
    (fun w => w.page.status == some .SUCCEEDED &&
      ((usePolling sampleConfig "tx-1").steps.replay
        (UsePolling.display sampleConfig "tx-1").Moves w [.arrive 0]).map
        (fun w => w.page == { status := some .PENDING, interval := false } && w.out.isEmpty) ==
        some true) (by decide +kernel)
  obtain ⟨b, hb, hshown⟩ := hb
  rw [Bool.and_eq_true, beq_iff_eq, beq_iff_eq] at hshown
  obtain ⟨c, hc, hback⟩ := Steps.exists_run_of_replay _ _ _ hshown.2
  rw [Bool.and_eq_true, beq_iff_eq, List.isEmpty_iff] at hback
  exact ⟨b, c, hb, hc, hshown.1, hback.1, hback.2⟩

end StreamingService

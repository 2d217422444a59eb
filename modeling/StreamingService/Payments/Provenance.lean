import StreamingService.Payments.Delivery

/-!
# Payments — Provenance

Where every Subscription comes from: the commit of a handler that resolved
a verified success to a Transaction of the same user. The link is an
invariant of the store and the trace, kept by every statement, joined with
the handlers' own histories.
-/

namespace StreamingService

open Lib

/-- The commit of an activation, as the trace records it. -/
def committed (x : Subscription) (resolvedAt : Millis) : Prog.Entry Sig :=
  ⟨.subscription (.commitActivation x.transactionId x.userId resolvedAt x.startAt
    (some x.expiresAt)), .ok x⟩

/-- An activation's transaction shows the row it was asked for. -/
def ShowsOwnRow : Prog.Entry Sig → Prop
  | ⟨.subscription (.readForActivation id), .ok (some (t, _))⟩ => t.id = id
  | _ => True

theorem Answers.showsOwnRow {s : Store} {e : Prog.Entry Sig} (h : Answers s e) :
    ShowsOwnRow e := by
  unfold ShowsOwnRow
  split
  · exact h.readForActivation.2.1
  · trivial

/-- Rows once shown are still there, and every Subscription was committed by
some handler. -/
structure Provenance (s : Store) (tr : Trace) : Prop where
  known : ∀ tid e t, Event.did tid e ∈ tr → shown e = some t →
    ∃ t' ∈ s.transactions, t.SameAs t'
  asked : ∀ tid (e : Prog.Entry Sig), Event.did tid e ∈ tr → ShowsOwnRow e
  bought : ∀ x ∈ s.subscriptions, ∃ tid resolvedAt, Event.did tid (committed x resolvedAt) ∈ tr

namespace Provenance

variable {s s' : Store} {tr : Trace}

theorem start (hs : s.subscriptions = .empty) : Provenance s [] where
  known := by intro tid e t h; cases h
  asked := by intro tid e h; cases h
  bought := by intro x hx; rw [hs] at hx; exact absurd hx (Table.not_mem_empty x)

theorem began (h : Provenance s tr) (tid : Nat) (q : Request) :
    Provenance s (.began tid q :: tr) where
  known := by
    intro t e row hmem
    rcases List.mem_cons.mp hmem with heq | hmem
    · cases heq
    · exact h.known t e row hmem
  asked := by
    intro t e hmem
    rcases List.mem_cons.mp hmem with heq | hmem
    · cases heq
    · exact h.asked t e hmem
  bought := by
    intro x hx
    obtain ⟨t, at', hmem⟩ := h.bought x hx
    exact ⟨t, at', List.mem_cons_of_mem _ hmem⟩

/-- One statement keeps the provenance. -/
theorem did {o : Ambient} {e : Prog.Entry Sig} (h : Provenance s tr)
    (hstep : LedgerStep o s s' e) (hans : Answers s' e) (tid : Nat) :
    Provenance s' (.did tid e :: tr) where
  known := by
    intro t e' row hmem hrow
    rcases List.mem_cons.mp hmem with heq | hmem
    · cases heq
      exact ⟨row, hans.shown_mem hrow, .refl row⟩
    · obtain ⟨row', hin, hsame⟩ := h.known t e' row hmem hrow
      obtain ⟨row'', hin', hsame'⟩ := hstep.row hin
      exact ⟨row'', hin', hsame.trans hsame'⟩
  asked := by
    intro t e' hmem
    rcases List.mem_cons.mp hmem with heq | hmem
    · cases heq
      exact hans.showsOwnRow
    · exact h.asked t e' hmem
  bought := by
    intro x hx
    rcases hstep.subscription_cases hx with hx | ⟨-, -, at', rfl⟩
    · obtain ⟨t, at', hmem⟩ := h.bought x hx
      exact ⟨t, at', List.mem_cons_of_mem _ hmem⟩
    · exact ⟨tid, at', List.mem_cons_self⟩

end Provenance

variable {cfg : AppConfig} {ok : AppState → Action Ambient Request → Prop} {a b : AppState}

/-- **Every run keeps the provenance.** -/
theorem provenance_run (ha : Provenance a.store a.trace) (hr : (app cfg).Run ok a b) :
    Provenance b.store b.trace :=
  Machine.Run.keeps (fun _ _ tid q h => h.began tid q)
    (fun sys tid o c h _ _ =>
      h.did (exec_ledger o c sys.store) (exec_answers o c sys.store) tid) ha hr

/-- Subscriptions survive every run unchanged. -/
theorem subscription_run (hr : (app cfg).Run ok a b) {x : Subscription}
    (hx : x ∈ a.store.subscriptions) : x ∈ b.store.subscriptions :=
  Machine.Run.keeps (I := fun s _ => x ∈ s.subscriptions) (fun _ _ _ _ h => h)
    (fun sys _ o c h _ _ => (exec_ledger o c sys.store).subscription h) hx hr

/-- Every handler in a run took its path. -/
theorem recorded_run {s : Store} (hr : (app cfg).Run ok (Machine.start s) b) :
    Machine.Recorded (HandlerStep cfg) (HandlerEnd cfg) b :=
  Machine.Run.emits (handle_emits cfg) hr

/-! ## The delivery behind a Subscription -/

/-- The thread `tid` handles a delivery that passed its provider's `verify`,
whose outcome is `SUCCEEDED` and which `findForWebhook` resolved to `t`. -/
def VerifiedSuccess (cfg : AppConfig) (tr : Trace) (tid : Nat) (t : Transaction) : Prop :=
  ∃ q outcome, Event.began tid q ∈ tr ∧ delivered cfg q = some outcome ∧
    outcome.status = .SUCCEEDED ∧ Resolves outcome (own tid tr) t

theorem VerifiedSuccess.mono {tr tr' : Trace} {tid : Nat} {t : Transaction}
    (hsub : ∀ ev ∈ tr, ev ∈ tr') (h : VerifiedSuccess cfg tr tid t) :
    VerifiedSuccess cfg tr' tid t := by
  obtain ⟨q, outcome, hbegan, hdel, hst, hres⟩ := h
  exact ⟨q, outcome, hsub _ hbegan, hdel, hst,
    hres.mono fun e he => mem_own.mpr (hsub _ (mem_own.mp he))⟩

/-- What a Subscription's commit owes to the trace before it. -/
structure CommitOrigin (cfg : AppConfig) (tr : Trace) (tid : Nat) (x : Subscription)
    (t : Transaction) : Prop where
  verified : VerifiedSuccess cfg tr tid t
  id : t.id = x.transactionId
  userId : t.userId = x.userId
  period : some x.expiresAt = validDate (cfg.subscription.periodMillis.map fun p => x.startAt + p)

/-- The handler that committed a Subscription took the path of an activation. -/
theorem commit_path {s : Store} (hr : (app cfg).Run ok (Machine.start s) b) {post pre : Trace}
    {tid : Nat} {x : Subscription} {resolvedAt : Millis}
    (htr : b.trace = post ++ .did tid (committed x resolvedAt) :: pre) :
    ∃ q outcome, Event.began tid q ∈ pre ∧ delivered cfg q = some outcome ∧
      ActivationPath cfg outcome (own tid pre) x.transactionId x.userId x.startAt
        (some x.expiresAt) := by
  have hpast := (recorded_run hr).past
  rw [htr] at hpast
  obtain ⟨q, hbegan, hstep⟩ := hpast.split
  obtain ⟨outcome, hdel, hpath⟩ := hstep.delivery (isDelivery_of_commit hstep.within)
  exact ⟨q, outcome, hbegan, hdel, hpath⟩

/-- **The delivery behind a commit**: the handler that committed a
Subscription had resolved a verified success to a Transaction of its user. -/
theorem commit_origin {s : Store} (hs : s.subscriptions = .empty)
    (hr : (app cfg).Run ok (Machine.start s) b) {post pre : Trace} {tid : Nat} {x : Subscription}
    {resolvedAt : Millis} (htr : b.trace = post ++ .did tid (committed x resolvedAt) :: pre) :
    ∃ t, CommitOrigin cfg pre tid x t := by
  have hprov : Provenance b.store b.trace := provenance_run (.start hs) hr
  have hsub : ∀ ev ∈ pre, ev ∈ b.trace := by
    intro ev hev
    rw [htr]
    exact List.mem_append_right _ (List.mem_cons_of_mem _ hev)
  obtain ⟨q, outcome, hbegan, hdel, hpath⟩ := commit_path hr htr
  obtain ⟨t, hres, hid, -⟩ := hpath.resolved
  obtain ⟨t', hread, huser⟩ := hpath.owner
  -- both rows shown to the handler are versions of the one stored row
  obtain ⟨e, he, hshown⟩ := hres.shown
  obtain ⟨row, hrow, hsame⟩ := hprov.known tid e t (hsub _ (mem_own.mp he)) hshown
  have hread := hsub _ (mem_own.mp hread)
  have hid' : t'.id = x.transactionId := hprov.asked _ _ hread
  obtain ⟨row', hrow', hsame'⟩ := hprov.known _ _ t' hread rfl
  have hrows : row = row' := transactions_eq_of_id hrow hrow' (by
    rw [hsame.id, hsame'.id, hid, hid'])
  refine ⟨t, ⟨q, outcome, hbegan, hdel, hpath.succeeded, hres⟩, hid, ?_, hpath.period⟩
  calc t.userId = row.userId := hsame.userId.symm
    _ = t'.userId := by rw [hrows, hsame'.userId]
    _ = x.userId := huser.symm

/-- The delivery behind a stored Subscription. -/
theorem subscription_origin {s : Store} (hs : s.subscriptions = .empty)
    (hr : (app cfg).Run ok (Machine.start s) b) {x : Subscription}
    (hx : x ∈ b.store.subscriptions) : ∃ tid t, CommitOrigin cfg b.trace tid x t := by
  obtain ⟨tid, at', hmem⟩ := (provenance_run (.start hs) hr).bought x hx
  obtain ⟨post, pre, htr⟩ := List.append_of_mem hmem
  obtain ⟨t, horig⟩ := commit_origin hs hr htr
  refine ⟨tid, t, horig.verified.mono ?_, horig.id, horig.userId, horig.period⟩
  intro ev hev
  rw [htr]
  exact List.mem_append_right _ (List.mem_cons_of_mem _ hev)

/-! ## When a Subscription was activated -/

/-- The thread `tid` committed `x`, and the clock reading just before was `a`. -/
def ActivatedAt (tr : Trace) (tid : Nat) (x : Subscription) (a : Millis) : Prop :=
  ∃ resolvedAt post pre, tr = post ++ .did tid (committed x resolvedAt) :: pre ∧
    lastReading (own tid pre) = some a

theorem ActivatedAt.commit {tr : Trace} {tid : Nat} {x : Subscription} {a : Millis}
    (h : ActivatedAt tr tid x a) :
    ∃ resolvedAt, Event.did tid (committed x resolvedAt) ∈ tr := by
  obtain ⟨resolvedAt, post, pre, rfl, -⟩ := h
  exact ⟨resolvedAt, List.mem_append_right _ List.mem_cons_self⟩

/-- A committed Subscription starts at the clock reading of its activation. -/
theorem commit_clock {s : Store} (hr : (app cfg).Run ok (Machine.start s) b) {post pre : Trace}
    {tid : Nat} {x : Subscription} {resolvedAt : Millis}
    (htr : b.trace = post ++ .did tid (committed x resolvedAt) :: pre) :
    lastReading (own tid pre) = some x.startAt := by
  obtain ⟨_, _, -, -, hpath⟩ := commit_path hr htr
  exact hpath.clock

theorem ActivatedAt.startAt {s : Store} (hr : (app cfg).Run ok (Machine.start s) b) {tid : Nat}
    {x : Subscription} {a : Millis} (h : ActivatedAt b.trace tid x a) : x.startAt = a := by
  obtain ⟨resolvedAt, post, pre, htr, hread⟩ := h
  exact Option.some.inj ((commit_clock hr htr).symm.trans hread)

/-- The activation of a stored Subscription. -/
theorem subscription_activated {s : Store} (hs : s.subscriptions = .empty)
    (hr : (app cfg).Run ok (Machine.start s) b) {x : Subscription}
    (hx : x ∈ b.store.subscriptions) : ∃ tid, ActivatedAt b.trace tid x x.startAt := by
  obtain ⟨tid, resolvedAt, hmem⟩ := (provenance_run (.start hs) hr).bought x hx
  obtain ⟨post, pre, htr⟩ := List.append_of_mem hmem
  exact ⟨tid, resolvedAt, post, pre, htr, commit_clock hr htr⟩

end StreamingService

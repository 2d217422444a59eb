import StreamingService.Footprint
import StreamingService.Frame

/-!
# Payments — Ledger

What one statement can do to `transactions` and `subscriptions`. Only five
statements write either table, and only when the database accepts them;
`exec_ledger` says once, for every statement, what it leaves behind. Every
invariant of the payment part is derived from it.
-/

namespace StreamingService

open Lib

/-- An accepted write to `transactions` or `subscriptions`. -/
def isLedgerWrite : Prog.Entry Sig → Bool
  | ⟨.transaction (.create _ _ _), .ok _⟩ => true
  | ⟨.transaction (.setProviderReference _ _), .ok _⟩ => true
  | ⟨.transaction (.markFailed _ _ _), .ok _⟩ => true
  | ⟨.transaction (.markTimedOut _ _), .ok _⟩ => true
  | ⟨.subscription (.commitActivation _ _ _ _ _), .ok _⟩ => true
  | _ => false

/-- The rows of `s'` are those of `s`, with `f` applied to the row `id`. -/
def RowUpdated (s s' : Store) (id : String) (f : Transaction → Transaction) : Prop :=
  s'.transactions.rows = s.transactions.rows.map fun t => if t.id == id then f t else t

/-- **What one statement did to the payment tables.** -/
inductive LedgerStep (o : Ambient) (s s' : Store) : Prog.Entry Sig → Prop
  | quiet {e : Prog.Entry Sig} (hquiet : isLedgerWrite e = false)
      (ht : s'.transactions = s.transactions) (hs : s'.subscriptions = s.subscriptions) :
      LedgerStep o s s' e
  | create {userId : String} {method : PaymentMethod} {amount : Option Rat} {cents : Int}
      (hcents : amount.bind toCents = some cents)
      (huser : ∃ u ∈ s.users, u.id = userId)
      (ht : s.transactions.insert? (.pending o userId method cents) = some s'.transactions)
      (hs : s'.subscriptions = s.subscriptions) :
      LedgerStep o s s' ⟨.transaction (.create userId method amount),
        .ok (.pending o userId method cents)⟩
  | refer {id : String} {ref : JsVal} {f : Option String → Option String} {t : Transaction}
      (href : textUpdate ref = some f) (ht : t ∈ s.transactions) (hid : t.id = id)
      (hrows : RowUpdated s s' id (.refer f)) (hs : s'.subscriptions = s.subscriptions) :
      LedgerStep o s s' ⟨.transaction (.setProviderReference id ref), .ok (t.refer f)⟩
  | fail {id : String} {resolvedAt : Millis} {reason : JsVal}
      {f : Option String → Option String} {t : Transaction}
      (hreason : textUpdate reason = some f) (ht : t ∈ s.transactions) (hid : t.id = id)
      (hrows : RowUpdated s s' id (.fail resolvedAt f)) (hs : s'.subscriptions = s.subscriptions) :
      LedgerStep o s s' ⟨.transaction (.markFailed id resolvedAt reason), .ok (t.fail resolvedAt f)⟩
  | timeOut {id : String} {resolvedAt : Millis} {t : Transaction}
      (ht : t ∈ s.transactions) (hid : t.id = id)
      (hrows : RowUpdated s s' id (.timeOut resolvedAt)) (hs : s'.subscriptions = s.subscriptions) :
      LedgerStep o s s' ⟨.transaction (.markTimedOut id resolvedAt), .ok (t.timeOut resolvedAt)⟩
  | activate {id userId : String} {resolvedAt startAt expiresAt : Millis} {t : Transaction}
      {row : Subscription}
      (hrow : row = { id := o.fresh, userId, status := .ACTIVE, startAt, expiresAt,
                      transactionId := id })
      (ht : t ∈ s.transactions) (hid : t.id = id)
      (hrows : RowUpdated s s' id (.succeed resolvedAt))
      (hs : s.subscriptions.insert? row = some s'.subscriptions) :
      LedgerStep o s s'
        ⟨.subscription (.commitActivation id userId resolvedAt startAt (some expiresAt)), .ok row⟩

/-! ## Every statement is such a step -/

theorem transaction_ledger (o : Ambient) (c : TransactionStmt) (s : Store) :
    LedgerStep o s (c.answer o s).2 ⟨.transaction c, (c.answer o s).1⟩ := by
  cases c with
  | findFirstPending userId => exact .quiet rfl rfl rfl
  | findById id =>
      simp only [TransactionStmt.answer]
      split <;> exact .quiet rfl rfl rfl
  | findByReference ref =>
      simp only [TransactionStmt.answer]
      split <;> exact .quiet rfl rfl rfl
  | findStale cutoff =>
      simp only [TransactionStmt.answer]
      split <;> exact .quiet rfl rfl rfl
  | findManyOfUser userId => exact .quiet rfl rfl rfl
  | create userId method amount =>
      simp only [TransactionStmt.answer]
      cases hcents : amount.bind toCents with
      | none => exact .quiet rfl rfl rfl
      | some cents =>
          cases huser : s.users.find? fun u => u.id == userId with
          | none => exact .quiet rfl rfl rfl
          | some u =>
              obtain ⟨hu, hid⟩ := Table.mem_of_find? huser
              dsimp only
              split
              · exact .quiet rfl rfl rfl
              · rename_i ts hins
                exact .create hcents ⟨u, hu, by simpa using hid⟩ hins rfl
  | setProviderReference id ref =>
      simp only [TransactionStmt.answer]
      cases href : textUpdate ref with
      | none => exact .quiet rfl rfl rfl
      | some f =>
          cases hfind : s.transactions.find? fun t => t.id == id with
          | none => exact .quiet rfl rfl rfl
          | some t =>
              obtain ⟨ht, hid⟩ := Table.mem_of_find? hfind
              dsimp only
              split
              · exact .quiet rfl rfl rfl
              · rename_i ts hup
                exact .refer href ht (by simpa using hid) (Table.update?_eq_some hup) rfl
  | markFailed id resolvedAt reason =>
      simp only [TransactionStmt.answer]
      cases hreason : textUpdate reason with
      | none => exact .quiet rfl rfl rfl
      | some f =>
          simp only [updateTransaction]
          cases hfind : s.transactions.find? fun t => t.id == id with
          | none => exact .quiet rfl rfl rfl
          | some t =>
              obtain ⟨ht, hid⟩ := Table.mem_of_find? hfind
              exact .fail hreason ht (by simpa using hid) rfl rfl
  | markTimedOut id resolvedAt =>
      simp only [TransactionStmt.answer, updateTransaction]
      cases hfind : s.transactions.find? fun t => t.id == id with
      | none => exact .quiet rfl rfl rfl
      | some t =>
          obtain ⟨ht, hid⟩ := Table.mem_of_find? hfind
          exact .timeOut ht (by simpa using hid) rfl rfl

theorem subscription_ledger (o : Ambient) (c : SubscriptionStmt) (s : Store) :
    LedgerStep o s (c.answer o s).2 ⟨.subscription c, (c.answer o s).1⟩ := by
  cases c with
  | findActive userId now => exact .quiet rfl rfl rfl
  | findLatest userId => exact .quiet rfl rfl rfl
  | readForActivation id => exact .quiet rfl rfl rfl
  | commitActivation id userId resolvedAt startAt expiresAt =>
      simp only [SubscriptionStmt.answer]
      cases hfind : s.transactions.find? fun t => t.id == id with
      | none => exact .quiet rfl rfl rfl
      | some t =>
          obtain ⟨ht, hid⟩ := Table.mem_of_find? hfind
          cases hdate : prismaDate expiresAt with
          | none => exact .quiet rfl rfl rfl
          | some date =>
              obtain ⟨rfl, -⟩ := prismaDate_eq_some.mp hdate
              cases s.users.find? fun u => u.id == userId with
              | none => exact .quiet rfl rfl rfl
              | some u =>
                  dsimp only
                  split
                  · exact .quiet rfl rfl rfl
                  · rename_i subs hins
                    exact .activate rfl ht (by simpa using hid) rfl hins

theorem isLedgerWrite_error (c : Cmd) (e : Exception) :
    isLedgerWrite ⟨c, .error e⟩ = false := by
  cases c with
  | transaction c => cases c <;> rfl
  | subscription c => cases c <;> rfl
  | _ => rfl

/-- **The ledger's inversion lemma**: one statement, whatever it is. -/
theorem exec_ledger (o : Ambient) (c : Cmd) (s : Store) :
    LedgerStep o s (exec o c s).2 ⟨c, (exec o c s).1⟩ := by
  have refused : ∀ c e, LedgerStep o s s ⟨c, .error e⟩ := fun c e =>
    .quiet (isLedgerWrite_error c e) rfl rfl
  have frame := exec_frame o s c
  cases c with
  | transaction c =>
      exact exec_cases (P := fun out => LedgerStep o s out.2 ⟨_, out.1⟩) (refused _)
        (transaction_ledger o c s)
  | subscription c =>
      exact exec_cases (P := fun out => LedgerStep o s out.2 ⟨_, out.1⟩) (refused _)
        (subscription_ledger o c s)
  | _ =>
      obtain ⟨ht, hs⟩ := frame.payments (by simp)
      exact .quiet rfl ht hs

/-! ## Rows over one statement -/

theorem transactions_eq_of_id {s : Store} {t t' : Transaction} (ht : t ∈ s.transactions)
    (ht' : t' ∈ s.transactions) (h : t.id = t'.id) : t = t' :=
  Table.eq_of_clash ht ht' (by simp [Indexed.clash, h])

theorem RowUpdated.mem {s s' : Store} {id : String} {f : Transaction → Transaction}
    (h : RowUpdated s s' id f) {x : Transaction} :
    x ∈ s'.transactions ↔ ∃ t ∈ s.transactions, (if t.id == id then f t else t) = x := by
  rw [← Table.mem_rows, h, List.mem_map]
  exact Iff.rfl

/-- The updated row of an update that keeps ids. -/
theorem RowUpdated.of_id {s s' : Store} {id : String} {f : Transaction → Transaction}
    (h : RowUpdated s s' id f) {t : Transaction} (ht : t ∈ s.transactions) (hid : t.id = id) :
    f t ∈ s'.transactions :=
  h.mem.mpr ⟨t, ht, by simp [hid]⟩

/-- Where a row of an updated table comes from. -/
theorem RowUpdated.cases {s s' : Store} {id : String} {f : Transaction → Transaction}
    (h : RowUpdated s s' id f) {t' : Transaction} (ht' : t' ∈ s'.transactions) :
    (∃ t ∈ s.transactions, t.id = id ∧ t' = f t) ∨ (t' ∈ s.transactions ∧ t'.id ≠ id) := by
  obtain ⟨t, ht, heq⟩ := h.mem.mp ht'
  by_cases hid : t.id = id
  · exact .inl ⟨t, ht, hid, by simpa [hid] using heq.symm⟩
  · have : t = t' := by simpa [hid] using heq
    subst this
    exact .inr ⟨ht, hid⟩

/-- A row the update leaves alone. -/
theorem RowUpdated.of_ne {s s' : Store} {id : String} {f : Transaction → Transaction}
    (h : RowUpdated s s' id f) {t : Transaction} (ht : t ∈ s.transactions) (hid : t.id ≠ id) :
    t ∈ s'.transactions :=
  h.mem.mpr ⟨t, ht, by simp [hid]⟩

/-- What no statement changes about a row. -/
structure Transaction.SameAs (t t' : Transaction) : Prop where
  id : t'.id = t.id
  userId : t'.userId = t.userId
  method : t'.method = t.method
  amount : t'.amount = t.amount
  initiatedAt : t'.initiatedAt = t.initiatedAt

namespace Transaction.SameAs

theorem refl (t : Transaction) : t.SameAs t := ⟨rfl, rfl, rfl, rfl, rfl⟩

theorem trans {a b c : Transaction} (hab : a.SameAs b) (hbc : b.SameAs c) : a.SameAs c :=
  ⟨hbc.id.trans hab.id, hbc.userId.trans hab.userId, hbc.method.trans hab.method,
    hbc.amount.trans hab.amount, hbc.initiatedAt.trans hab.initiatedAt⟩

end Transaction.SameAs

/-- An update that keeps what `SameAs` names moves rows and nothing more. -/
theorem RowUpdated.row {s s' : Store} {id : String} {f : Transaction → Transaction}
    (h : RowUpdated s s' id f) (hf : ∀ t : Transaction, t.SameAs (f t)) {t : Transaction}
    (ht : t ∈ s.transactions) :
    (if t.id == id then f t else t) ∈ s'.transactions ∧
      t.SameAs (if t.id == id then f t else t) := by
  refine ⟨h.mem.mpr ⟨t, ht, rfl⟩, ?_⟩
  split
  · exact hf t
  · exact .refl t

namespace LedgerStep

variable {o : Ambient} {s s' : Store} {e : Prog.Entry Sig}

/-- Rows are never deleted and keep what they were created with. -/
theorem row (h : LedgerStep o s s' e) {t : Transaction} (ht : t ∈ s.transactions) :
    ∃ t' ∈ s'.transactions, t.SameAs t' := by
  cases h with
  | quiet _ hts _ => exact ⟨t, hts ▸ ht, .refl t⟩
  | create _ _ hts _ => exact ⟨t, (Table.mem_insert? hts).mpr (.inl ht), .refl t⟩
  | refer _ _ _ hrows _ => exact ⟨_, hrows.row (fun _ => ⟨rfl, rfl, rfl, rfl, rfl⟩) ht⟩
  | fail _ _ _ hrows _ => exact ⟨_, hrows.row (fun _ => ⟨rfl, rfl, rfl, rfl, rfl⟩) ht⟩
  | timeOut _ _ hrows _ => exact ⟨_, hrows.row (fun _ => ⟨rfl, rfl, rfl, rfl, rfl⟩) ht⟩
  | activate _ _ _ hrows _ => exact ⟨_, hrows.row (fun _ => ⟨rfl, rfl, rfl, rfl, rfl⟩) ht⟩

/-- Subscriptions are never deleted or changed. -/
theorem subscription (h : LedgerStep o s s' e) {x : Subscription} (hx : x ∈ s.subscriptions) :
    x ∈ s'.subscriptions := by
  cases h with
  | quiet _ _ hs => exact hs ▸ hx
  | create _ _ _ hs => exact hs ▸ hx
  | refer _ _ _ _ hs => exact hs ▸ hx
  | fail _ _ _ _ hs => exact hs ▸ hx
  | timeOut _ _ _ hs => exact hs ▸ hx
  | activate _ _ _ _ hs => exact (Table.mem_insert? hs).mpr (.inl hx)

/-- **Only an activation adds a Subscription**: `ACTIVE`, and of a stored payment. -/
theorem subscription_cases (h : LedgerStep o s s' e) {x : Subscription}
    (hx : x ∈ s'.subscriptions) : x ∈ s.subscriptions ∨ (x.status = .ACTIVE ∧
      (∃ t ∈ s'.transactions, t.id = x.transactionId) ∧
      ∃ resolvedAt, e = ⟨.subscription (.commitActivation x.transactionId x.userId resolvedAt
        x.startAt (some x.expiresAt)), .ok x⟩) := by
  cases h with
  | quiet _ _ hs => exact .inl (hs ▸ hx)
  | create _ _ _ hs => exact .inl (hs ▸ hx)
  | refer _ _ _ _ hs => exact .inl (hs ▸ hx)
  | fail _ _ _ _ hs => exact .inl (hs ▸ hx)
  | timeOut _ _ _ hs => exact .inl (hs ▸ hx)
  | activate hrow ht hid hrows hs =>
      rcases (Table.mem_insert? hs).mp hx with hx | rfl
      · exact .inl hx
      · subst hrow
        exact .inr ⟨rfl, ⟨_, hrows.of_id ht hid, hid⟩, _, rfl⟩

/-- Every Subscription is written `ACTIVE`. -/
theorem subscriptions_active (h : LedgerStep o s s' e)
    (hs : ∀ x ∈ s.subscriptions, x.status = .ACTIVE) :
    ∀ x ∈ s'.subscriptions, x.status = .ACTIVE := by
  intro x hx
  rcases h.subscription_cases hx with hx | ⟨hactive, -⟩
  · exact hs x hx
  · exact hactive

end LedgerStep

/-! ## What the answers say -/

/-- What an answer says about the store it was given in; the reads change
nothing, so before and after are the same. -/
def Answers (s : Store) : Prog.Entry Sig → Prop
  | ⟨.transaction (.create _ _ _), .ok t⟩ => t ∈ s.transactions
  | ⟨.transaction (.findById id), .ok found⟩ =>
      ∃ text, id = some (.str text) ∧ found = s.transactions.find? fun t => t.id == text
  | ⟨.transaction (.findByReference ref), .ok found⟩ =>
      ∃ text, ref = some (.str text) ∧
        found = s.transactions.find? fun t => t.providerReference == some text
  | ⟨.subscription (.readForActivation id), .ok found⟩ =>
      found = (s.transactions.find? fun t => t.id == id).map fun t =>
        (t, s.subscriptions.find? fun x => x.transactionId == t.id)
  | ⟨.subscription (.findActive userId now), .ok found⟩ =>
      found = s.subscriptions.find? fun x =>
        x.userId == userId && x.status == .ACTIVE && decide (now < x.expiresAt)
  | _ => True

theorem answers_error (s : Store) (c : Cmd) (e : Exception) : Answers s ⟨c, .error e⟩ := by
  cases c with
  | transaction c => cases c <;> trivial
  | subscription c => cases c <;> trivial
  | _ => trivial

theorem JsVal.text?_eq_some {v : JsVal} {text : String} (h : v.text? = some text) :
    v = some (.str text) := by
  unfold JsVal.text? at h
  split at h
  · cases h
    rfl
  · cases h

theorem answer_answers (o : Ambient) (c : Cmd) (s : Store) :
    Answers (answer o c s).2 ⟨c, (answer o c s).1⟩ := by
  cases c with
  | transaction c =>
      cases c with
      | create userId method amount =>
          simp only [answer, TransactionStmt.answer]
          cases amount.bind toCents with
          | none => trivial
          | some cents =>
              cases s.users.find? fun u => u.id == userId with
              | none => trivial
              | some u =>
                  cases hins : s.transactions.insert? (.pending o userId method cents) with
                  | none => simp only [hins]; trivial
                  | some ts =>
                      simp only [hins]
                      exact (Table.mem_insert? hins).mpr (.inr rfl)
      | findById id =>
          simp only [answer, TransactionStmt.answer]
          cases htext : id.text? with
          | none => trivial
          | some text => exact ⟨text, JsVal.text?_eq_some htext, rfl⟩
      | findByReference ref =>
          simp only [answer, TransactionStmt.answer]
          cases htext : ref.text? with
          | none => trivial
          | some text => exact ⟨text, JsVal.text?_eq_some htext, rfl⟩
      | _ => trivial
  | subscription c =>
      cases c with
      | readForActivation id => rfl
      | findActive userId now => rfl
      | _ => trivial
  | _ => trivial

theorem exec_answers (o : Ambient) (c : Cmd) (s : Store) :
    Answers (exec o c s).2 ⟨c, (exec o c s).1⟩ :=
  exec_cases (P := fun out => Answers out.2 ⟨c, out.1⟩) (answers_error s c) (answer_answers o c s)

/-- The Transaction rows an answer shows. -/
def shown : Prog.Entry Sig → Option Transaction
  | ⟨.transaction (.create _ _ _), .ok t⟩ => some t
  | ⟨.transaction (.findById _), .ok t⟩ => t
  | ⟨.transaction (.findByReference _), .ok t⟩ => t
  | ⟨.subscription (.readForActivation _), .ok (some (t, _))⟩ => some t
  | _ => none

theorem shown_error (c : Cmd) (e : Exception) : shown ⟨c, .error e⟩ = none := by
  cases c with
  | transaction c => cases c <;> rfl
  | subscription c => cases c <;> rfl
  | _ => rfl

theorem Answers.shown_mem {s : Store} {e : Prog.Entry Sig} (h : Answers s e) {t : Transaction}
    (ht : shown e = some t) : t ∈ s.transactions := by
  obtain ⟨c, r⟩ := e
  cases r with
  | error e =>
      rw [shown_error] at ht
      cases ht
  | ok a =>
      cases c with
      | transaction c =>
          cases c with
          | create userId method amount =>
              cases ht
              exact h
          | findById id =>
              obtain ⟨text, _, hfind⟩ := h
              exact (Table.mem_of_find? (hfind.symm.trans ht)).1
          | findByReference ref =>
              obtain ⟨text, _, hfind⟩ := h
              exact (Table.mem_of_find? (hfind.symm.trans ht)).1
          | _ => cases ht
      | subscription c =>
          cases c with
          | readForActivation id =>
              match a, h, ht with
              | some (t', x), h, rfl =>
                  obtain ⟨t', hfind, heq⟩ := Option.map_eq_some_iff.mp h.symm
                  cases heq
                  exact (Table.mem_of_find? hfind).1
          | _ => cases ht
      | _ => cases ht

/-- The transaction of an activation reads the row it was asked for, and its
Subscription if there is one. -/
theorem Answers.readForActivation {s : Store} {id : String} {t : Transaction}
    {x : Option Subscription}
    (h : Answers s ⟨.subscription (.readForActivation id), .ok (some (t, x))⟩) :
    t ∈ s.transactions ∧ t.id = id ∧
      x = s.subscriptions.find? fun x => x.transactionId == id := by
  obtain ⟨t', hfind, heq⟩ := Option.map_eq_some_iff.mp h.symm
  cases heq
  obtain ⟨ht, hid⟩ := Table.mem_of_find? hfind
  have hid : t.id = id := by simpa using hid
  subst hid
  exact ⟨ht, rfl, rfl⟩

/-! ## Runs under a condition on the steps -/

/-- Every step's statement, with the answer the store gives it, meets `C`. -/
def stepsMeet (C : Store → Prog.Entry Sig → Prop) (sys : AppState) :
    Action Ambient Request → Prop
  | .begin _ => True
  | .step tid o => ∀ c, sys.pending tid = some c → C sys.store ⟨c, (exec o c sys.store).1⟩

instance {C : Store → Prog.Entry Sig → Prop} [∀ s e, Decidable (C s e)] (sys : AppState)
    (act : Action Ambient Request) : Decidable (stepsMeet C sys act) :=
  match act with
  | .begin _ => isTrue trivial
  | .step tid o => inferInstanceAs (Decidable
      (∀ c ∈ sys.pending tid, C sys.store ⟨c, (exec o c sys.store).1⟩))

variable {cfg : AppConfig} {C : Store → Prog.Entry Sig → Prop} {a b : AppState}

/-- **The ledger's invariant rule**: what every step that meets the condition
keeps holds in every state such a run reaches. -/
theorem ledger_run {I : Store → Prop}
    (hstep : ∀ o s s' e, LedgerStep o s s' e → C s e → I s → I s') (ha : I a.store)
    (hr : (app cfg).Run (stepsMeet C) a b) : I b.store :=
  Machine.Run.keeps (I := fun s _ => I s) (fun _ _ _ _ h => h)
    (fun sys _ o c h hok hpend => hstep o _ _ _ (exec_ledger o c sys.store) (hok c hpend) h) ha hr

/-- One action, read off the payment tables: nothing, or one statement that
meets the condition exactly when the action does. -/
theorem next_ledger {act : Action Ambient Request} (h : (app cfg).next a act = some b) :
    (a.store = b.store ∧ stepsMeet C a act) ∨
      ∃ o e, LedgerStep o a.store b.store e ∧ (stepsMeet C a act ↔ C a.store e) := by
  rcases (app cfg).next_cases h with ⟨q, rfl, rfl⟩ | ⟨tid, o, q, c, k, rfl, hth, rfl⟩
  · exact .inl ⟨rfl, trivial⟩
  · have hpend : a.pending tid = some c := by simp [Sys.pending, hth]
    refine .inr ⟨o, _, exec_ledger o c a.store, fun hmeet => hmeet c hpend, ?_⟩
    intro hC c' hc'
    rw [hpend] at hc'
    cases hc'
    exact hC

end StreamingService
